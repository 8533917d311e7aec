import EntityGraph.Proofs.Parents
import EntityGraph.Proofs.WholeDocuments

namespace EntityGraph

namespace FileTree

variable {t₀ t t' made : FileTree} {p : Path} {l x : Location} {content : List UInt8}
  {i : Option Interruption} {e : ReplaceError}

/-- The file was replaced, and nothing else was changed. It is found by its path unless the way
there leads through a link in its own place, and has no other name. -/
structure ReplacedOnly (t t' : FileTree) (p : Path) (content : List UInt8) : Prop where
  working : t'.working = t.working
  stands : Stands t t' p content
  holds : (∀ w, t.way? p = some w → w.place ∉ w.links) → Holds t t' p content
  siblingGone : ∀ v, t.way? (temporarySibling p) = some v → t'.find? v.place = none
  noSibling : ∀ l, t'.place (temporarySibling p) = .ok l → t'.find? l = none
  frame : ∀ x, (∀ w, t.way? p = some w → x ≠ w.place) →
    (∀ v, t.way? (temporarySibling p) = some v → x ≠ v.place) →
    t'.find? x = t.find? x ∨ MadeAbove t t' p x
  names : ∀ w, t.way? p = some w → SameNames t t' w.place

/-- Nothing was replaced. What the path led to it leads to still, unless that was its own sibling;
and what is left at the sibling is what cannot be removed. -/
structure NotReplaced (t t' : FileTree) (p : Path) : Prop where
  working : t'.working = t.working
  kept : ∀ w, t.way? p = some w →
    t'.find? w.place = t.find? w.place ∨ MadeAbove t t' p w.place
  reads : ReadsStill t t' p [temporarySibling p] []
  sibling : ∀ l e, t'.place (temporarySibling p) = .ok l → t'.find? l = some e →
    e.isDirectory = true ∨ t'.mayChange l = false
  frame : ∀ x, t'.find? x = t.find? x ∨ MadeAbove t t' p x ∨
    ∃ v rights old, t.way? (temporarySibling p) = some v ∧ x = v.place ∧
      t.find? x = some (.file rights old)
  names : ∀ x y, t'.sameFile x y = t.sameFile x y

section Discard

variable (hin : Inherits t₀ t) (hclear : ClearBeside t₀ p)
include hin hclear

theorem inherits_discard : Inherits t₀ (t.discard (temporarySibling p)) := by
  unfold discard
  split
  · rename_i t' hunlink
    obtain ⟨l, e, hplace, hfind, hnodir, rfl⟩ := of_unlink_eq_ok hunlink
    obtain ⟨v, hv, rfl, -⟩ := exists_way_of_place hin (endsInDot_temporarySibling p) hplace
    cases e with
    | directory r => cases hnodir
    | link target => exact absurd (hin.link hfind) (hclear.noLink v target hv)
    | file r old =>
        have hsame := sameFile_erase_of_alone hfind (hin.alone (hclear.alone v hv))
        refine ⟨hin.working, fun {x target} hx => ?_, fun {x target} hx => ?_,
          fun hx y hy => hin.alone hx y ((hsame _ y).symm.trans hy)⟩
        · rw [find?_erase_of_file hfind] at hx
          split at hx
          · cases hx
          · exact hin.link hx
        · rw [find?_erase_of_file hfind, if_neg]
          · exact hin.stays hx
          · rintro rfl
            exact hclear.noLink v target hv hx
  · exact hin

theorem sibling_of_discard {e : Entry}
    (hplace : (t.discard (temporarySibling p)).place (temporarySibling p) = .ok l)
    (hfind : (t.discard (temporarySibling p)).find? l = some e) :
    e.isDirectory = true ∨ (t.discard (temporarySibling p)).mayChange l = false := by
  have hdiscarded := inherits_discard hin hclear
  obtain ⟨v, hv, rfl, -⟩ :=
    exists_way_of_place hdiscarded (endsInDot_temporarySibling p) hplace
  unfold discard at hplace hfind ⊢
  split at hfind
  -- If something was removed, then at the place that the path leads to still.
  · rename_i t' hunlink
    obtain ⟨l', e', hplace', -, -, rfl⟩ := of_unlink_eq_ok hunlink
    obtain ⟨v', hv', rfl, -⟩ := exists_way_of_place hin (endsInDot_temporarySibling p) hplace'
    rw [hv, Option.some.injEq] at hv'
    rw [hv', find?_erase, if_pos (List.isSuffixOf_iff_suffix.mpr List.suffix_rfl)] at hfind
    cases hfind
  · rename_i cause hunlink
    rw [hunlink] at hplace
    by_contra hnot
    rw [not_or, Bool.not_eq_true, Bool.not_eq_false] at hnot
    rw [unlink_of_place hplace hfind hnot.1 hnot.2] at hunlink
    cases hunlink

end Discard

section Failed

theorem notReplaced_of_frame (hworking : t'.working = t.working)
    (hframe : ∀ x, t'.find? x = t.find? x ∨ MadeAbove t t' p x ∨
      ∃ v rights old, t.way? (temporarySibling p) = some v ∧ x = v.place ∧
        t.find? x = some (.file rights old))
    (hnames : ∀ x y, t'.sameFile x y = t.sameFile x y)
    (hsibling : ∀ l e, t'.place (temporarySibling p) = .ok l → t'.find? l = some e →
      e.isDirectory = true ∨ t'.mayChange l = false) : NotReplaced t t' p where
  working := hworking
  kept w hw := by
    rcases hframe w.place with hsame | hmade | ⟨v, rights, old, hv, hplace, -⟩
    · exact .inl hsame
    · exact .inr hmade
    · exact absurd hplace (place_ne_sibling hw hv)
  reads := by
    have hleaves : Leaves t t t' [temporarySibling p] [] := by
      refine ⟨hworking, fun {x e} hx => ?_⟩
      rcases hframe x with hsame | hmade | ⟨v, rights, old, hv, hplace, hfile⟩
      · exact .inl (hsame.trans hx)
      · rw [hmade.1] at hx
        cases hx
      · rw [hx, Option.some.injEq] at hfile
        exact .inr (.inl ⟨_, List.mem_singleton_self _, v, rights, old, hv, hplace, hfile⟩)
    exact hleaves.readsStill p
  sibling := hsibling
  frame := hframe
  names := hnames

theorem notReplaced_of_replaceUnder (hclear : ClearBeside t p) (hi : ∀ j ∈ i, j.Possible t p)
    (h : t.replaceUnder i p content = (t', .error e)) : NotReplaced t t' p := by
  have hgrown := grown_makeParentUnder i t p
  have hmade := find?_makeParentUnder i t p
  rcases of_replaceUnder_eq_error (.refl t) hclear h with hparent | ⟨made, hparent, hdiscarded⟩
  · rw [hparent] at hgrown hmade
    refine notReplaced_of_frame hgrown.working (fun x => (hmade x).imp_right .inl)
      (fun x y => sameFile_congr (hgrown.number? x) (hgrown.number? y)) ?_
    intro l e' hplace hfind
    rw [find?_sibling_of_makeParentUnder hi hparent hplace] at hfind
    cases hfind
  · rw [hparent] at hgrown hmade
    obtain ⟨hspares, u, hin, hu⟩ := hdiscarded
    refine notReplaced_of_frame (hspares.working.trans hgrown.working) (fun x => ?_)
      (fun x y => (hspares.same x y).trans
        (sameFile_congr (hgrown.number? x) (hgrown.number? y))) ?_
    · rcases hspares.find? x with hsame | ⟨v, rights, old, hv, hplace, hfile⟩
      · rcases hmade x with hx | hx
        · exact .inl (hsame.trans hx)
        · exact .inr (.inl (hx.of_find?_eq hsame))
      · refine .inr (.inr ⟨v, rights, old, hv, hplace, ?_⟩)
        rcases hmade x with hx | hx
        · exact hx ▸ hfile
        · rw [hx.2.1] at hfile
          cases hfile
    · intro l e' hplace hfind
      subst hu
      exact sibling_of_discard hin hclear hplace hfind

theorem parent?_of_makeParent_eq_error (h : t.makeParent p = (t', .error e)) :
    p.parent? = some e.path := by
  unfold makeParent at h
  split at h
  · cases h
  · rename_i above habove
    split at h
    · cases h
    · cases h
      exact habove

theorem path_of_replaceUnder_eq_error (h : t.replaceUnder i p content = (t', .error e)) :
    e.path = p ∨ p.parent? = some e.path := by
  cases i with
  | none =>
      rw [replaceUnder, replace] at h
      split at h
      · rename_i made cause hmake
        cases h
        exact .inr (parent?_of_makeParent_eq_error hmake)
      · split at h <;> cases h
        exact .inl rfl
  | some j =>
      rw [replaceUnder, interrupt] at h
      split at h
      · rename_i left above _ habove
        cases h
        exact .inr habove
      · split at h
        · rename_i made cause hmake
          cases h
          exact .inr (parent?_of_makeParent_eq_error hmake)
        · split at h
          · split at h <;> cases h <;> exact .inl rfl
          · cases h
            exact .inl rfl

end Failed

theorem replacedOnly_of_replace (hclear : ClearBeside t p)
    (h : t.replace p content = (t', .ok ())) : ReplacedOnly t t' p content := by
  obtain ⟨made, v, w, rights, hparent, hreplaced⟩ := exists_replaced (.refl t) hclear h
  have hmade := find?_makeParentUnder none t p
  rw [makeParentUnder, hparent] at hmade
  have hin := hreplaced.inherits (.refl t) hclear
  have hgone : t'.find? v.place = none := by rw [hreplaced.find?, if_pos rfl]
  refine
    { working := hreplaced.working
      stands := ⟨w, rights, hreplaced.target, hreplaced.find?_target⟩
      holds := fun hopen => hreplaced.holds hclear.noLink (hopen w hreplaced.target) rfl
        hreplaced.grown.working (fun _ _ => id) (fun _ _ => id) (fun _ _ => rfl) rfl
      siblingGone := ?_
      noSibling := ?_
      frame := ?_
      names := ?_ }
  · intro v' hv'
    rw [hreplaced.sibling, Option.some.injEq] at hv'
    rw [← hv', hgone]
  · intro l hplace
    obtain ⟨v', hv', rfl, -⟩ := exists_way_of_place hin (endsInDot_temporarySibling p) hplace
    rw [hreplaced.sibling, Option.some.injEq] at hv'
    rw [← hv', hgone]
  · intro x hw hv
    have hx : t'.find? x = made.find? x := by
      rw [hreplaced.find?, if_neg (hv v hreplaced.sibling), if_neg (hw w hreplaced.target)]
    exact (hmade x).imp hx.trans fun habove => habove.of_find?_eq hx
  · intro w' hw'
    rw [hreplaced.target, Option.some.injEq] at hw'
    subst hw'
    refine ⟨hreplaced.names.alone, fun x y hx hy => (hreplaced.names.same x y hx hy).trans ?_⟩
    exact sameFile_congr (hreplaced.grown.number? x) (hreplaced.grown.number? y)

end FileTree

namespace Graph

open FileTree

def replaceDocumentUnder (i : Option Interruption) (t : FileTree) (p : Path) (text : String) :
    FileTree × Except AnalysisError Unit :=
  match t.replaceUnder i p (contentOf text) with
  | (t', .ok ()) => (t', .ok ())
  | (t', .error e) => (t', .error (.file e.path e.cause))

structure Framed (i : Option Interruption) (t : FileTree) (p : Path) (text : String) : Prop where
  done : ∀ t', replaceDocumentUnder i t p text = (t', .ok ()) →
    ReplacedOnly t t' p (contentOf text)
  failed : ∀ t' e, replaceDocumentUnder i t p text = (t', .error e) → NotReplaced t t' p

theorem framed_replaceDocument (t : FileTree) (p : Path) (value : Json)
    (hlink : NoLinkBeside t p) (halone : AloneBeside t p) :
    replaceDocumentUnder none t p value.prettyText = replaceDocument t p value.prettyText ∧
      ∀ i : Option Interruption, (∀ j ∈ i, j.Possible t p) → Framed i t p value.prettyText := by
  have hclear : ClearBeside t p := ⟨hlink, halone⟩
  refine ⟨rfl, fun i hi => ⟨fun t' h => ?_, fun t' e h => ?_⟩⟩
  · unfold replaceDocumentUnder at h
    split at h
    · rename_i made hreplaced
      cases h
      exact replacedOnly_of_replace hclear
        (replace_of_replaceUnder_eq_ok (.refl t) hclear hreplaced)
    · cases h
  · unfold replaceDocumentUnder at h
    split at h
    · cases h
    · rename_i made cause hfailed
      cases h
      exact notReplaced_of_replaceUnder hclear hi hfailed

def deepDirectory : Path := .ofString "link/new/deep"

def deepOutput : Path := .ofString "link/new/deep/Components.json"

def deniedParent : Interruption := ⟨.makingParents 1, .denied⟩

theorem framed_replaceDocument_deep :
    NoLinkBeside linkedTree deepOutput ∧ AloneBeside linkedTree deepOutput ∧
      (∀ j ∈ some deniedParent, j.Possible linkedTree deepOutput) ∧
      replaceDocumentUnder none linkedTree deepOutput (Json.array []).prettyText =
        replaceDocument linkedTree deepOutput (Json.array []).prettyText ∧
      Framed (some deniedParent) linkedTree deepOutput (Json.array []).prettyText := by
  have hlink : NoLinkBeside linkedTree deepOutput := by decide +kernel
  have halone : AloneBeside linkedTree deepOutput := by decide +kernel
  have hpossible : ∀ j ∈ some deniedParent, j.Possible linkedTree deepOutput := by
    rintro _ ⟨⟩ left above hstage habove
    have hparent : deepOutput.parent? = some deepDirectory := by decide +kernel
    rw [hparent] at habove
    cases habove
    cases hstage
    exact ⟨deepDirectory, by decide +kernel, by decide +kernel⟩
  obtain ⟨hplain, hframed⟩ := framed_replaceDocument linkedTree deepOutput (.array []) hlink halone
  exact ⟨hlink, halone, hpossible, hplain, hframed _ hpossible⟩

def emptyObject : String := (Json.object []).prettyText

def twinTree : FileTree :=
  fresh
    |>.put [Utf8.ofString "out", workingName] (.file fileRights oldContent)
    |>.addName [Utf8.ofString "out", workingName] [Utf8.ofString "out.tmp", workingName]

def bystanderTree : FileTree :=
  fresh
    |>.put [Utf8.ofString "other", workingName] (.file fileRights oldContent)
    |>.addName [Utf8.ofString "other", workingName] [Utf8.ofString "out.tmp", workingName]

/-- The new document takes the place of the link that leads to it, or is the file that could not be
read; the old one is read through its own sibling, or through a directory that was missing. With two
names of one file the sibling stays, or what breaks off is read at the output; and a file with a
second name at the sibling is written over. -/
theorem replaced_otherwise_than_read :
    (NoLinkBeside linkedTree (.ofString "link/../link") ∧
      ∃ t', replaceDocument linkedTree (.ofString "link/../link") emptyObject = (t', .ok ()) ∧
        t'.read (.ofString "link/../link") = .error .notDirectory) ∧
    (NoLinkBeside lockedTree (.ofString "link/Components.json") ∧
      ∃ t', replaceDocument lockedTree (.ofString "link/Components.json") emptyObject =
          (t', .ok ()) ∧
        t'.read (.ofString "link/Components.json") = .error .denied) ∧
    (NoLinkBeside ownSiblingTree (.ofString "store/out") ∧
      ownSiblingTree.read (.ofString "store/out") = .ok oldContent ∧
      ∃ t' e, replaceDocument ownSiblingTree (.ofString "store/out") emptyObject =
          (t', .error e) ∧
        t'.read (.ofString "store/out") = .ok (contentOf emptyObject)) ∧
    (NoLinkBeside blockedTree (.ofString "new/../out") ∧
      blockedTree.read (.ofString "new/../out") = .error .notFound ∧
      ∃ t' e, replaceDocument blockedTree (.ofString "new/../out") emptyObject =
          (t', .error e) ∧
        t'.read (.ofString "new/../out") = .ok oldContent) ∧
    (NoLinkBeside twinTree (.ofString "out") ∧ twinTree.read (.ofString "out") = .ok oldContent ∧
      (∃ t', replaceDocument twinTree (.ofString "out") emptyObject = (t', .ok ()) ∧
        t'.read (.ofString "out.tmp") = .ok (contentOf emptyObject)) ∧
      ∃ t' e, replaceDocumentUnder (some brokenWrite) twinTree (.ofString "out") emptyObject =
          (t', .error e) ∧
        t'.read (.ofString "out") = .ok [0x7B]) ∧
    (NoLinkBeside bystanderTree (.ofString "out") ∧
      bystanderTree.read (.ofString "other") = .ok oldContent ∧
      ∃ t', replaceDocument bystanderTree (.ofString "out") emptyObject = (t', .ok ()) ∧
        t'.read (.ofString "other") = .ok (contentOf emptyObject)) := by
  refine ⟨⟨by decide +kernel, _, rfl, by decide +kernel⟩,
    ⟨by decide +kernel, _, rfl, by decide +kernel⟩, ?_, ?_, ?_, ?_⟩
  · exact ⟨by decide +kernel, by decide +kernel, _, _, rfl, by decide +kernel⟩
  · exact ⟨by decide +kernel, by decide +kernel, _, _, rfl, by decide +kernel⟩
  · exact ⟨by decide +kernel, by decide +kernel, ⟨_, rfl, by decide +kernel⟩, _, _, rfl,
      by decide +kernel⟩
  · exact ⟨by decide +kernel, by decide +kernel, _, rfl, by decide +kernel⟩

end Graph

end EntityGraph

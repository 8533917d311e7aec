import EntityGraph.Proofs.Replacement
import EntityGraph.Proofs.Trails
import Mathlib.Logic.Relation

namespace EntityGraph

namespace Path

variable {p q above : Path} {pieces more : List Name} {n : Nat}

def Above (q p : Path) : Prop := Relation.TransGen (fun a b => b.parent? = some a) q p

theorem above_of_parent? (h : p.parent? = some q) : q.Above p := .single h

theorem Above.of_mem_ancestors (h : q ∈ FileTree.ancestors n above)
    (habove : above.Above p) : q.Above p := by
  induction n generalizing above with
  | zero => cases h
  | succ n ih =>
      rw [FileTree.ancestors] at h
      split at h
      · cases h
      rcases List.mem_cons.mp h with rfl | h
      · exact habove
      · split at h
        · cases h
        · rename_i next hnext
          exact ih h (.head hnext habove)

theorem not_isIdle_of_dropIdleEnd_eq {last : Name} (h : dropIdleEnd pieces = more ++ [last]) :
    isIdle last = false := by
  rw [dropIdleEnd, List.reverse_eq_iff, List.reverse_concat] at h
  have hhead := List.head?_dropWhile_not isIdle pieces.reverse
  rw [h] at hhead
  simpa using hhead

structure GoesOn (q p : Path) : Prop where
  bytes : q.bytes <+: p.bytes
  steps : ∃ more, more ≠ [] ∧ p.steps = q.steps ++ more

variable {kept : List Name} {last : Name}

theorem steps_ne_nil_of_mem (hmem : last ∈ more) (hlast : isIdle last = false) :
    more.filter (!·.isEmpty) ≠ [] := by
  intro hnil
  have hempty := List.filter_eq_nil_iff.mp hnil last hmem
  simp only [isIdle, Bool.or_eq_false_iff] at hlast
  exact hempty (by rw [hlast.1]; rfl)

theorem pieces_ofPieces_of_pieces (hkept : kept ≠ []) (hp : p.pieces = kept ++ more) :
    (ofPieces kept).pieces = kept := by
  have hmem : kept ⊆ p.pieces := hp ▸ List.subset_append_left kept more
  exact pieces_ofPieces (fun _ hpiece => slash_notMem_of_mem_pieces (hmem hpiece)) hkept

theorem goesOn_of_pieces (hkept : kept ≠ []) (hp : p.pieces = kept ++ more) (hmem : last ∈ more)
    (hlast : isIdle last = false) : GoesOn (ofPieces kept) p := by
  constructor
  · rw [p.bytes_eq_joinWith_pieces, hp, Text.joinWith_append hkept (List.ne_nil_of_mem hmem)]
    exact List.prefix_append _ _
  · refine ⟨more.filter (!·.isEmpty), steps_ne_nil_of_mem hmem hlast, ?_⟩
    rw [steps, steps, pieces_ofPieces_of_pieces hkept hp, hp, List.filter_append]

theorem goesOn_root (hp : p.pieces = [] :: more) (hmem : last ∈ more)
    (hlast : isIdle last = false) : GoesOn ⟨[slash]⟩ p := by
  constructor
  · rw [p.bytes_eq_joinWith_pieces, hp]
    exact ⟨Text.joinWith [slash] more,
      (Text.joinWith_append (List.cons_ne_nil [] []) (List.ne_nil_of_mem hmem)).symm⟩
  · refine ⟨more.filter (!·.isEmpty), steps_ne_nil_of_mem hmem hlast, ?_⟩
    rw [steps, hp]
    rfl

theorem goesOn_trimEnd (hp : p.pieces = kept ++ more) (hmem : last ∈ more)
    (hlast : isIdle last = false) (hne : (ofPieces kept).trimEnd.isEmpty = false) :
    GoesOn (ofPieces kept).trimEnd p := by
  by_cases hkept : kept = []
  · rw [hkept] at hne
    exact absurd hne (by decide)
  rw [trimEnd, pieces_ofPieces_of_pieces hkept hp]
  cases kept with
  | nil => exact absurd rfl hkept
  | cons first rest =>
      obtain ⟨idle, hidle⟩ := isPrefix_dropIdleEnd rest
      have hmem' : last ∈ idle ++ more := List.mem_append_right idle hmem
      simp only
      split
      · rename_i hdrop
        rw [hdrop, List.nil_append] at hidle
        rw [← hidle, List.cons_append] at hp
        -- The root keeps its slash, where any other path ends at its only piece.
        split
        · rename_i hroot
          rw [Bool.and_eq_true, List.isEmpty_iff] at hroot
          rw [hroot.1] at hp
          exact goesOn_root hp hmem' hlast
        · exact goesOn_of_pieces (List.cons_ne_nil first []) hp hmem' hlast
      · rw [← hidle, ← List.cons_append, List.append_assoc] at hp
        exact goesOn_of_pieces (List.cons_ne_nil first _) hp hmem' hlast

theorem goesOn_of_parent? (h : p.parent? = some q) (hq : q.isEmpty = false) : GoesOn q p := by
  have hsome : ∀ {bytes : List UInt8}, some (⟨bytes⟩ : Path) = some q → bytes ≠ [] := by
    rintro bytes ⟨⟩ rfl
    exact absurd hq (by decide)
  unfold parent? at h
  split at h
  · cases h
  · cases h
  · exact absurd rfl (hsome h)
  split at h
  · exact absurd rfl (hsome h)
  obtain ⟨idle, hidle⟩ := isPrefix_dropIdleEnd p.pieces
  rcases List.eq_nil_or_concat' (dropIdleEnd p.pieces) with hnil | ⟨above, last, hkept⟩
  · contradiction
  have hlast := not_isIdle_of_dropIdleEnd_eq hkept
  rw [hkept, List.append_assoc, eq_comm] at hidle
  have hmem : last ∈ [last] ++ idle := by simp
  rw [hkept, List.dropLast_concat] at h
  split at h
  · exact absurd rfl (hsome h)
  · cases h
    exact goesOn_root hidle hmem hlast
  · cases h
    exact goesOn_trimEnd hidle hmem hlast hq

theorem GoesOn.isAbsolute (h : GoesOn q p) (hq : q.isEmpty = false) :
    p.isAbsolute = q.isAbsolute := by
  obtain ⟨rest, hrest⟩ := h.bytes
  cases hbytes : q.bytes with
  | nil =>
      rw [isEmpty, hbytes] at hq
      cases hq
  | cons b bytes =>
      simp only [Path.isAbsolute, ← hrest, hbytes, List.cons_append, List.head?_cons]

end Path

namespace FileTree

open EntityGraph.Path

variable {t₀ t t' made : FileTree} {followLast slash : Bool} {links : Nat} {loc l x : Location}
  {steps more : List Name} {p q above : Path} {ps : List Path} {rights : Rights}

section Standing

theorem isDirectoryPath_eq_true : t.isDirectoryPath p = true ↔
    ∃ l rights, t.resolve p = .ok l ∧ t.find? l = some (.directory rights) := by
  unfold isDirectoryPath
  constructor
  · intro h
    split at h
    · rename_i l e hlocate
      obtain ⟨hresolve, hfind⟩ := of_locate_eq_ok hlocate
      cases e with
      | directory rights => exact ⟨l, rights, hresolve, hfind⟩
      | file rights content => cases h
      | link target => cases h
    · cases h
  · rintro ⟨l, rights, hresolve, hfind⟩
    rw [locate_of_resolve hresolve hfind]
    rfl

theorem exists_directory_of_follow_append (hmore : more ≠ []) (slash' : Bool)
    (h : follow t followLast links loc ⟨steps ++ more, slash⟩ = .ok l) :
    ∃ above rights, follow t true links loc ⟨steps, slash'⟩ = .ok above ∧
      t.find? above = some (.directory rights) := by
  induction more using List.reverseRecOn generalizing followLast slash l with
  | nil => exact absurd rfl hmore
  | append_singleton more n ih =>
      rw [← List.append_assoc] at h
      by_cases hnil : more = []
      · rw [hnil, List.append_nil] at h
        exact exists_directory_of_follow_concat links steps slash' h
      · obtain ⟨inner, rights, hinner, -⟩ :=
          exists_directory_of_follow_concat links (steps ++ more) slash' h
        exact ih hnil hinner

theorem isDirectoryPath_of_goesOn (h : GoesOn q p) (hq : q.isEmpty = false)
    (hp : t.resolveAs followLast slash p = .ok l) : t.isDirectoryPath q = true := by
  obtain ⟨hfollow, hzero, -, hlength⟩ := resolveAs_eq hp
  obtain ⟨more, hmore, hsteps⟩ := h.steps
  rw [hsteps, startOf, h.isAbsolute hq, ← startOf] at hfollow
  obtain ⟨there, rights, hthere, hdir⟩ :=
    exists_directory_of_follow_append hmore q.endsInSlash hfollow
  refine isDirectoryPath_eq_true.mpr ⟨there, rights, ?_, hdir⟩
  have hzero' : 0 ∉ q.bytes := fun hmem => hzero (h.bytes.subset hmem)
  rw [resolve, resolveAs_of_follow hzero' hq (Nat.lt_of_le_of_lt h.bytes.length_le hlength), hthere]

theorem isDirectoryPath_of_parent? (h : p.parent? = some q) (hq : q.isEmpty = false)
    (hp : t.isDirectoryPath p = true) : t.isDirectoryPath q = true := by
  obtain ⟨l, rights, hresolve, -⟩ := isDirectoryPath_eq_true.mp hp
  exact isDirectoryPath_of_goesOn (goesOn_of_parent? h hq) hq hresolve

theorem isDirectoryPath_of_mem_ancestors {n : Nat} (h : q ∈ ancestors n p)
    (hp : t.isDirectoryPath p = true) : t.isDirectoryPath q = true := by
  induction n generalizing p with
  | zero => cases h
  | succ n ih =>
      rw [ancestors] at h
      split at h
      · cases h
      rcases List.mem_cons.mp h with rfl | h
      · exact hp
      · split at h
        · cases h
        · rename_i next hnext
          refine ih h (isDirectoryPath_of_parent? hnext ?_ hp)
          rw [Bool.eq_false_iff]
          intro hempty
          cases n with
          | zero => cases h
          | succ n =>
              rw [ancestors, if_pos hempty] at h
              cases h

theorem exists_not_directory_of_makeChain {e : FileError} (h : t.makeChain ps = (t', .error e)) :
    ∃ q ∈ ps, t'.isDirectoryPath q = false := by
  have hensure : ∀ {u : FileTree} {p : Path}, u.ensureDirectory p = (t', .error e) →
      t'.isDirectoryPath p = false := by
    intro u p hu
    unfold ensureDirectory at hu
    split at hu
    · cases hu
    · split at hu
      · cases hu
      · rename_i hnot
        cases hu
        exact Bool.eq_false_iff.mpr hnot
  induction ps generalizing t with
  | nil => cases h
  | cons p above ih =>
      rw [makeChain] at h
      split at h
      · split at h
        · exact ⟨p, List.mem_cons_self, hensure h⟩
        · obtain ⟨q, hq, hnot⟩ := ih h
          exact ⟨q, List.mem_cons_of_mem p hq, hnot⟩
      · exact ⟨p, List.mem_cons_self, hensure h⟩

theorem isDirectoryPath_of_place_sibling {e : Entry} (hparent : p.parent? = some above)
    (hempty : above.isEmpty = false) (h : t.place (temporarySibling p) = .ok l)
    (hfind : t.find? l = some e) : t.isDirectoryPath above = true := by
  have htemporary : Path.isName (temporaryName p) = true := by
    obtain ⟨v, hv, rfl, -⟩ :=
      exists_way_of_place (.refl t) (endsInDot_temporarySibling p) h
    obtain ⟨n, there, -, hlast, hplace⟩ := exists_place_eq_cons hv
    rw [getLast?_steps_temporarySibling, Option.some.injEq] at hlast
    rw [hplace, ← hlast] at hfind
    exact isName_of_find? hfind
  have hdirectory : ∀ {q : Path}, q.isEmpty = false →
      temporarySibling p = q.joinName (temporaryName p) → t.isDirectoryPath q = true := by
    intro q hq hsibling
    rw [hsibling] at h
    obtain ⟨there, r, hthere, hdir⟩ := exists_directory_of_joinName htemporary hq h
    exact isDirectoryPath_eq_true.mpr ⟨there, r, hthere, hdir⟩
  -- The sibling stands beside a named path, but below one that ends in dots.
  cases hname : p.fileName? with
  | some n =>
      refine hdirectory hempty ?_
      simp only [temporarySibling, withFileName, temporaryName, hname, hparent, Option.getD_some]
  | none =>
      have hp : p.isEmpty = false := by
        rw [Bool.eq_false_iff]
        intro hp
        rw [isEmpty, List.isEmpty_iff] at hp
        have hnone : p.parent? = none := by
          rw [parent?, components, hp]
          rfl
        rw [hparent] at hnone
        cases hnone
      refine isDirectoryPath_of_parent? hparent hempty (hdirectory hp ?_)
      simp only [temporarySibling, withFileName, temporaryName, hname]

end Standing

section Made

theorem directory_of_leads_dot (h : Leads t followLast links loc steps slash l)
    (hdot : steps.getLast? = some [dot] ∨ steps.getLast? = some [dot, dot]) :
    ∃ rights, t.find? l = some (.directory rights) := by
  induction h with
  | nil => simp at hdot
  | @arrive links loc s hstep =>
      obtain ⟨hs, hs', -⟩ := name_of_step_eq_arrive hstep
      simp [hs, hs'] at hdot
  | @go links loc next l s rest slash hstep hrest ih =>
      cases rest with
      | cons r rest => exact ih (by simpa using hdot)
      | nil =>
          cases hrest
          obtain ⟨r, hloc⟩ := directory_of_step hstep nofun
          rcases of_step_eq_go hstep with ⟨-, rfl⟩ | ⟨-, rfl⟩ | ⟨-, r', hinner⟩
          · exact ⟨r, hloc⟩
          · cases loc with
            | nil => exact ⟨r, hloc⟩
            | cons n above => exact directory_of_find? hloc
          · obtain ⟨hs, hs'⟩ := name_of_find? hinner
            simp [hs, hs'] at hdot
  | @jump fewer loc l s rest slash target hstep hrest ih =>
      cases rest with
      | nil =>
          obtain ⟨hs, hs'⟩ := name_of_find? (of_step_eq_jump hstep)
          simp [hs, hs'] at hdot
      | cons r rest => exact ih (by simpa using hdot)

theorem isAbsolute_of_steps_eq_nil (h : p.steps = []) (hp : p.isEmpty = false) :
    p.isAbsolute = true := by
  cases hbytes : p.bytes with
  | nil =>
      rw [isEmpty, hbytes] at hp
      cases hp
  | cons b bytes =>
      by_cases hb : b = slash
      · simp [isAbsolute, hbytes, hb]
      · rw [steps, pieces, hbytes, Text.splitOn, if_neg hb] at h
        split at h
        · simp at h
        · simp at h

theorem exists_way_of_makeDirectory (hin : Inherits t₀ t) (h : t.makeDirectory p = .ok t') :
    ∃ w, t₀.way? p = some w ∧ ∀ x, x ≠ w.place → t'.find? x = t.find? x := by
  unfold makeDirectory create at h
  cases hplace : t.place p with
  | error e => rw [hplace] at h; cases h
  | ok l =>
      rw [hplace] at h
      simp only [bind, Except.bind] at h
      split at h
      · cases h
      rename_i hmissing
      split at h
      · rename_i hmay
        cases h
        obtain ⟨hfollow, -, hempty, -⟩ := resolveAs_eq hplace
        have hleads := leads_of_follow _ _ hfollow
        -- A path without a last name leads to a directory that stands already.
        have hdot : endsInDot p = false := by
          rw [endsInDot_eq_false]
          cases hlast : p.steps.getLast? with
          | none =>
              rw [List.getLast?_eq_none_iff] at hlast
              rw [hlast, follow_nil, startOf, if_pos (isAbsolute_of_steps_eq_nil hlast hempty),
                Except.ok.injEq] at hfollow
              rw [← hfollow] at hmay
              cases hmay
          | some s =>
              refine ⟨s, rfl, ?_, ?_⟩
              all_goals
                rintro rfl
                obtain ⟨r, hdir⟩ := directory_of_leads_dot hleads (by simp [hlast])
                rw [hdir] at hmissing
                cases hmissing
        obtain ⟨w, hw, rfl, -⟩ := exists_way_of_place hin hdot hplace
        refine ⟨w, hw, fun x hx => ?_⟩
        by_cases hadmits : admits t.entries w.place (.directory allRights) = true
        · rw [find?_put hadmits, if_neg hx]
        · rw [find?_put_of_not_admits hadmits]
      · cases h

theorem find?_ensureDirectory (hin : Inherits t₀ t) (p : Path) (x : Location) :
    (t.ensureDirectory p).1.find? x = t.find? x ∨ ∃ w, t₀.way? p = some w ∧ w.place = x := by
  unfold ensureDirectory
  split
  · rename_i t' hmake
    obtain ⟨w, hw, hother⟩ := exists_way_of_makeDirectory hin hmake
    by_cases hx : x = w.place
    · exact .inr ⟨w, hw, hx.symm⟩
    · exact .inl (hother x hx)
  · split <;> exact .inl rfl

theorem find?_makeChain (hin : Inherits t₀ t) (ps : List Path) (x : Location) :
    (t.makeChain ps).1.find? x = t.find? x ∨
      ∃ q ∈ ps, ∃ w, t₀.way? q = some w ∧ w.place = x := by
  have hfirst : ∀ {u : FileTree} {p : Path} {above : List Path}, Inherits t₀ u →
      (u.find? x = t.find? x ∨ ∃ q ∈ above, ∃ w, t₀.way? q = some w ∧ w.place = x) →
      (u.ensureDirectory p).1.find? x = t.find? x ∨
        ∃ q ∈ p :: above, ∃ w, t₀.way? q = some w ∧ w.place = x := by
    intro u p above hu hbefore
    rcases find?_ensureDirectory hu p x with hsame | hnew
    · rw [hsame]
      exact hbefore.imp_right fun ⟨q, hq, hw⟩ => ⟨q, List.mem_cons_of_mem p hq, hw⟩
    · exact .inr ⟨p, List.mem_cons_self, hnew⟩
  induction ps with
  | nil => exact .inl rfl
  | cons p above ih =>
      rw [makeChain]
      split
      · have hgrown := grown_makeChain t above
        split
        · rename_i t' hchain
          rw [hchain] at ih hgrown
          exact hfirst (hin.grown hgrown) ih
        · exact ih.imp_right fun ⟨q, hq, hw⟩ => ⟨q, List.mem_cons_of_mem p hq, hw⟩
      · exact hfirst hin (.inl rfl)

/-- A directory was missing on the way to the path, and was made. -/
def MadeAbove (t t' : FileTree) (p : Path) (x : Location) : Prop :=
  t.find? x = none ∧ t'.find? x = some (.directory allRights) ∧
    ∃ q w, q.Above p ∧ t.way? q = some w ∧ w.place = x

theorem MadeAbove.of_find?_eq (h : MadeAbove t made p x) (hx : t'.find? x = made.find? x) :
    MadeAbove t t' p x :=
  ⟨h.1, hx.trans h.2.1, h.2.2⟩

theorem find?_makeParentUnder (i : Option Interruption) (t : FileTree) (p : Path) (x : Location) :
    (t.makeParentUnder i p).1.find? x = t.find? x ∨ MadeAbove t (t.makeParentUnder i p).1 p x := by
  have hchain : ∀ {above : Path} {qs : List Path}, p.parent? = some above →
      qs ⊆ ancestors (above.bytes.length + 1) above →
      (t.makeChain qs).1.find? x = t.find? x ∨ MadeAbove t (t.makeChain qs).1 p x := by
    intro above qs hparent hsub
    rcases (grown_makeChain t qs).find? x with hsame | ⟨hmissing, hnew⟩
    · exact .inl hsame
    rcases find?_makeChain (.refl t) qs x with hsame | ⟨q, hq, w, hw, hplace⟩
    · exact .inl hsame
    · have habove := Above.of_mem_ancestors (hsub hq) (above_of_parent? hparent)
      exact .inr ⟨hmissing, hnew, q, w, habove, hw, hplace⟩
  have hparent : (t.makeParent p).1.find? x = t.find? x ∨ MadeAbove t (t.makeParent p).1 p x := by
    unfold makeParent
    split
    · exact .inl rfl
    · rename_i above habove
      have hmade := hchain habove (List.Subset.refl _)
      split <;> rename_i hmake <;> rw [makeDirectories] at hmake <;> rw [hmake] at hmade <;>
        exact hmade
  unfold makeParentUnder
  split
  · exact hparent
  · split
    · rename_i left above hstage habove
      exact hchain habove (List.drop_subset left _)
    · exact hparent

end Made

section Failed

/-- The making of parents is only given up at one that is no directory then. -/
def Interruption.Possible (i : Interruption) (t : FileTree) (p : Path) : Prop :=
  ∀ left above, i.stage = .makingParents left → p.parent? = some above →
    ∃ q ∈ ancestors (above.bytes.length + 1) above,
      (t.makeChain ((ancestors (above.bytes.length + 1) above).drop left)).1.isDirectoryPath q =
        false

theorem exists_not_directory_of_makeParent {e : ReplaceError}
    (h : t.makeParent p = (t', .error e)) :
    ∃ above, p.parent? = some above ∧ ∃ q ∈ ancestors (above.bytes.length + 1) above,
      t'.isDirectoryPath q = false := by
  unfold makeParent at h
  split at h
  · cases h
  · rename_i above habove
    split at h
    · cases h
    · rename_i cause hmake
      cases h
      exact ⟨above, habove, exists_not_directory_of_makeChain hmake⟩

theorem exists_not_directory_of_makeParentUnder {i : Option Interruption}
    (hi : ∀ j ∈ i, j.Possible t p) {e : ReplaceError}
    (h : t.makeParentUnder i p = (t', .error e)) :
    ∃ above, p.parent? = some above ∧ ∃ q ∈ ancestors (above.bytes.length + 1) above,
      t'.isDirectoryPath q = false := by
  unfold makeParentUnder at h
  split at h
  · exact exists_not_directory_of_makeParent h
  · rename_i j
    split at h
    · rename_i left above hstage habove
      cases h
      exact ⟨above, habove, hi j rfl left above hstage habove⟩
    · exact exists_not_directory_of_makeParent h

theorem find?_sibling_of_makeParentUnder {i : Option Interruption}
    (hi : ∀ j ∈ i, j.Possible t p) {e : ReplaceError}
    (h : t.makeParentUnder i p = (t', .error e))
    (hplace : t'.place (temporarySibling p) = .ok l) : t'.find? l = none := by
  obtain ⟨above, habove, q, hq, hnot⟩ := exists_not_directory_of_makeParentUnder hi h
  cases hfind : t'.find? l with
  | none => rfl
  | some found =>
      have hempty : above.isEmpty = false := by
        rw [Bool.eq_false_iff]
        intro hempty
        rw [ancestors, if_pos hempty] at hq
        cases hq
      have hdir := isDirectoryPath_of_place_sibling habove hempty hplace hfind
      rw [isDirectoryPath_of_mem_ancestors hq hdir] at hnot
      cases hnot

end Failed

end FileTree

end EntityGraph

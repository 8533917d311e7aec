import EntityGraph.Analysis
import EntityGraph.Proofs.Replacement
import EntityGraph.Proofs.Trails
/-!
A run leaves whole documents only. Whatever step of it fails, by the tree or by an interruption, an
output holds either what it held before or all of the new document; and what a path led to it leads
to still, unless that was written or replaced on the way.
-/

namespace EntityGraph

namespace FileTree

/-- A directory may have come to stand where nothing stood. -/
def SameAt (t t' : FileTree) (x : Location) : Prop :=
  t'.find? x = t.find? x ∨ (t.find? x = none ∧ t'.isDirectory x = true)

def Keeps (t t' : FileTree) (p : Path) : Prop :=
  ∀ w, t.way? p = some w → SameAt t t' w.place

def Stands (t t' : FileTree) (p : Path) (content : List UInt8) : Prop :=
  ∃ w rights, t.way? p = some w ∧ t'.find? w.place = some (.file rights content)

/-- The path leads to a file of exactly this content. It can be read, unless a file that could not
be stood at the sibling before. -/
structure Holds (t t' : FileTree) (p : Path) (content : List UInt8) : Prop where
  located : ∃ l rights, t'.locate p = .ok (l, .file rights content)
  readable : (∀ v rights old, t.way? (temporarySibling p) = some v →
    t.find? v.place = some (.file rights old) → rights.read = true) → t'.read p = .ok content

/-- What the path led to it leads to still, and reads the same, unless that is a file that one of
the written paths names, or the path leads over a place where something was replaced. A path that led
nowhere leads nowhere still, unless something came to stand on its way, or stood there and was
written or replaced. -/
structure ReadsStill (t t' : FileTree) (p : Path) (written replaced : List Path) : Prop where
  found : ∀ l e, t.locate p = .ok (l, e) →
    (∀ q ∈ written, ∀ v, t.way? q = some v → l ≠ v.place) →
    (∀ q ∈ replaced, ∀ w, t.way? q = some w → w.place ∉ t.trail p) →
    t'.locate p = .ok (l, e) ∧ t'.read p = t.read p
  missing : ∀ e, t.locate p = .error e →
    (∀ x ∈ t.trail p, t.find? x = none → t'.find? x = none) →
    (∀ q ∈ written ++ replaced, ∀ w, t.way? q = some w → w.place ∈ t.trail p →
      t.find? w.place = none) →
    t'.locate p = .error e

variable {t₀ t t' t'' made : FileTree} {p : Path} {x : Location} {content : List UInt8} {v w : Way}
  {rights : Rights}

section Leaves

structure Leaves (t₀ t t' : FileTree) (written replaced : List Path) : Prop where
  working : t'.working = t.working
  stays : ∀ {x e}, t.find? x = some e → t'.find? x = some e ∨
    (∃ q ∈ written, ∃ v rights old, t₀.way? q = some v ∧ x = v.place ∧ e = .file rights old) ∨
      ∃ q ∈ replaced, ∃ w, t₀.way? q = some w ∧ x = w.place

variable {written written' replaced replaced' : List Path}

theorem Leaves.trans (h : Leaves t₀ t t' written replaced)
    (h' : Leaves t₀ t' t'' written' replaced') :
    Leaves t₀ t t'' (written ++ written') (replaced ++ replaced') := by
  refine ⟨h'.working.trans h.working, fun {x e} hx => ?_⟩
  rcases h.stays hx with hkept | ⟨q, hq, hwritten⟩ | ⟨q, hq, hreplaced⟩
  · rcases h'.stays hkept with hkept' | ⟨q, hq, hwritten⟩ | ⟨q, hq, hreplaced⟩
    · exact .inl hkept'
    · exact .inr (.inl ⟨q, List.mem_append_right _ hq, hwritten⟩)
    · exact .inr (.inr ⟨q, List.mem_append_right _ hq, hreplaced⟩)
  · exact .inr (.inl ⟨q, List.mem_append_left _ hq, hwritten⟩)
  · exact .inr (.inr ⟨q, List.mem_append_left _ hq, hreplaced⟩)

theorem Grown.leaves (h : Grown t t') : Leaves t₀ t t' [] [] :=
  ⟨h.working, fun hx => .inl (h.find?_of_some hx)⟩

theorem Spares.leaves (h : Spares t₀ t t' p) : Leaves t₀ t t' [temporarySibling p] [] := by
  refine ⟨h.working, fun {x e} hx => ?_⟩
  rcases h.find? x with hsame | ⟨v, rights, old, hv, hplace, hold⟩
  · exact .inl (hsame.trans hx)
  · rw [hx, Option.some.injEq] at hold
    exact .inr (.inl ⟨_, List.mem_singleton_self _, v, rights, old, hv, hplace, hold⟩)

theorem Replaced.leaves (h : Replaced t₀ t made t' p content v w rights)
    (hworking : made.working = t₀.working) :
    Leaves t₀ made t' [temporarySibling p] [p] := by
  refine ⟨h.working.trans hworking.symm, fun {x e} hx => ?_⟩
  by_cases hw : x = w.place
  · exact .inr (.inr ⟨p, List.mem_singleton_self p, w, h.target, hw⟩)
  by_cases hv : x = v.place
  · rcases h.before with ⟨hmissing, -⟩ | ⟨old, hold⟩
    · rw [← hv, hx] at hmissing
      cases hmissing
    · rw [← hv, hx, Option.some.injEq] at hold
      exact .inr (.inl ⟨_, List.mem_singleton_self _, v, rights, old, h.sibling, hv, hold⟩)
  · left
    rw [h.find?, if_neg hv, if_neg hw, hx]

theorem Leaves.readsStill (h : Leaves t t t' written replaced) (p : Path) :
    ReadsStill t t' p written replaced where
  found l e hlocate hwritten hreplaced := by
    obtain ⟨hresolve, hfind⟩ := of_locate_eq_ok hlocate
    have hagree : AgreeOn (t.trail p) t t' := by
      intro x hx
      -- On the way are directories and links, and no file but at its end.
      obtain ⟨found, hfound, hkind⟩ : ∃ found, t.find? x = some found ∧
          (x = l ∨ (found.isDirectory || found.isLink) = true) := by
        rcases eq_or_entry_of_mem_trail hresolve x hx with rfl | ⟨found, hfound, hkind⟩
        · exact ⟨e, hfind, .inl rfl⟩
        · exact ⟨found, hfound, .inr hkind⟩
      rcases h.stays hfound with hkept | ⟨q, hq, v, rights, old, hv, hplace, hfile⟩ |
        ⟨q, hq, w, hw, rfl⟩
      · rw [hkept, hfound]
      · rcases hkind with rfl | hkind
        · exact absurd hplace (hwritten q hq v hv)
        · rw [hfile] at hkind
          cases hkind
      · exact absurd hx (hreplaced q hq w hw)
    exact ⟨(locate_congr h.working hagree).trans hlocate, read_congr h.working hagree⟩
  missing e hlocate hmissing hclear := by
    have hagree : AgreeOn (t.trail p) t t' := by
      intro x hx
      cases hfind : t.find? x with
      | none => exact hmissing x hx hfind
      | some found =>
          have hnone : ∀ q ∈ written ++ replaced, ∀ w, t.way? q = some w → x ≠ w.place := by
            rintro q hq w hw rfl
            rw [hclear q hq w hw hx] at hfind
            cases hfind
          rcases h.stays hfind with hkept | ⟨q, hq, v, -, -, hv, hplace, -⟩ | ⟨q, hq, w, hw, hplace⟩
          · exact hkept
          · exact absurd hplace (hnone q (List.mem_append_left _ hq) v hv)
          · exact absurd hplace (hnone q (List.mem_append_right _ hq) w hw)
    exact (locate_congr h.working hagree).trans hlocate

end Leaves

theorem SameAt.trans (h : SameAt t t' x) (h' : SameAt t' t'' x) : SameAt t t'' x := by
  rcases h with hx | ⟨hnone, hdir⟩
  · rcases h' with hx' | ⟨hnone', hdir'⟩
    · exact .inl (hx'.trans hx)
    · exact .inr ⟨hx ▸ hnone', hdir'⟩
  · rcases h' with hx' | ⟨hnone', -⟩
    · obtain ⟨r, hr⟩ := isDirectory_eq_true.mp hdir
      exact .inr ⟨hnone, isDirectory_eq_true.mpr ⟨r, hx'.trans hr⟩⟩
    · obtain ⟨r, hr⟩ := isDirectory_eq_true.mp hdir
      rw [hnone'] at hr
      cases hr

theorem Grown.sameAt (h : Grown t t') (x : Location) : SameAt t t' x := by
  rcases h.find? x with hx | ⟨hnone, hnew⟩
  · exact .inl hx
  · exact .inr ⟨hnone, isDirectory_eq_true.mpr ⟨_, hnew⟩⟩

theorem Spares.sameAt (h : Spares t₀ t t' p)
    (hne : ∀ v, t₀.way? (temporarySibling p) = some v → x ≠ v.place) : SameAt t t' x := by
  rcases h.find? x with hx | ⟨v, r, old, hv, hx, -⟩
  · exact .inl hx
  · exact absurd hx (hne v hv)

theorem Replaced.sameAt (h : Replaced t₀ t made t' p content v w rights) (hv : x ≠ v.place)
    (hw : x ≠ w.place) : SameAt t t' x := by
  refine (h.grown.sameAt x).trans (.inl ?_)
  rw [h.find?, if_neg hv, if_neg hw]

theorem Replaced.holds (h : Replaced t₀ t made t' p content v w rights)
    (hlink : NoLinkBeside t₀ p) (hopen : w.place ∉ w.links) (hworking : t''.working = t'.working)
    (hbase : made.working = t₀.working)
    (hbefore : ∀ r old, t.find? v.place = some (.file r old) →
      t₀.find? v.place = some (.file r old))
    (hdir : ∀ x r, t'.find? x = some (.directory r) → t''.find? x = some (.directory r))
    (hlinks : ∀ x ∈ w.links, t''.find? x = t'.find? x)
    (hfile : t''.find? w.place = t'.find? w.place) : Holds t₀ t'' p content := by
  have hplace : t''.find? w.place = some (.file rights content) := by
    rw [hfile, h.find?_target]
  have hresolve : t''.resolve p = .ok w.place := by
    have hreaches := h.reaches t'' true
    rw [← h.slash] at hreaches
    refine hreaches ⟨?_, ?_, ?_⟩ ?_
    · rw [hworking, h.working, hbase]
    · intro x r hx
      refine hdir x r ?_
      rw [h.find?, if_neg, if_neg, hx]
      · rintro rfl
        exact h.noDirectory r hx
      · rintro rfl
        exact h.noDirectorySibling r hx
    · intro x hx
      rw [hlinks x hx, h.find?, if_neg, if_neg]
      · rintro rfl
        exact hopen hx
      · rintro rfl
        obtain ⟨target, htarget⟩ := isLink_of_mem_way? h.target _ hx
        exact hlink v target h.sibling htarget
    · intro e he
      rw [hplace] at he
      cases he
      exact ⟨rfl, rfl⟩
  have hlocate : t''.locate p = .ok (w.place, .file rights content) := by
    rw [locate, hresolve]
    simp only [bind, Except.bind, hplace]
  refine ⟨⟨w.place, rights, hlocate⟩, ?_⟩
  intro hreadable
  have hread : rights.read = true := by
    rcases h.before with ⟨-, hrights⟩ | ⟨old, hold⟩
    · rw [hrights]
      rfl
    · rcases h.grown.find? v.place with hsame | ⟨-, hnew⟩
      · exact hreadable v rights old h.sibling (hbefore rights old (hsame ▸ hold))
      · rw [hold] at hnew
        cases hnew
  rw [read, hlocate]
  simp [bind, Except.bind, hread]

end FileTree

open FileTree

def runUnder (first second : Option Interruption) (t : FileTree) (c : Config) :
    FileTree × Except AnalysisError Report :=
  match Analysis.ofTree t c with
  | .error e => (t, .error e)
  | .ok a =>
      match t.replaceUnder first c.componentsOutput (Graph.contentOf a.graph.componentsText) with
      | (t', .error e) => (t', .error (.file e.path e.cause))
      | (t', .ok ()) =>
          match t'.replaceUnder second c.systemsOutput (Graph.contentOf a.graph.systemsText) with
          | (t'', .error e) => (t'', .error (.file e.path e.cause))
          | (t'', .ok ()) => (t'', .ok a.report)

theorem runUnder_none (t : FileTree) (c : Config) : runUnder none none t c = run t c := by
  unfold runUnder run Graph.write Graph.replaceDocument replaceUnder
  cases Analysis.ofTree t c with
  | error e => rfl
  | ok a => grind

/-- The outputs name two different files, neither at the temporary sibling of the other, and no link
stands at a temporary sibling. -/
structure Apart (t : FileTree) (c : Config) : Prop where
  outputs : ∀ w v, t.way? c.componentsOutput = some w → t.way? c.systemsOutput = some v →
    w.place ≠ v.place
  components : ∀ w v, t.way? c.componentsOutput = some w →
    t.way? (temporarySibling c.systemsOutput) = some v → w.place ≠ v.place
  systems : ∀ w v, t.way? c.systemsOutput = some w →
    t.way? (temporarySibling c.componentsOutput) = some v → w.place ≠ v.place
  noLinkComponents : NoLinkBeside t c.componentsOutput
  noLinkSystems : NoLinkBeside t c.systemsOutput

/-- No way to an output goes through a link that stands in the place of one. -/
def Unobstructed (t : FileTree) (c : Config) : Prop :=
  ∀ p ∈ [c.componentsOutput, c.systemsOutput], ∀ q ∈ [c.componentsOutput, c.systemsOutput],
    ∀ w v, t.way? p = some w → t.way? q = some v → v.place ∉ w.links

def Unshared (t : FileTree) (c : Config) : Prop :=
  AloneBeside t c.componentsOutput ∧ AloneBeside t c.systemsOutput

structure LeavesWhole (t : FileTree) (c : Config) (first second : Option Interruption) : Prop where
  analysisFails : ∀ e, Analysis.ofTree t c = .error e →
    runUnder first second t c = (t, .error e)
  componentsFail : ∀ a t' e, Analysis.ofTree t c = .ok a →
    t.replaceUnder first c.componentsOutput (Graph.contentOf a.graph.componentsText) =
      (t', .error e) →
    runUnder first second t c = (t', .error (.file e.path e.cause)) ∧
      Keeps t t' c.componentsOutput ∧ Keeps t t' c.systemsOutput ∧
      ∀ p, ReadsStill t t' p [temporarySibling c.componentsOutput] []
  systemsFail : ∀ a t₁ t' e, Analysis.ofTree t c = .ok a →
    t.replaceUnder first c.componentsOutput (Graph.contentOf a.graph.componentsText) =
      (t₁, .ok ()) →
    t₁.replaceUnder second c.systemsOutput (Graph.contentOf a.graph.systemsText) = (t', .error e) →
    runUnder first second t c = (t', .error (.file e.path e.cause)) ∧
      Stands t t' c.componentsOutput (Graph.contentOf a.graph.componentsText) ∧
      (Unobstructed t c →
        Holds t t' c.componentsOutput (Graph.contentOf a.graph.componentsText)) ∧
      Keeps t t' c.systemsOutput ∧
      ∀ p, ReadsStill t t' p
        [temporarySibling c.componentsOutput, temporarySibling c.systemsOutput]
        [c.componentsOutput]
  succeeds : ∀ t' r, runUnder first second t c = (t', .ok r) →
    ∃ a, Analysis.ofTree t c = .ok a ∧ r = a.report ∧
      Stands t t' c.componentsOutput (Graph.contentOf a.graph.componentsText) ∧
      Stands t t' c.systemsOutput (Graph.contentOf a.graph.systemsText) ∧
      (Unobstructed t c →
        Holds t t' c.componentsOutput (Graph.contentOf a.graph.componentsText) ∧
        Holds t t' c.systemsOutput (Graph.contentOf a.graph.systemsText))
  elsewhere : ∀ x,
    (∀ p ∈ [c.componentsOutput, c.systemsOutput], ∀ w, t.way? p = some w → x ≠ w.place) →
    (∀ p ∈ [c.componentsOutput, c.systemsOutput], ∀ v, t.way? (temporarySibling p) = some v →
      x ≠ v.place) →
    SameAt t (runUnder first second t c).1 x

namespace FileTree

section Under

variable {t₀ t t' : FileTree} {p : Path} {content : List UInt8} {i : Option Interruption}

theorem exists_spares_of_replaceUnder (hin : Inherits t₀ t) (hclear : ClearBeside t₀ p)
    {e : ReplaceError} (h : t.replaceUnder i p content = (t', .error e)) :
    ∃ made, Grown t made ∧ Spares t₀ made t' p := by
  have hgrown := grown_makeParentUnder i t p
  rcases of_replaceUnder_eq_error hin hclear h with hfailed | ⟨made, hmade, hdiscarded⟩
  · rw [hfailed] at hgrown
    exact ⟨t', hgrown, .refl t₀ t' p⟩
  · rw [hmade] at hgrown
    exact ⟨made, hgrown, hdiscarded.spares⟩

theorem exists_replaced_of_replaceUnder (hin : Inherits t₀ t) (hclear : ClearBeside t₀ p)
    (h : t.replaceUnder i p content = (t', .ok ())) :
    ∃ made v w rights, Replaced t₀ t made t' p content v w rights := by
  obtain ⟨made, v, w, rights, -, hreplaced⟩ :=
    exists_replaced hin hclear (replace_of_replaceUnder_eq_ok hin hclear h)
  exact ⟨made, v, w, rights, hreplaced⟩

end Under

end FileTree

section Run

variable {t t₁ t' made made' : FileTree} {c : Config} {content content' : List UInt8}
  {v w v' w' : Way} {rights rights' : Rights} {first second : Option Interruption}

theorem sameAt_of_failed {p : Path} {x : Location} (hgrown : Grown t₁ made)
    (hspares : Spares t made t' p)
    (hx : ∀ v, t.way? (temporarySibling p) = some v → x ≠ v.place) : SameAt t₁ t' x :=
  (hgrown.sameAt x).trans (hspares.sameAt hx)

section First

variable (h : Replaced t t made t₁ c.componentsOutput content v w rights) (hapart : Apart t c)
include h hapart

theorem keeps_systems_of_first : Keeps t t₁ c.systemsOutput := fun u hu =>
  h.sameAt (hapart.systems u v hu h.sibling) (hapart.outputs w u h.target hu).symm

theorem holds_components (hopen : Unobstructed t c) (hworking : t'.working = t₁.working)
    (hdir : ∀ x r, t₁.find? x = some (.directory r) → t'.find? x = some (.directory r))
    (hlinks : ∀ x ∈ w.links, t'.find? x = t₁.find? x)
    (hfile : t'.find? w.place = t₁.find? w.place) : Holds t t' c.componentsOutput content :=
  h.holds hapart.noLinkComponents (hopen _ (by simp) _ (by simp) w w h.target h.target) hworking
    h.grown.working (fun _ _ => id) hdir hlinks hfile

theorem find?_link_of_first (hopen : Unobstructed t c) {x : Location} (hx : x ∈ w.links) :
    ∃ target, t₁.find? x = some (.link target) := by
  obtain ⟨target, htarget⟩ := isLink_of_mem_way? h.target _ hx
  refine ⟨target, ?_⟩
  rw [h.find?, if_neg, if_neg, h.grown.find?_of_some htarget]
  · rintro rfl
    exact hopen _ (by simp) _ (by simp) w w h.target h.target hx
  · rintro rfl
    exact hapart.noLinkComponents v target h.sibling htarget

theorem find?_components_of_failed (hgrown : Grown t₁ made')
    (hspares : Spares t made' t' c.systemsOutput) :
    t'.find? w.place = some (.file rights content) := by
  have hmade := hgrown.find?_of_some h.find?_target
  rcases hspares.find? w.place with hsame | ⟨u, r, old, hu, hplace, -⟩
  · rw [hsame, hmade]
  · exact absurd hplace (hapart.components w u h.target hu)

theorem holds_components_of_failed (hopen : Unobstructed t c) (hgrown : Grown t₁ made')
    (hspares : Spares t made' t' c.systemsOutput) : Holds t t' c.componentsOutput content := by
  have hkept : ∀ x e, t₁.find? x = some e → (∀ r bytes, e ≠ .file r bytes) →
      t'.find? x = some e := by
    intro x e hx hkind
    have hmade := hgrown.find?_of_some hx
    rcases hspares.find? x with hsame | ⟨u, r, old, hu, rfl, hold⟩
    · rw [hsame, hmade]
    · rw [hmade, Option.some.injEq] at hold
      exact absurd hold (hkind r old)
  refine holds_components h hapart hopen (hspares.working.trans hgrown.working) ?_ ?_ ?_
  · intro x r hx
    exact hkept x _ hx nofun
  · intro x hx
    obtain ⟨target, hlink⟩ := find?_link_of_first h hapart hopen hx
    rw [hkept x _ hlink nofun, hlink]
  · rw [find?_components_of_failed h hapart hgrown hspares, h.find?_target]

theorem find?_components_of_both
    (h' : Replaced t t₁ made' t' c.systemsOutput content' v' w' rights') :
    t'.find? w.place = some (.file rights content) := by
  rw [h'.find?, if_neg (hapart.components w v' h.target h'.sibling),
    if_neg (hapart.outputs w w' h.target h'.target), h'.grown.find?_of_some h.find?_target]

theorem holds_of_both (hopen : Unobstructed t c)
    (h' : Replaced t t₁ made' t' c.systemsOutput content' v' w' rights') :
    Holds t t' c.componentsOutput content ∧ Holds t t' c.systemsOutput content' := by
  constructor
  · have hkept : ∀ x e, t₁.find? x = some e → x ≠ v'.place → x ≠ w'.place →
        t'.find? x = some e := by
      intro x e hx hv hw
      rw [h'.find?, if_neg hv, if_neg hw, h'.grown.find?_of_some hx]
    refine holds_components h hapart hopen (h'.working.trans h.working.symm) ?_ ?_ ?_
    · intro x r hx
      have hmade := h'.grown.find?_of_some hx
      refine hkept x _ hx ?_ ?_
      · rintro rfl
        exact h'.noDirectorySibling r hmade
      · rintro rfl
        exact h'.noDirectory r hmade
    · intro x hx
      obtain ⟨target, hlink⟩ := find?_link_of_first h hapart hopen hx
      obtain ⟨target', hlink'⟩ := isLink_of_mem_way? h.target _ hx
      rw [hkept x _ hlink, hlink]
      · rintro rfl
        exact hapart.noLinkSystems v' target' h'.sibling hlink'
      · rintro rfl
        exact hopen _ (by simp) _ (by simp) w w' h.target h'.target hx
    · rw [find?_components_of_both h hapart h', h.find?_target]
  · refine h'.holds hapart.noLinkSystems
      (hopen _ (by simp) _ (by simp) w' w' h'.target h'.target) rfl
      (h'.grown.working.trans h.working)
      ?_ (fun _ _ => id) (fun _ _ => rfl) rfl
    intro r old hold
    rw [h.find?] at hold
    split at hold
    · cases hold
    · rw [if_neg (hapart.components w v' h.target h'.sibling).symm] at hold
      rcases h.grown.find? v'.place with hsame | ⟨-, hnew⟩
      · rw [← hsame, hold]
      · rw [hnew] at hold
        cases hold

end First

section Unshared

variable (hapart : Apart t c) (hunshared : Unshared t c)
include hapart hunshared

theorem clearBeside_components : ClearBeside t c.componentsOutput :=
  ⟨hapart.noLinkComponents, hunshared.1⟩

theorem clearBeside_systems : ClearBeside t c.systemsOutput :=
  ⟨hapart.noLinkSystems, hunshared.2⟩

theorem sameAt_elsewhere {x : Location}
    (houtputs : ∀ p ∈ [c.componentsOutput, c.systemsOutput], ∀ w, t.way? p = some w → x ≠ w.place)
    (hsiblings : ∀ p ∈ [c.componentsOutput, c.systemsOutput], ∀ v,
      t.way? (temporarySibling p) = some v → x ≠ v.place) :
    SameAt t (runUnder first second t c).1 x := by
  have hin := Inherits.refl t
  have hcomponents := clearBeside_components hapart hunshared
  have hsystems := clearBeside_systems hapart hunshared
  unfold runUnder
  split
  · exact .inl rfl
  · split
    · rename_i t₁ e hfirst
      obtain ⟨made, hgrown, hspares⟩ :=
        exists_spares_of_replaceUnder hin hcomponents hfirst
      exact sameAt_of_failed hgrown hspares (hsiblings _ (by simp))
    · rename_i t₁ hfirst
      obtain ⟨made, v, w, rights, h⟩ :=
        exists_replaced_of_replaceUnder hin hcomponents hfirst
      have hsame : SameAt t t₁ x :=
        h.sameAt (hsiblings _ (by simp) v h.sibling) (houtputs _ (by simp) w h.target)
      have hin₁ := h.inherits hin hcomponents
      split
      · rename_i t' e hsecond
        obtain ⟨made', hgrown, hspares⟩ :=
          exists_spares_of_replaceUnder hin₁ hsystems hsecond
        exact hsame.trans (sameAt_of_failed hgrown hspares (hsiblings _ (by simp)))
      · rename_i t' hsecond
        obtain ⟨made', v', w', rights', h'⟩ :=
          exists_replaced_of_replaceUnder hin₁ hsystems hsecond
        exact hsame.trans
          (h'.sameAt (hsiblings _ (by simp) v' h'.sibling) (houtputs _ (by simp) w' h'.target))

theorem exists_replaced_of_runUnder {r : Report}
    (hrun : runUnder first second t c = (t', .ok r)) :
    ∃ a made t₁ made' v w v' w' rights rights', Analysis.ofTree t c = .ok a ∧ r = a.report ∧
      Replaced t t made t₁ c.componentsOutput (Graph.contentOf a.graph.componentsText) v w rights ∧
      Replaced t t₁ made' t' c.systemsOutput (Graph.contentOf a.graph.systemsText) v' w'
        rights' := by
  have hcomponents := clearBeside_components hapart hunshared
  unfold runUnder at hrun
  split at hrun
  · cases hrun
  · rename_i a ha
    split at hrun
    · cases hrun
    · rename_i t₁ hfirst
      split at hrun
      · cases hrun
      · rename_i t₂ hsecond
        cases hrun
        obtain ⟨made, v, w, rights, h⟩ :=
          exists_replaced_of_replaceUnder (.refl t) hcomponents hfirst
        obtain ⟨made', v', w', rights', h'⟩ := exists_replaced_of_replaceUnder
          (h.inherits (.refl t) hcomponents) (clearBeside_systems hapart hunshared) hsecond
        exact ⟨a, made, t₁, made', v, w, v', w', rights, rights', ha, rfl, h, h'⟩

end Unshared

theorem leavesWhole_runUnder (t : FileTree) (c : Config) (hapart : Apart t c)
    (hunshared : Unshared t c) :
    runUnder none none t c = run t c ∧ ∀ first second, LeavesWhole t c first second := by
  refine ⟨runUnder_none t c, fun first second => ?_⟩
  have hin := Inherits.refl t
  have hcomponents := clearBeside_components hapart hunshared
  refine
    { analysisFails := ?_
      componentsFail := ?_
      systemsFail := ?_
      succeeds := ?_
      elsewhere := fun x => sameAt_elsewhere hapart hunshared }
  · intro e he
    rw [runUnder, he]
  · intro a t' e ha hfirst
    obtain ⟨made, hgrown, hspares⟩ :=
      exists_spares_of_replaceUnder hin hcomponents hfirst
    refine ⟨by simp only [runUnder, ha, hfirst], ?_, ?_, ?_⟩
    · exact fun w hw => sameAt_of_failed hgrown hspares fun v hv => place_ne_sibling hw hv
    · exact fun w hw => sameAt_of_failed hgrown hspares fun v hv => hapart.systems w v hw hv
    · exact (hgrown.leaves.trans hspares.leaves).readsStill
  · intro a t₁ t' e ha hfirst hsecond
    obtain ⟨made, v, w, rights, h⟩ :=
      exists_replaced_of_replaceUnder hin hcomponents hfirst
    obtain ⟨made', hgrown, hspares⟩ := exists_spares_of_replaceUnder
      (h.inherits hin hcomponents) (clearBeside_systems hapart hunshared) hsecond
    refine ⟨by simp only [runUnder, ha, hfirst, hsecond], ?_, ?_, ?_, ?_⟩
    · exact ⟨w, rights, h.target, find?_components_of_failed h hapart hgrown hspares⟩
    · exact fun hopen => holds_components_of_failed h hapart hopen hgrown hspares
    · intro u hu
      exact (keeps_systems_of_first h hapart u hu).trans
        (sameAt_of_failed hgrown hspares fun v hv => place_ne_sibling hu hv)
    · have hfirst := h.grown.leaves.trans (h.leaves h.grown.working)
      exact (hfirst.trans (hgrown.leaves.trans hspares.leaves)).readsStill
  · intro t' r hrun
    obtain ⟨a, made, t₁, made', v, w, v', w', rights, rights', ha, hr, h, h'⟩ :=
      exists_replaced_of_runUnder hapart hunshared hrun
    refine ⟨a, ha, hr, ?_, ?_, fun hopen => holds_of_both h hapart hopen h'⟩
    · exact ⟨w, rights, h.target, find?_components_of_both h hapart h'⟩
    · exact ⟨w', rights', h'.target, h'.find?_target⟩

end Run

section Links

variable {t : FileTree} {c : Config}

theorem noLinkBeside_iff {p : Path} : NoLinkBeside t p ↔
    ∀ v ∈ t.way? (temporarySibling p), (t.find? v.place).any Entry.isLink = false := by
  constructor
  · intro h v hv
    rw [Option.any_eq_false]
    intro e he
    cases e with
    | link target => exact absurd he (h v target hv)
    | directory r => simp [Entry.isLink]
    | file r old => simp [Entry.isLink]
  · intro h v target hv hlink
    have hv := h v hv
    rw [hlink] at hv
    cases hv

instance decidableNoLinkBeside (t : FileTree) (p : Path) : Decidable (NoLinkBeside t p) :=
  decidable_of_iff _ noLinkBeside_iff.symm

theorem aloneBeside_iff {p : Path} : AloneBeside t p ↔
    ∀ v ∈ t.way? (temporarySibling p), t.Alone v.place :=
  ⟨fun h v hv => h v hv, fun h v hv => h v hv⟩

instance decidableAloneBeside (t : FileTree) (p : Path) : Decidable (AloneBeside t p) :=
  decidable_of_iff _ aloneBeside_iff.symm

instance decidableUnshared (t : FileTree) (c : Config) : Decidable (Unshared t c) :=
  inferInstanceAs (Decidable (_ ∧ _))

theorem apart_iff : Apart t c ↔
    (∀ w ∈ t.way? c.componentsOutput, ∀ v ∈ t.way? c.systemsOutput, w.place ≠ v.place) ∧
    (∀ w ∈ t.way? c.componentsOutput, ∀ v ∈ t.way? (temporarySibling c.systemsOutput),
      w.place ≠ v.place) ∧
    (∀ w ∈ t.way? c.systemsOutput, ∀ v ∈ t.way? (temporarySibling c.componentsOutput),
      w.place ≠ v.place) ∧
    NoLinkBeside t c.componentsOutput ∧ NoLinkBeside t c.systemsOutput := by
  constructor
  · intro h
    exact ⟨fun w hw v hv => h.outputs w v hw hv, fun w hw v hv => h.components w v hw hv,
      fun w hw v hv => h.systems w v hw hv, h.noLinkComponents, h.noLinkSystems⟩
  · rintro ⟨houtputs, hcomponents, hsystems, hlink, hlink'⟩
    exact ⟨fun w v hw hv => houtputs w hw v hv, fun w v hw hv => hcomponents w hw v hv,
      fun w v hw hv => hsystems w hw v hv, hlink, hlink'⟩

instance decidableApart (t : FileTree) (c : Config) : Decidable (Apart t c) :=
  decidable_of_iff _ apart_iff.symm

theorem unobstructed_iff : Unobstructed t c ↔
    ∀ p ∈ [c.componentsOutput, c.systemsOutput], ∀ q ∈ [c.componentsOutput, c.systemsOutput],
      ∀ w ∈ t.way? p, ∀ v ∈ t.way? q, v.place ∉ w.links :=
  ⟨fun h p hp q hq w hw v hv => h p hp q hq w v hw hv,
    fun h p hp q hq w v hw hv => h p hp q hq w hw v hv⟩

instance decidableUnobstructed (t : FileTree) (c : Config) : Decidable (Unobstructed t c) :=
  decidable_of_iff _ unobstructed_iff.symm

def Unnested (t : FileTree) (c : Config) : Prop :=
  ∀ w ∈ t.way? c.componentsOutput, ∀ w' ∈ t.way? c.systemsOutput,
    ¬w.place <:+ w'.place ∧ ¬w'.place <:+ w.place

instance decidableUnnested (t : FileTree) (c : Config) : Decidable (Unnested t c) :=
  inferInstanceAs (Decidable (∀ w ∈ t.way? c.componentsOutput, ∀ w' ∈ t.way? c.systemsOutput,
    ¬w.place <:+ w'.place ∧ ¬w'.place <:+ w.place))

def sourceDirectory : Location := [Utf8.ofString "src", workingName]
def storeDirectory : Location := [Utf8.ofString "store", workingName]
def linkPlace : Location := [Utf8.ofString "link", workingName]

def linkedTree : FileTree :=
  fresh
    |>.put sourceDirectory (.directory allRights)
    |>.put storeDirectory (.directory allRights)
    |>.put linkPlace (.link (.ofString "store"))

def linkedConfig : Config :=
  { Config.forRoot (.ofString "src") with
    componentsOutput := .ofString "link/Components.json"
    systemsOutput := .ofString "new/Systems.json" }

theorem leavesWhole_linked :
    Apart linkedTree linkedConfig ∧ Unshared linkedTree linkedConfig ∧
      Unobstructed linkedTree linkedConfig ∧
      runUnder none none linkedTree linkedConfig = run linkedTree linkedConfig ∧
        ∀ first second, LeavesWhole linkedTree linkedConfig first second := by
  have hapart : Apart linkedTree linkedConfig := by decide +kernel
  have hunshared : Unshared linkedTree linkedConfig := by decide +kernel
  exact ⟨hapart, hunshared, by decide +kernel, leavesWhole_runUnder _ _ hapart hunshared⟩

def tangledConfig : Config :=
  { linkedConfig with componentsOutput := .ofString "link/../link" }

def lockedTree : FileTree :=
  linkedTree.put (Utf8.ofString "Components.json.tmp" :: storeDirectory)
    (.file ⟨false, true, false⟩ [])

def oldContent : List UInt8 := Utf8.ofString "old"

/-- The output is a link to its own temporary sibling, in a directory that cannot be changed. -/
def ownSiblingTree : FileTree :=
  linkedTree
    |>.put (Utf8.ofString "out" :: storeDirectory) (.link (.ofString "out.tmp"))
    |>.put (Utf8.ofString "out.tmp" :: storeDirectory) (.file fileRights oldContent)
    |>.put storeDirectory (.directory ⟨true, false, true⟩)

def ownSiblingConfig : Config :=
  { linkedConfig with componentsOutput := .ofString "store/out" }

def blockedTree : FileTree :=
  linkedTree
    |>.put [Utf8.ofString "out", workingName] (.file fileRights oldContent)
    |>.put [Utf8.ofString "out.tmp", workingName] (.directory allRights)

def blockedConfig : Config :=
  { linkedConfig with componentsOutput := .ofString "new/../out" }

def storedTree : FileTree :=
  linkedTree.put (Utf8.ofString "Systems.json" :: storeDirectory) (.file fileRights oldContent)

/-- The components document takes the place of a link on the way to the systems document. -/
def throughConfig : Config :=
  { linkedConfig with
    componentsOutput := .ofString "link"
    systemsOutput := .ofString "link/Systems.json" }

/-- The components' temporary sibling is a second name of the systems document, and a directory
stands in the place of the components document. -/
def secondNameTree : FileTree :=
  storedTree
    |>.addName (Utf8.ofString "Systems.json" :: storeDirectory)
      (Utf8.ofString "Components.json.tmp" :: storeDirectory)
    |>.put (Utf8.ofString "Components.json" :: storeDirectory) (.directory allRights)

def secondNameConfig : Config :=
  { Config.forRoot (.ofString "src") with
    componentsOutput := .ofString "store/Components.json"
    systemsOutput := .ofString "store/Systems.json" }

def brokenWrite : Interruption := ⟨.writing 1, .denied⟩

/-- The new document takes the place of the link, and the path leads nowhere any more; or it is the
file that could not be read. A link to the temporary sibling leads to part of the document, a path
that led nowhere to the old one, and a path through a replaced link nowhere; and what has a second
name at the sibling is written over. -/
theorem not_read_after_run :
    (Apart linkedTree tangledConfig ∧ Unnested linkedTree tangledConfig ∧
      ∃ t' r, run linkedTree tangledConfig = (t', .ok r) ∧
        t'.read tangledConfig.componentsOutput = .error .notDirectory) ∧
    (Apart lockedTree linkedConfig ∧ Unnested lockedTree linkedConfig ∧
      ∃ t' r, run lockedTree linkedConfig = (t', .ok r) ∧
        t'.read linkedConfig.componentsOutput = .error .denied) ∧
    (Apart ownSiblingTree ownSiblingConfig ∧ Unnested ownSiblingTree ownSiblingConfig ∧
      ownSiblingTree.read ownSiblingConfig.componentsOutput = .ok oldContent ∧
      ∃ t' e, runUnder (some brokenWrite) none ownSiblingTree ownSiblingConfig = (t', .error e) ∧
        t'.read ownSiblingConfig.componentsOutput = .ok [0x7B]) ∧
    (Apart blockedTree blockedConfig ∧ Unnested blockedTree blockedConfig ∧
      blockedTree.read blockedConfig.componentsOutput = .error .notFound ∧
      ∃ t' e, run blockedTree blockedConfig = (t', .error e) ∧
        t'.read blockedConfig.componentsOutput = .ok oldContent) ∧
    (Apart storedTree throughConfig ∧ Unnested storedTree throughConfig ∧
      storedTree.read throughConfig.systemsOutput = .ok oldContent ∧
      ∃ t' e, run storedTree throughConfig = (t', .error e) ∧
        t'.read throughConfig.systemsOutput = .error .notDirectory) ∧
    (Apart secondNameTree secondNameConfig ∧ Unnested secondNameTree secondNameConfig ∧
      secondNameTree.read secondNameConfig.systemsOutput = .ok oldContent ∧
      ∃ t' e, run secondNameTree secondNameConfig = (t', .error e) ∧
        t'.read secondNameConfig.systemsOutput ≠ .ok oldContent) := by
  refine ⟨⟨by decide +kernel, by decide +kernel, _, _, rfl, by decide +kernel⟩,
    ⟨by decide +kernel, by decide +kernel, _, _, rfl, by decide +kernel⟩, ?_, ?_, ?_, ?_⟩
  · exact ⟨by decide +kernel, by decide +kernel, by decide +kernel, _, _, rfl, by decide +kernel⟩
  · exact ⟨by decide +kernel, by decide +kernel, by decide +kernel, _, _, rfl, by decide +kernel⟩
  · exact ⟨by decide +kernel, by decide +kernel, by decide +kernel, _, _, rfl, by decide +kernel⟩
  · exact ⟨by decide +kernel, by decide +kernel, by decide +kernel, _, _, rfl, by decide +kernel⟩

end Links

end EntityGraph

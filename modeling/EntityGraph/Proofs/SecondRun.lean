import EntityGraph.FileTree.Layout
import EntityGraph.Proofs.SecondReplacement
import EntityGraph.Proofs.UnchangedCorpus
import EntityGraph.Proofs.WholeDocuments

namespace EntityGraph

namespace FileTree

/-- What stands at a place, but for its rights. -/
def contents? (t : FileTree) (x : Location) : Option Entry :=
  (t.find? x).map (FileTree.Entry.withRights allRights)

theorem Filed.contents? {t t' : FileTree} {place : Location} {rights rights' : Rights}
    {content : List UInt8} (h : Filed t t' place rights content)
    (hfile : t.find? place = some (.file rights' content)) (x : Location) :
    t'.contents? x = t.contents? x := by
  rw [FileTree.contents?, FileTree.contents?, h.find?]
  split
  · rename_i hx
    rw [hx, hfile]
    rfl
  · rfl

end FileTree

open FileTree

def Config.writtenPaths (c : Config) : List Path :=
  [c.componentsOutput, temporarySibling c.componentsOutput, c.systemsOutput,
    temporarySibling c.systemsOutput]

/-- The place is one that the run from `t` to `t'` writes to, or holds a directory that it made. -/
def Touched (t t' : FileTree) (c : Config) (x : Location) : Prop :=
  (∃ p ∈ c.writtenPaths, ∃ w, t.way? p = some w ∧ x = w.place) ∨
    (t.find? x = none ∧ t'.isDirectory x = true)

/-- The corpus does not depend on what the run from `t` to `t'` writes. -/
structure Undisturbed (t t' : FileTree) (c : Config) : Prop where
  apart : Apart t c
  noLink : ∀ p ∈ c.writtenPaths, ∀ w target, t.way? p = some w →
    t.find? w.place ≠ some (.link target)
  noSource : ∀ p ∈ c.writtenPaths, p.isSourceFile c.extension = false
  links : ∀ names n loc target, (∀ m ∈ names, Path.isName m = true) →
    t.resolve (c.sourceRoot.under names) = .ok loc → t.find? (n :: loc) = some (.link target) →
      ∀ x ∈ t.trail (c.sourceRoot.under (names ++ [n])), ¬Touched t t' c x
  ignoreFile : ∀ x ∈ t.trail (c.sourceRoot.join (.ofString c.ignoreFile)), ¬Touched t t' c x

structure Wrote (t made t₁ made' t' : FileTree) (c : Config) (content content' : List UInt8)
    (v w v' w' : Way) (rights rights' : Rights) : Prop where
  components : Replaced t t made t₁ c.componentsOutput content v w rights
  systems : Replaced t t₁ made' t' c.systemsOutput content' v' w' rights'

section Run

variable {t made t₁ made' t' : FileTree} {c : Config} {content content' : List UInt8}
  {v w v' w' : Way} {rights rights' : Rights} {x : Location} {e : Entry}

theorem run_eq_of_replace {a : Analysis} (ha : Analysis.ofTree t c = .ok a)
    (hfirst : t.replace c.componentsOutput (Graph.contentOf a.graph.componentsText) = (t₁, .ok ()))
    (hsecond : t₁.replace c.systemsOutput (Graph.contentOf a.graph.systemsText) = (t', .ok ())) :
    run t c = (t', .ok a.report) := by
  rw [run, ha]
  simp only [Graph.write, Graph.replaceDocument, hfirst, hsecond]

section Wrote

variable (h : Wrote t made t₁ made' t' c content content' v w v' w' rights rights')
include h

theorem Wrote.find?_eq_of_not_touched (hx : ¬Touched t t' c x) : t'.find? x = t.find? x := by
  have hplaces : ∀ p ∈ c.writtenPaths, ∀ u, t.way? p = some u → x ≠ u.place :=
    fun p hp u hu hxu => hx (.inl ⟨p, hp, u, hu, hxu⟩)
  simp only [Config.writtenPaths, List.forall_mem_cons] at hplaces
  obtain ⟨hw, hv, hw', hv', -⟩ := hplaces
  have hsame : SameAt t t' x :=
    (h.components.sameAt (hv v h.components.sibling) (hw w h.components.target)).trans
      (h.systems.sameAt (hv' v' h.systems.sibling) (hw' w' h.systems.target))
  exact hsame.resolve_right fun hnew => hx (.inr hnew)

theorem Wrote.find?_between (hv : x ≠ v.place) (hw : x ≠ w.place) (hx : t.find? x = some e) :
    made'.find? x = some e := by
  refine h.systems.grown.find?_of_some ?_
  rw [h.components.find?, if_neg hv, if_neg hw, h.components.grown.find?_of_some hx]

theorem Wrote.find?_systemsSibling : t'.find? v'.place = none := by
  rw [h.systems.find?, if_pos rfl]

theorem Wrote.find?_componentsSibling (hapart : Apart t c)
    (hsibling : t'.isDirectory v.place = false) : t'.find? v.place = none := by
  have hw' := hapart.systems w' v h.systems.target h.components.sibling
  by_cases hv' : v.place = v'.place
  · rw [hv', h.find?_systemsSibling]
  · have hmade : t'.find? v.place = made'.find? v.place := by
      rw [h.systems.find?, if_neg hv', if_neg hw'.symm]
    rcases h.systems.grown.find? v.place with hsame | ⟨-, hnew⟩
    · rw [hmade, hsame, h.components.find?, if_pos rfl]
    · have hdir : t'.isDirectory v.place = true :=
        isDirectory_eq_true.mpr ⟨_, hmade.trans hnew⟩
      rw [hsibling] at hdir
      cases hdir

theorem Wrote.noDirectory (hapart : Apart t c) {p : Path} {u : Way} (hp : p ∈ c.writtenPaths)
    (hu : t.way? p = some u) (r : Rights) : t.find? u.place ≠ some (.directory r) := by
  intro hdir
  have hmade := h.components.grown.find?_of_some hdir
  simp only [Config.writtenPaths, List.mem_cons, List.not_mem_nil, or_false] at hp
  rcases hp with rfl | rfl | rfl | rfl
  · cases h.components.target.symm.trans hu
    exact h.components.noDirectory r hmade
  · cases h.components.sibling.symm.trans hu
    exact h.components.noDirectorySibling r hmade
  · cases h.systems.target.symm.trans hu
    have hv := hapart.systems w' v h.systems.target h.components.sibling
    have hw := hapart.outputs w w' h.components.target h.systems.target
    exact h.systems.noDirectory r (h.find?_between hv hw.symm hdir)
  · cases h.systems.sibling.symm.trans hu
    have hw := hapart.components w v' h.components.target h.systems.sibling
    by_cases hv : v'.place = v.place
    · rw [hv] at hmade
      exact h.components.noDirectorySibling r hmade
    · exact h.systems.noDirectorySibling r (h.find?_between hv hw.symm hdir)

variable (hclear : Undisturbed t t' c)
include hclear

theorem Wrote.sameSources (hsibling : t'.isDirectory v.place = false) :
    SameSources t t' c.extension := by
  have hapart := hclear.apart
  have hname : ∀ p ∈ c.writtenPaths, ∀ u, t.way? p = some u → NoSource c.extension u.place := by
    intro p hp u hu q hq
    obtain ⟨n, above, hn, -, hplace⟩ := exists_place_eq_cons hu
    rw [hplace, List.head?_cons, ← hn] at hq
    rw [isSourceFile_congr hq, hclear.noSource p hp]
  have htouched : ∀ {x}, t'.find? x ≠ t.find? x → Touched t t' c x := fun hx =>
    not_not.mp fun hnot => hx (h.find?_eq_of_not_touched hnot)
  refine ⟨h.systems.working, fun {x e} hx he => ?_, fun {x e} hx he => ?_⟩
  · rcases htouched hx with ⟨p, hp, u, hu, rfl⟩ | ⟨hnone, -⟩
    · refine ⟨?_, hname p hp u hu⟩
      cases e with
      | file r old => exact ⟨r, old, rfl⟩
      | directory r => exact absurd he (h.noDirectory hapart hp hu r)
      | link target => exact absurd he (hclear.noLink p hp u target hu)
    · rw [hnone] at he
      cases he
  · rcases htouched hx with ⟨p, hp, u, hu, rfl⟩ | ⟨hnone, hdir⟩
    · refine .inl ⟨?_, hname p hp u hu⟩
      have hcomponents := find?_components_of_both h.components hapart h.systems
      have hsystems := h.systems.find?_target
      have hgone := h.find?_componentsSibling hapart hsibling
      have hgone' := h.find?_systemsSibling
      simp only [Config.writtenPaths, List.mem_cons, List.not_mem_nil, or_false] at hp
      rcases hp with rfl | rfl | rfl | rfl
      · cases h.components.target.symm.trans hu
        exact ⟨_, _, Option.some.inj (he.symm.trans hcomponents)⟩
      · cases h.components.sibling.symm.trans hu
        cases he.symm.trans hgone
      · cases h.systems.target.symm.trans hu
        exact ⟨_, _, Option.some.inj (he.symm.trans hsystems)⟩
      · cases h.systems.sibling.symm.trans hu
        cases he.symm.trans hgone'
    · obtain ⟨r, hr⟩ := isDirectory_eq_true.mp hdir
      exact .inr ⟨hnone, r, Option.some.inj (he.symm.trans hr)⟩

theorem Wrote.ofTree_eq (hsibling : t'.isDirectory v.place = false) {a : Analysis}
    (ha : Analysis.ofTree t c = .ok a) : Analysis.ofTree t' c = .ok a := by
  refine Analysis.ofTree_congr (h.sameSources hclear hsibling) ?_ ?_ ha
  · intro names n loc target hnames hloc htarget x hx
    exact h.find?_eq_of_not_touched (hclear.links names n loc target hnames hloc htarget x hx)
  · exact fun x hx => h.find?_eq_of_not_touched (hclear.ignoreFile x hx)

theorem Wrote.exists_again (hunshared : Unshared t c)
    (hsibling : t'.isDirectory v.place = false) :
    ∃ u u', t'.replace c.componentsOutput content = (u, .ok ()) ∧
      u.replace c.systemsOutput content' = (u', .ok ()) ∧ ∀ x, u'.contents? x = t'.contents? x := by
  have hapart := hclear.apart
  have hcomponents := clearBeside_components hapart hunshared
  have hsystems := clearBeside_systems hapart hunshared
  have hin₁ := h.components.inherits (.refl t) hcomponents
  have hin' := h.systems.inherits hin₁ hsystems
  have hlink : ∀ p ∈ c.writtenPaths, ∀ u, t.way? p = some u → ∀ s, Inherits t s →
      ∀ target, s.find? u.place ≠ some (.link target) :=
    fun p hp u hu s hs target htarget => hclear.noLink p hp u target hu (hs.link htarget)
  have hinMade := (Inherits.refl t).grown h.components.grown
  have hinMade' := hin₁.grown h.systems.grown
  have hmade := h.components.grown.preserves
  have hmadeSystems : Preserves made t₁ := h.components.preserves hinMade.working
    (hlink _ (by simp [Config.writtenPaths]) w h.components.target made hinMade)
  have hmade' : Preserves made' t' := h.systems.preserves hinMade'.working
    (hlink _ (by simp [Config.writtenPaths]) w' h.systems.target made' hinMade')
  have hbetween := hmadeSystems.trans h.systems.grown.preserves
  have hfile := find?_components_of_both h.components hapart h.systems
  obtain ⟨u, hu, hfiled⟩ := exists_replace_again hin' hcomponents h.components hmade
    (hbetween.trans hmade') (h.find?_componentsSibling hapart hsibling) hfile
  have hkept : Preserves t' u := hfiled.preserves fun e he => by
    rw [hfile] at he
    cases he
    rfl
  have hv' := hapart.components w v' h.components.target h.systems.sibling
  have hw' := hapart.outputs w w' h.components.target h.systems.target
  have hfile' : u.find? w'.place = some (.file rights' content') := by
    rw [hfiled.find?, if_neg hw'.symm, h.systems.find?_target]
  have hgone : u.find? v'.place = none := by
    rw [hfiled.find?, if_neg hv'.symm, h.find?_systemsSibling]
  obtain ⟨u', hu', hfiled'⟩ := exists_replace_again (hfiled.inherits hin') hsystems
    h.systems (hmade.trans hbetween) (hmade'.trans hkept) hgone hfile'
  refine ⟨u, u', hu, hu', fun x => ?_⟩
  rw [hfiled'.contents? hfile', hfiled.contents? hfile]

end Wrote

/-- Where the first run left no directory at the components' temporary sibling, a second one
succeeds as well, gives the same report, and changes nothing but rights. -/
theorem repeats_run (t t' : FileTree) (c : Config) (r : Report) (hrun : run t c = (t', .ok r))
    (hclear : Undisturbed t t' c) (hunshared : Unshared t c)
    (hsibling : ∀ v ∈ t.way? (temporarySibling c.componentsOutput),
      t'.isDirectory v.place = false) :
    ∃ t'', run t' c = (t'', .ok r) ∧ ∀ x, t''.contents? x = t'.contents? x := by
  rw [← runUnder_none] at hrun
  obtain ⟨a, made, t₁, made', v, w, v', w', rights, rights', ha, rfl, hfirst, hsecond⟩ :=
    exists_replaced_of_runUnder hclear.apart hunshared hrun
  have h : Wrote t made t₁ made' t' c (Graph.contentOf a.graph.componentsText)
      (Graph.contentOf a.graph.systemsText) v w v' w' rights rights' := ⟨hfirst, hsecond⟩
  have hnone := hsibling v h.components.sibling
  obtain ⟨u, u', hu, hu', hcontents⟩ := h.exists_again hclear hunshared hnone
  exact ⟨u', run_eq_of_replace (h.ofTree_eq hclear hnone ha) hu hu', hcontents⟩

end Run

section Concrete

variable {t t' : FileTree} {c : Config}

instance decidableTouched (t t' : FileTree) (c : Config) (x : Location) :
    Decidable (Touched t t' c x) :=
  decidable_of_iff
    ((c.writtenPaths.any fun p => (t.way? p).any fun w => x = w.place) = true ∨
      (t.find? x = none ∧ t'.isDirectory x = true))
    (by simp [Touched, Option.any_eq_true])

theorem noLink_of_entries (h : (t.entries.all fun x => !x.2.isLink) = true) (x : Location)
    (target : Path) : t.find? x ≠ some (.link target) := by
  intro hfind
  have hentry := List.all_eq_true.mp h _ (mem_entries_of_find? hfind)
  cases hentry

theorem undisturbed_of_noLink (hapart : Apart t c)
    (hlinks : (t.entries.all fun x => !x.2.isLink) = true)
    (hsource : (c.writtenPaths.all fun p => !p.isSourceFile c.extension) = true)
    (hignore : ∀ x ∈ t.trail (c.sourceRoot.join (.ofString c.ignoreFile)), ¬Touched t t' c x) :
    Undisturbed t t' c where
  apart := hapart
  noLink _ _ w target _ := noLink_of_entries hlinks w.place target
  noSource p hp := by simpa using List.all_eq_true.mp hsource p hp
  links _ n loc target _ _ hfind := absurd hfind (noLink_of_entries hlinks (n :: loc) target)
  ignoreFile := hignore

theorem exists_report_of_isOk (t : FileTree) (c : Config) (h : (run t c).2.isOk = true) :
    ∃ r, run t c = ((run t c).1, .ok r) := by
  cases hresult : (run t c).2 with
  | error e =>
      rw [hresult] at h
      cases h
  | ok r => exact ⟨r, by rw [← hresult]⟩

def openTree : FileTree :=
  fresh
    |>.put [] (.directory allRights)
    |>.put sourceDirectory (.directory allRights)

def usedTree : FileTree :=
  openTree
    |>.put (Utf8.ofString "A.cs" :: sourceDirectory) (.file fileRights [])
    |>.put (Utf8.ofString "Systems.json.tmp" :: sourceDirectory) (.file fileRights [0x7B])

def innerConfig : Config :=
  { Config.forRoot (.ofString "src") with
    componentsOutput := .ofString "src/new/Components.json"
    systemsOutput := .ofString "src/Systems.json" }

theorem repeats_run_used :
    ∃ t' r, run usedTree innerConfig = (t', .ok r) ∧ Undisturbed usedTree t' innerConfig ∧
      Unshared usedTree innerConfig ∧
      ∃ t'', run t' innerConfig = (t'', .ok r) ∧ ∀ x, t''.contents? x = t'.contents? x := by
  obtain ⟨r, hrun⟩ := exists_report_of_isOk usedTree innerConfig rfl
  have hclear : Undisturbed usedTree (run usedTree innerConfig).1 innerConfig :=
    undisturbed_of_noLink (by decide +kernel) (by decide +kernel) (by decide +kernel)
      (by decide +kernel)
  have hunshared : Unshared usedTree innerConfig := by decide +kernel
  exact ⟨_, r, hrun, hclear, hunshared,
    repeats_run _ _ _ r hrun hclear hunshared (by decide +kernel)⟩

def nestedConfig : Config :=
  { Config.forRoot (.ofString "src") with
    componentsOutput := .ofString "out/Components.json"
    systemsOutput := .ofString "out/Components.json.tmp/Systems.json" }

def limitless (t : FileTree) : Bool :=
  t.entries.all fun x => !x.2.isDirectory || x.2 = .directory allRights

def pairedTree : FileTree :=
  openTree
    |>.put (Utf8.ofString "A.cs" :: sourceDirectory)
      (.file fileRights (Utf8.ofString "struct A : IComponentData { }"))
    |>.put [Utf8.ofString "Components.json.tmp", workingName] (.file fileRights [])
    |>.addName [Utf8.ofString "Components.json.tmp", workingName]
      [Utf8.ofString "Systems.json.tmp", workingName]

def pairedConfig : Config :=
  { Config.forRoot (.ofString "src") with
    componentsOutput := .ofString "Components.json"
    systemsOutput := .ofString "Systems.json" }

/-- The first run succeeds. The second finds the directory where it would write; or it makes two
files of what the first left as one. -/
theorem not_repeats_nested :
    (limitless openTree = true ∧ Unnested openTree nestedConfig ∧
      ∃ t' r, run openTree nestedConfig = (t', .ok r) ∧ Undisturbed openTree t' nestedConfig ∧
        ¬∃ t'' r', run t' nestedConfig = (t'', .ok r')) ∧
    (limitless pairedTree = true ∧ Unnested pairedTree pairedConfig ∧
      ∃ t' r, run pairedTree pairedConfig = (t', .ok r) ∧
        Undisturbed pairedTree t' pairedConfig ∧
        (∀ v ∈ pairedTree.way? (temporarySibling pairedConfig.componentsOutput),
          t'.isDirectory v.place = false) ∧
        ∃ t'' r', run t' pairedConfig = (t'', .ok r') ∧
          t''.read pairedConfig.componentsOutput ≠ t'.read pairedConfig.componentsOutput) := by
  constructor
  · obtain ⟨r, hrun⟩ := exists_report_of_isOk openTree nestedConfig rfl
    have hclear : Undisturbed openTree (run openTree nestedConfig).1 nestedConfig :=
      undisturbed_of_noLink (by decide +kernel) (by decide +kernel) (by decide +kernel)
        (by decide +kernel)
    refine ⟨by decide +kernel, by decide +kernel, _, r, hrun, hclear, ?_⟩
    have hagain : (run (run openTree nestedConfig).1 nestedConfig).2 =
        .error (.file nestedConfig.componentsOutput .isDirectory) := by
      rfl
    rintro ⟨t'', r', hok⟩
    rw [hok] at hagain
    cases hagain
  · obtain ⟨r, hfirst⟩ := exists_report_of_isOk pairedTree pairedConfig rfl
    obtain ⟨r', hsecond⟩ := exists_report_of_isOk (run pairedTree pairedConfig).1 pairedConfig rfl
    have hclear : Undisturbed pairedTree (run pairedTree pairedConfig).1 pairedConfig :=
      undisturbed_of_noLink (by decide +kernel) (by decide +kernel) (by decide +kernel)
        (by decide +kernel)
    exact ⟨by decide +kernel, by decide +kernel, _, r, hfirst, hclear, by decide +kernel, _, r',
      hsecond, by decide +kernel⟩

end Concrete

end EntityGraph

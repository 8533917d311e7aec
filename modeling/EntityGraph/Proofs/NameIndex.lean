import EntityGraph.Proofs.Catalog
import EntityGraph.Proofs.ScanOrder

namespace EntityGraph

theorem find?_map_eq_of_perm {α β : Type} {l m : List α} {p : α → Bool} {f : α → β}
    (h : l.Perm m) (hf : ∀ x ∈ l, ∀ y ∈ l, p x = true → p y = true → f x = f y) :
    (l.find? p).map f = (m.find? p).map f := by
  cases hl : l.find? p with
  | none =>
      have hm : m.find? p = none := by
        rw [List.find?_eq_none] at hl ⊢
        intro y hy
        exact hl y (h.mem_iff.mpr hy)
      rw [hm]
  | some x =>
      have hx : x ∈ l := List.mem_of_find?_eq_some hl
      have hpx : p x = true := List.find?_some hl
      cases hm : m.find? p with
      | none =>
          rw [List.find?_eq_none] at hm
          exact absurd hpx (hm x (h.mem_iff.mp hx))
      | some y =>
          have hy : y ∈ l := h.mem_iff.mpr (List.mem_of_find?_eq_some hm)
          have hpy : p y = true := List.find?_some hm
          simp [hf x hx y hy hpx hpy]

def Unambiguous (files : List ScannedFile) : Prop :=
  ∀ d ∈ scanOrder files, ∀ e ∈ scanOrder files, d.shortName = e.shortName → d.fullName = e.fullName

instance : DecidablePred Unambiguous := fun files =>
  inferInstanceAs (Decidable (∀ d ∈ scanOrder files, ∀ e ∈ scanOrder files,
    d.shortName = e.shortName → d.fullName = e.fullName))

namespace NameIndex

theorem find?_names_build (files : List ScannedFile) (short : String) :
    (build files).names.find? short =
      ((scanOrder files).find? (·.shortName = short)).map (·.fullName) := by
  rw [build, corpus_eq_scanOrder]
  exact Catalog.find?_ofListFirst_map _ _ _ short

theorem mem_fullNames_build {files : List ScannedFile} {name : String} :
    name ∈ (build files).fullNames ↔ name ∈ (scanOrder files).map (·.fullName) := by
  rw [build, corpus_eq_scanOrder]
  rfl

theorem resolve_congr {index other : NameIndex}
    (hnames : ∀ short, index.names.find? short = other.names.find? short)
    (hfull : ∀ name, name ∈ index.fullNames ↔ name ∈ other.fullNames) (text : String) :
    index.resolve text = other.resolve text := by
  unfold resolve
  simp only [hnames, hfull]

theorem resolve_build_of_perm {files others : List ScannedFile} (h : files.Perm others)
    (hu : Unambiguous files) (text : String) :
    (build files).resolve text = (build others).resolve text := by
  have hscan := perm_scanOrder h
  apply resolve_congr
  · intro short
    rw [find?_names_build, find?_names_build]
    refine find?_map_eq_of_perm hscan ?_
    intro d hd e he hds hes
    simp only [decide_eq_true_eq] at hds hes
    exact hu d hd e he (hds.trans hes.symm)
  · intro name
    rw [mem_fullNames_build, mem_fullNames_build]
    exact (hscan.map _).mem_iff

end NameIndex

end EntityGraph

import EntityGraph.FileTree

namespace EntityGraph.FileTree

variable {t t' t'' : FileTree} {x y place : Location}

theorem sameFile_iff : t.sameFile x y = true ↔
    x = y ∨ ∃ n, t.number? x = some n ∧ t.number? y = some n :=
  sameNumber_iff

theorem sameFile_comm (t : FileTree) (x y : Location) : t.sameFile x y = t.sameFile y x := by
  rw [Bool.eq_iff_iff, sameFile_iff, sameFile_iff]
  grind

theorem sameFile_congr (hx : t'.number? x = t.number? x) (hy : t'.number? y = t.number? y) :
    t'.sameFile x y = t.sameFile x y := by
  rw [Bool.eq_iff_iff, sameFile_iff, sameFile_iff, hx, hy]

theorem number?_of_missing (h : t.find? x = none) : t.number? x = none := by
  rw [Option.eq_none_iff_forall_ne_some]
  intro n hn
  obtain ⟨rights, content, hfile⟩ := t.shared.file x n hn
  rw [find?, hfile] at h
  cases h

/-- What stands there stands under no other name. -/
def Alone (t : FileTree) (x : Location) : Prop :=
  ∀ y, t.sameFile x y = true → y = x

theorem alone_of_number? (h : t.number? x = none) : t.Alone x := by
  intro y hsame
  rcases sameFile_iff.mp hsame with hxy | ⟨n, hn, -⟩
  · exact hxy.symm
  · rw [h] at hn
    cases hn

theorem alone_congr (h : ∀ y, t'.number? y = t.number? y) : t'.Alone x ↔ t.Alone x := by
  unfold Alone
  simp only [sameFile_congr (h _) (h _)]

theorem Alone.sameFile (h : t.Alone x) : t.sameFile x y = decide (x = y) := by
  rw [Bool.eq_iff_iff, decide_eq_true_eq]
  exact ⟨fun hsame => (h y hsame).symm, fun hxy => sameFile_iff.mpr (.inl hxy)⟩

theorem alone_iff : t.Alone x ↔ ∀ e ∈ t.numbers, t.sameFile x e.1 = true → e.1 = x := by
  refine ⟨fun h e _ => h e.1, fun h y hsame => ?_⟩
  rcases sameFile_iff.mp hsame with hxy | ⟨n, -, hy⟩
  · exact hxy.symm
  · exact h (y, n) (mem_of_lookup hy) hsame

instance decidableAlone (t : FileTree) (x : Location) : Decidable (t.Alone x) :=
  decidable_of_iff _ alone_iff.symm

/-- The same names stand for the same files as before, but that the file at the place has no other
name. -/
structure SameNames (t t' : FileTree) (place : Location) : Prop where
  alone : t'.Alone place
  same : ∀ x y, x ≠ place → y ≠ place → t'.sameFile x y = t.sameFile x y

theorem SameNames.inherits_alone (h : SameNames t t' place) (hx : t.Alone x) : t'.Alone x := by
  by_cases hplace : x = place
  · exact hplace ▸ h.alone
  intro y hsame
  by_cases hy : y = place
  · subst hy
    rw [sameFile_comm] at hsame
    exact (h.alone x hsame).symm
  · rw [h.same x y hplace hy] at hsame
    exact hx y hsame

theorem SameNames.sameFile (h : SameNames t t' place) (hplace : t.Alone place) (x y : Location) :
    t'.sameFile x y = t.sameFile x y := by
  by_cases hx : x = place
  · rw [hx, h.alone.sameFile, hplace.sameFile]
  by_cases hy : y = place
  · rw [hy, sameFile_comm t', sameFile_comm t, h.alone.sameFile, hplace.sameFile]
  · exact h.same x y hx hy

theorem sameNames_of_number? (hplace : t.Alone place) (h : ∀ y, t'.number? y = t.number? y) :
    SameNames t t' place :=
  ⟨(alone_congr h).mpr hplace, fun x y _ _ => sameFile_congr (h x) (h y)⟩

end EntityGraph.FileTree

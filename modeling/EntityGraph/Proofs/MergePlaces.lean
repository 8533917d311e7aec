import EntityGraph.Merge
import Mathlib.Data.List.Induction

namespace EntityGraph.Merge

variable {α : Type} {name : α → String} {combine : α → α → α}

def add (name : α → String) (combine : α → α → α) (item : α) : List α → List α
  | [] => [item]
  | x :: xs => if name x = name item then combine x item :: xs else x :: add name combine item xs

theorem add_of_idxOf?_eq_none {item : α} {l : List α} (h : (l.map name).idxOf? (name item) = none) :
    add name combine item l = l ++ [item] := by
  induction l with
  | nil => rfl
  | cons x xs ih =>
      rw [List.map_cons, List.idxOf?_cons] at h
      by_cases hx : name x = name item
      · simp [hx] at h
      · rw [if_neg (by simpa using hx), Option.map_eq_none_iff] at h
        rw [add, if_neg hx, ih h, List.cons_append]

theorem add_of_idxOf?_eq_some {item : α} {place : Nat} {l : List α}
    (h : (l.map name).idxOf? (name item) = some place) :
    add name combine item l = l.modify place (combine · item) := by
  induction l generalizing place with
  | nil => cases h
  | cons x xs ih =>
      rw [List.map_cons, List.idxOf?_cons] at h
      by_cases hx : name x = name item
      · rw [if_pos (by simpa using hx), Option.some.injEq] at h
        subst h
        rw [add, if_pos hx, List.modify_cons, if_pos rfl]
      · rw [if_neg (by simpa using hx), Option.map_eq_some_iff] at h
        obtain ⟨below, hbelow, rfl⟩ := h
        rw [add, if_neg hx, ih hbelow, List.modify_cons, if_neg (Nat.succ_ne_zero below),
          Nat.add_sub_cancel]

theorem map_name_modify (hname : ∀ a b, name (combine a b) = name a) (item : α) (place : Nat)
    (l : List α) : (l.modify place (combine · item)).map name = l.map name := by
  induction l generalizing place with
  | nil => cases place <;> rfl
  | cons x xs ih =>
      rw [List.modify_cons]
      split
      · rw [List.map_cons, hname, List.map_cons]
      · rw [List.map_cons, ih, List.map_cons]

namespace Merged

def Placed (name : α → String) (m : Merged α) : Prop :=
  ∀ n, m.places.find? n = (m.items.map name).idxOf? n

theorem placed_empty : (empty : Merged α).Placed name := fun _ => rfl

theorem Placed.add (hname : ∀ a b, name (combine a b) = name a) {m : Merged α}
    (h : m.Placed name) (item : α) : (m.add name combine item).Placed name := by
  intro n
  rw [Merged.add, h (name item)]
  cases hplace : (m.items.map name).idxOf? (name item) with
  | some place =>
      simp only
      rw [map_name_modify hname, h n]
  | none =>
      simp only
      rw [Catalog.insert, Catalog.find?_upsert, List.map_append, List.map_singleton, List.idxOf?,
        List.findIdx?_append]
      by_cases hn : n = name item
      · rw [if_pos hn, hn]
        rw [List.idxOf?] at hplace
        simp [hplace]
      · rw [if_neg hn, h n, List.idxOf?]
        simp [Ne.symm hn]

theorem Placed.items_add {m : Merged α} (h : m.Placed name) (item : α) :
    (m.add name combine item).items = Merge.add name combine item m.items := by
  rw [Merged.add, h (name item)]
  cases hplace : (m.items.map name).idxOf? (name item) with
  | some place => exact (add_of_idxOf?_eq_some hplace).symm
  | none => exact (add_of_idxOf?_eq_none hplace).symm

theorem Placed.exists_item {m : Merged α} (h : m.Placed name) {n : String} {place : Nat}
    (hplace : m.places.find? n = some place) :
    ∃ hlt : place < m.items.length, name m.items[place] = n := by
  rw [h n, List.idxOf?_eq_some_iff] at hplace
  obtain ⟨hlt, hn, -⟩ := hplace
  rw [List.getElem_map] at hn
  exact ⟨by simpa using hlt, hn⟩

end Merged

theorem run_concat (items : List α) (item : α) :
    run name combine (items ++ [item]) = (run name combine items).add name combine item := by
  simp [run]

theorem placed_run (hname : ∀ a b, name (combine a b) = name a) (items : List α) :
    (run name combine items).Placed name := by
  induction items using List.reverseRecOn with
  | nil => exact Merged.placed_empty
  | append_singleton items item ih =>
      rw [run_concat]
      exact ih.add hname item

theorem byName_concat (hname : ∀ a b, name (combine a b) = name a) (items : List α) (item : α) :
    byName name combine (items ++ [item]) = add name combine item (byName name combine items) := by
  rw [byName, run_concat, (placed_run hname items).items_add]
  rfl

end EntityGraph.Merge

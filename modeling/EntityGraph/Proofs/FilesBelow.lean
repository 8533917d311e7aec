import EntityGraph.FileTree
import Mathlib.Data.List.Basic

namespace EntityGraph.FileTree

variable {t : FileTree} {loc : Location}

theorem mem_insertName {n m : Name} {l : List Name} : m ∈ insertName n l ↔ m = n ∨ m ∈ l := by
  induction l with
  | nil => simp [insertName]
  | cons x xs ih =>
      rw [insertName]
      split
      · simp
      · split
        · rename_i h
          simp [h]
        · simp [ih, or_left_comm]

theorem sorted_insertName {n : Name} {l : List Name} (h : l.Pairwise (· < ·)) :
    (insertName n l).Pairwise (· < ·) := by
  induction l with
  | nil => simp [insertName]
  | cons x xs ih =>
      obtain ⟨hx, hxs⟩ := List.pairwise_cons.mp h
      rw [insertName]
      split
      · rename_i hlt
        refine List.pairwise_cons.mpr ⟨?_, h⟩
        intro y hy
        rcases List.mem_cons.mp hy with rfl | hy
        · exact hlt
        · exact List.lt_trans hlt (hx y hy)
      · rename_i hlt
        split
        · exact h
        · rename_i hne
          have hgt : x < n := ((Std.lt_trichotomy n x).resolve_left hlt).resolve_left hne
          refine List.pairwise_cons.mpr ⟨?_, ih hxs⟩
          intro y hy
          rcases mem_insertName.mp hy with rfl | hy
          · exact hgt
          · exact hx y hy

theorem mem_foldr_insertName {m : Name} {l : List Name} : m ∈ l.foldr insertName [] ↔ m ∈ l := by
  induction l with
  | nil => rfl
  | cons x xs ih => rw [List.foldr_cons, mem_insertName, ih, List.mem_cons]

theorem sorted_foldr_insertName (l : List Name) : (l.foldr insertName []).Pairwise (· < ·) := by
  induction l with
  | nil => exact .nil
  | cons x xs ih => exact sorted_insertName ih

theorem mem_entries_of_find? {e : Entry} (h : t.find? loc = some e) : (loc, e) ∈ t.entries :=
  mem_of_lookup h

theorem mem_names_of_find? {n : Name} {e : Entry} (h : t.find? (n :: loc) = some e) :
    n ∈ t.names loc := by
  have he := mem_entries_of_find? h
  rw [names, mem_foldr_insertName, List.mem_filterMap]
  exact ⟨(n :: loc, e), he, by simp [nameBelow?]⟩

theorem mem_children {n : Name} {e : Entry} :
    (n, e) ∈ t.children loc ↔ t.find? (n :: loc) = some e := by
  unfold children
  rw [List.mem_filterMap]
  constructor
  · rintro ⟨m, -, hm⟩
    rw [Option.map_eq_some_iff] at hm
    obtain ⟨e', he', heq⟩ := hm
    cases heq
    exact he'
  · intro h
    exact ⟨n, mem_names_of_find? h, by rw [h]; rfl⟩

theorem sorted_children (t : FileTree) (loc : Location) :
    (t.children loc).Pairwise fun a b => a.1 < b.1 := by
  unfold children
  rw [List.pairwise_filterMap]
  refine (sorted_foldr_insertName _).imp ?_
  intro n m hnm a ha b hb
  rw [Option.map_eq_some_iff] at ha hb
  obtain ⟨e, -, rfl⟩ := ha
  obtain ⟨e', -, rfl⟩ := hb
  exact hnm

theorem isEntryName_of_find? {n : Name} {e : Entry} (h : t.find? (n :: loc) = some e) :
    isEntryName n = true :=
  (t.closed n loc (by rw [Option.isSome_iff_exists]; exact ⟨e, h⟩)).1

theorem directory_of_find? {n : Name} {e : Entry} (h : t.find? (n :: loc) = some e) :
    ∃ rights, t.find? loc = some (.directory rights) := by
  have hdir := (t.closed n loc (by rw [Option.isSome_iff_exists]; exact ⟨e, h⟩)).2
  have hfind : (t.find? loc).any Entry.isDirectory = true := hdir
  cases hloc : t.find? loc with
  | none => rw [hloc] at hfind; cases hfind
  | some e =>
      rw [hloc] at hfind
      cases e with
      | directory rights => exact ⟨rights, rfl⟩
      | file rights content => cases hfind
      | link target => cases hfind

theorem directory_of_find?_append {names : List Name} {e : Entry} (hne : names ≠ [])
    (h : t.find? (names ++ loc) = some e) : ∃ rights, t.find? loc = some (.directory rights) := by
  induction names generalizing e with
  | nil => exact absurd rfl hne
  | cons n names ih =>
      obtain ⟨rights, hrights⟩ := directory_of_find? h
      by_cases hnil : names = []
      · subst hnil
        exact ⟨rights, hrights⟩
      · exact ih hnil hrights

def filesBelow (t : FileTree) : Nat → Location → List (List Name)
  | 0, _ => []
  | fuel + 1, loc =>
      (t.children loc).flatMap fun c =>
        match c.2 with
        | .file .. => [[c.1]]
        | .directory _ => (filesBelow t fuel (c.1 :: loc)).map (c.1 :: ·)
        | .link _ => []

theorem reverse_cons_append (n : Name) (names : List Name) (loc : Location) :
    (n :: names).reverse ++ loc = names.reverse ++ n :: loc := by
  simp

theorem reverse_concat_append (names : List Name) (n : Name) (loc : Location) :
    (names ++ [n]).reverse ++ loc = n :: (names.reverse ++ loc) := by
  simp

theorem mem_filesBelow {fuel : Nat} {names : List Name} :
    names ∈ t.filesBelow fuel loc ↔
      names ≠ [] ∧ names.length ≤ fuel ∧
        ∃ rights content, t.find? (names.reverse ++ loc) = some (.file rights content) := by
  induction fuel generalizing loc names with
  | zero =>
      simp only [filesBelow, List.not_mem_nil, false_iff]
      rintro ⟨hne, hlen, -⟩
      exact hne (List.length_eq_zero_iff.mp (Nat.le_zero.mp hlen))
  | succ fuel ih =>
      rw [filesBelow, List.mem_flatMap]
      constructor
      · rintro ⟨⟨n, e⟩, hchild, hnames⟩
        have hfind := mem_children.mp hchild
        cases e with
        | file rights content =>
            rw [List.mem_singleton] at hnames
            subst hnames
            exact ⟨by simp, by simp, rights, content, hfind⟩
        | directory rights =>
            obtain ⟨rest, hrest, rfl⟩ := List.mem_map.mp hnames
            obtain ⟨-, hlen, hfile⟩ := ih.mp hrest
            refine ⟨by simp, by simpa using hlen, ?_⟩
            rwa [reverse_cons_append]
        | link target => cases hnames
      · rintro ⟨hne, hlen, rights, content, hfile⟩
        cases names with
        | nil => exact absurd rfl hne
        | cons n rest =>
            rw [reverse_cons_append] at hfile
            by_cases hrest : rest = []
            · subst hrest
              exact ⟨(n, .file rights content), mem_children.mpr hfile, by simp⟩
            · obtain ⟨r, hdir⟩ := directory_of_find?_append (by simpa using hrest) hfile
              refine ⟨(n, .directory r), mem_children.mpr hdir, ?_⟩
              refine List.mem_map.mpr ⟨rest, ih.mpr ⟨hrest, by simpa using hlen, ?_⟩, rfl⟩
              exact ⟨rights, content, hfile⟩

theorem exists_head_of_mem {n : Name} {e : Entry} {fuel : Nat} {names : List Name}
    (h : names ∈ (match e with
      | .file .. => [[n]]
      | .directory _ => (t.filesBelow fuel (n :: loc)).map (n :: ·)
      | .link _ => [])) : ∃ rest, names = n :: rest := by
  cases e with
  | file rights content => exact ⟨[], by simpa using h⟩
  | directory rights =>
      obtain ⟨rest, -, rfl⟩ := List.mem_map.mp h
      exact ⟨rest, rfl⟩
  | link target => cases h

theorem sorted_filesBelow (t : FileTree) (fuel : Nat) (loc : Location) :
    (t.filesBelow fuel loc).Pairwise (· < ·) := by
  induction fuel generalizing loc with
  | zero => exact .nil
  | succ fuel ih =>
      rw [filesBelow, List.pairwise_flatMap]
      constructor
      · rintro ⟨n, e⟩ -
        cases e with
        | file rights content => exact List.pairwise_singleton _ _
        | directory rights =>
            rw [List.pairwise_map]
            exact (ih (n :: loc)).imp fun h => List.cons_lt_cons_iff.mpr (.inr ⟨rfl, h⟩)
        | link target => exact .nil
      · -- files of two entries are compared at the entries' names
        refine (sorted_children t loc).imp ?_
        intro a b hab xs hxs ys hys
        obtain ⟨xs, rfl⟩ := exists_head_of_mem hxs
        obtain ⟨ys, rfl⟩ := exists_head_of_mem hys
        exact List.cons_lt_cons_iff.mpr (.inl hab)

end EntityGraph.FileTree

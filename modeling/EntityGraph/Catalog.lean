namespace EntityGraph

structure Catalog (α : Type) where
  entries : List (String × α)
  sorted : entries.Pairwise (fun a b => a.1 < b.1)

namespace Catalog

variable {α β : Type}

def upsertEntries (key : String) (f : Option α → α) : List (String × α) → List (String × α)
  | [] => [(key, f none)]
  | (k, v) :: rest =>
      if key < k then (key, f none) :: (k, v) :: rest
      else if key = k then (k, f (some v)) :: rest
      else (k, v) :: upsertEntries key f rest

theorem key_of_mem_upsertEntries {key : String} {f : Option α → α} :
    ∀ {l : List (String × α)} {e : String × α},
      e ∈ upsertEntries key f l → e.1 = key ∨ ∃ e' ∈ l, e'.1 = e.1 := by
  intro l
  induction l with
  | nil => intro e h; simp [upsertEntries] at h; simp [h]
  | cons hd tl ih =>
      intro e h
      obtain ⟨k, v⟩ := hd
      simp only [upsertEntries] at h
      split at h
      · rcases List.mem_cons.mp h with h | h
        · exact .inl (by simp [h])
        · exact .inr ⟨e, h, rfl⟩
      · split at h
        · rcases List.mem_cons.mp h with h | h
          · exact .inr ⟨(k, v), List.mem_cons_self, by simp [h]⟩
          · exact .inr ⟨e, List.mem_cons_of_mem _ h, rfl⟩
        · rcases List.mem_cons.mp h with h | h
          · exact .inr ⟨e, by simp [h], rfl⟩
          · rcases ih h with h | ⟨e', hm, he⟩
            · exact .inl h
            · exact .inr ⟨e', List.mem_cons_of_mem _ hm, he⟩

theorem lt_of_not_lt_of_ne {a b : String} (hlt : ¬a < b) (hne : a ≠ b) : b < a := by
  rcases Std.lt_trichotomy a b with h | h | h
  · exact absurd h hlt
  · exact absurd h hne
  · exact h

theorem upsertEntries_sorted (key : String) (f : Option α → α) {l : List (String × α)}
    (h : l.Pairwise (fun a b => a.1 < b.1)) :
    (upsertEntries key f l).Pairwise (fun a b => a.1 < b.1) := by
  induction l with
  | nil => simp [upsertEntries]
  | cons hd tl ih =>
      obtain ⟨k, v⟩ := hd
      have hd := List.pairwise_cons.mp h
      simp only [upsertEntries]
      split
      · rename_i hlt
        refine List.pairwise_cons.mpr ⟨?_, h⟩
        intro e he
        rcases List.mem_cons.mp he with he | he
        · simpa [he] using hlt
        · exact String.lt_trans hlt (hd.1 e he)
      · split
        · exact List.pairwise_cons.mpr ⟨hd.1, hd.2⟩
        · rename_i hlt hne
          refine List.pairwise_cons.mpr ⟨?_, ih hd.2⟩
          intro e he
          rcases key_of_mem_upsertEntries he with he | ⟨e', hm, he⟩
          · simpa [he] using lt_of_not_lt_of_ne hlt hne
          · simpa [← he] using hd.1 e' hm

def empty : Catalog α := ⟨[], .nil⟩

def upsert (c : Catalog α) (key : String) (f : Option α → α) : Catalog α :=
  ⟨upsertEntries key f c.entries, upsertEntries_sorted key f c.sorted⟩

def insert (c : Catalog α) (key : String) (value : α) : Catalog α :=
  c.upsert key fun _ => value

def insertNew (c : Catalog α) (key : String) (value : α) : Catalog α :=
  c.upsert key (·.getD value)

def findEntry (key : String) : List (String × α) → Option α
  | [] => none
  | (k, v) :: rest => if k = key then some v else findEntry key rest

def find? (c : Catalog α) (key : String) : Option α :=
  findEntry key c.entries

def keys (c : Catalog α) : List String :=
  c.entries.map (·.1)

def values (c : Catalog α) : List α :=
  c.entries.map (·.2)

def size (c : Catalog α) : Nat :=
  c.entries.length

def contains (c : Catalog α) (key : String) : Bool :=
  (c.find? key).isSome

def ofList (l : List (String × α)) : Catalog α :=
  l.foldl (fun c e => c.insert e.1 e.2) empty

def ofListFirst (l : List (String × α)) : Catalog α :=
  l.foldl (fun c e => c.insertNew e.1 e.2) empty

theorem ext {c d : Catalog α} (h : c.entries = d.entries) : c = d := by
  cases c; cases d; cases h; rfl

theorem findEntry_eq_none {key : String} :
    ∀ {l : List (String × α)}, (∀ e ∈ l, e.1 ≠ key) → findEntry key l = none := by
  intro l
  induction l with
  | nil => intro _; rfl
  | cons hd tl ih =>
      intro h
      have hne : hd.1 ≠ key := h hd List.mem_cons_self
      simp only [findEntry, if_neg hne]
      exact ih fun e he => h e (List.mem_cons_of_mem _ he)

theorem findEntry_upsertEntries_self (key : String) (f : Option α → α) {l : List (String × α)}
    (h : l.Pairwise (fun a b => a.1 < b.1)) :
    findEntry key (upsertEntries key f l) = some (f (findEntry key l)) := by
  induction l with
  | nil => simp [upsertEntries, findEntry]
  | cons hd tl ih =>
      obtain ⟨k, v⟩ := hd
      have hd := List.pairwise_cons.mp h
      simp only [upsertEntries]
      split
      · rename_i hlt
        have hk : k ≠ key := fun e => String.lt_irrefl key (e ▸ hlt)
        have hnone : findEntry key tl = none :=
          findEntry_eq_none fun e he heq =>
            String.lt_irrefl key (String.lt_trans hlt (heq ▸ hd.1 e he))
        simp [findEntry, hk, hnone]
      · split
        · rename_i heq
          simp [findEntry, heq]
        · rename_i hne
          simp [findEntry, Ne.symm hne, ih hd.2]

theorem findEntry_upsertEntries_ne {key other : String} (f : Option α → α) (h : other ≠ key) :
    ∀ {l : List (String × α)}, findEntry other (upsertEntries key f l) = findEntry other l := by
  intro l
  induction l with
  | nil => simp [upsertEntries, findEntry, Ne.symm h]
  | cons hd tl ih =>
      obtain ⟨k, v⟩ := hd
      simp only [upsertEntries]
      split
      · simp [findEntry, Ne.symm h]
      · split
        · rename_i heq
          subst heq
          simp [findEntry, Ne.symm h]
        · simp [findEntry, ih]

theorem find?_upsert (c : Catalog α) (key other : String) (f : Option α → α) :
    (c.upsert key f).find? other =
      if other = key then some (f (c.find? key)) else c.find? other := by
  split
  · rename_i h
    subst h
    exact findEntry_upsertEntries_self other f c.sorted
  · rename_i h
    exact findEntry_upsertEntries_ne f h

end Catalog

abbrev NameSet := Catalog Unit

namespace NameSet

def ofList (names : List String) : NameSet :=
  Catalog.ofList (names.map (·, ()))

def toList (s : NameSet) : List String :=
  s.keys

end NameSet

end EntityGraph

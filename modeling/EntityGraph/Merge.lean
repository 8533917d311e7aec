import EntityGraph.Catalog

namespace EntityGraph.Merge

variable {α : Type}

structure Merged (α : Type) where
  items : List α
  places : Catalog Nat

def Merged.empty : Merged α := ⟨[], .empty⟩

def Merged.add (name : α → String) (combine : α → α → α) (m : Merged α) (item : α) : Merged α :=
  match m.places.find? (name item) with
  | some place => ⟨m.items.modify place (combine · item), m.places⟩
  | none => ⟨m.items ++ [item], m.places.insert (name item) m.items.length⟩

def run (name : α → String) (combine : α → α → α) (items : List α) : Merged α :=
  items.foldl (·.add name combine) .empty

def byName (name : α → String) (combine : α → α → α) (items : List α) : List α :=
  (run name combine items).items

def repeatsAfter (seen : List String) : List String → List String
  | [] => []
  | n :: ns =>
      if n ∈ seen then n :: repeatsAfter seen ns else repeatsAfter (n :: seen) ns

def repeats (names : List String) : List String :=
  repeatsAfter [] names

end EntityGraph.Merge

import EntityGraph.Graph
import EntityGraph.Text.Lowercase

namespace EntityGraph

class Searchable (α : Type) where
  name : α → String
  references : α → List String

instance : Searchable ComponentNode := ⟨(·.name), (·.usedBy)⟩

instance : Searchable SystemNode := ⟨(·.name), fun s => s.usesSystems ++ s.usedBy⟩

namespace Query

def holds (needle : List Char) (text : String) : Bool :=
  Text.occursIn needle (Text.lowercase text.toList)

def matchesAny (needle : List Char) (key : String) (references : List String) : Bool :=
  needle.isEmpty || holds needle key || references.any (holds needle)

def filterKeys {α : Type} [Searchable α] (c : Catalog α) (term : String) : List String :=
  (c.entries.filter fun e =>
    matchesAny (Text.lowercase term.toList) e.1 (Searchable.references e.2)).map (·.1)

def exactMatch {α : Type} [Searchable α] (c : Catalog α) (term : String) : Option α :=
  if term.isEmpty then none
  else
    c.values.find? fun e =>
      Text.lowercase (Searchable.name e).toList == Text.lowercase term.toList

end Query

end EntityGraph

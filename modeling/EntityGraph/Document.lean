import EntityGraph.Json.Printer
import EntityGraph.Json.Range
import EntityGraph.Json.Reader
import EntityGraph.Query

namespace EntityGraph

def Property.toJson (p : Property) : Json :=
  .ofMembers [("visibility", .ofString p.visibility), ("type", .ofString p.type),
    ("name", .ofString p.name)]

def Property.ofJson? (j : Json) : Option Property :=
  match j.asRecord? ["visibility", "type", "name"] with
  | some [visibility, type, name] => do
      some ⟨← visibility.asText?, ← type.asText?, ← name.asText?⟩
  | _ => none

def asTexts? (j : Json) : Option (List String) :=
  j.asList? Json.asText?

namespace ComponentNode

def toJson (c : ComponentNode) : Json :=
  .ofMembers [("name", .ofString c.name), ("properties", .array (c.properties.map Property.toJson)),
    ("used_in_system", .ofStrings c.usedBy)]

def ofJson? (j : Json) : Option ComponentNode :=
  match j.asRecord? ["name", "properties", "used_in_system"] with
  | some [name, properties, usedBy] => do
      some ⟨← name.asText?, ← properties.asList? Property.ofJson?, ← asTexts? usedBy⟩
  | _ => none

end ComponentNode

namespace SystemNode

def toJson (s : SystemNode) : Json :=
  .ofMembers [("name", .ofString s.name), ("componentTypes", .ofStrings s.componentTypes),
    ("uses_system", .ofStrings s.usesSystems), ("used_in_system", .ofStrings s.usedBy)]

def ofJson? (j : Json) : Option SystemNode :=
  match j.asRecord? ["name", "componentTypes", "uses_system", "used_in_system"] with
  | some [name, componentTypes, usesSystems, usedBy] => do
      some ⟨← name.asText?, ← asTexts? componentTypes, ← asTexts? usesSystems, ← asTexts? usedBy⟩
  | _ => none

end SystemNode

namespace Document

variable {α : Type}

def toJson (node : α → Json) (c : Catalog α) : Json :=
  .ofMembers (c.entries.map fun e => (e.1, node e.2))

def memberEntry (node : Json → Option α) (m : List Char × Json) : Option (String × α) :=
  match Json.string? m.1, node m.2 with
  | some key, some value => some (key, value)
  | _, _ => none

/-- Of members with one name, the last counts. -/
def ofJson? (node : Json → Option α) (j : Json) : Option (Catalog α) :=
  match j with
  | .object members =>
      (members.mapM (memberEntry node)).map Catalog.ofList
  | _ => none

def ofText? (node : Json → Option α) (text : String) : Option (Catalog α) :=
  (Json.read text.toList).bind (ofJson? node)

def parse? (text : String) : Option Json :=
  match Json.read text.toList with
  | some j => if j.isSound then some j else none
  | none => none

def references (entry : Json) (field : String) : List String :=
  match entry.member? field with
  | some (.array items) => items.filterMap Json.asText?
  | _ => []

def filter (document : Json) (term : String) : List String :=
  match document with
  | .object members =>
      let entries := Catalog.ofList (members.filterMap fun m => (Json.string? m.1).map (·, m.2))
      (entries.entries.filter fun e =>
        Query.matchesAny (Text.lowercase term.toList) e.1
          (references e.2 "uses_system" ++ references e.2 "used_in_system")).map (·.1)
  | _ => []

end Document

namespace Graph

def componentsText (g : Graph) : String :=
  (Document.toJson ComponentNode.toJson g.components).prettyText

def systemsText (g : Graph) : String :=
  (Document.toJson SystemNode.toJson g.systems).prettyText

end Graph

end EntityGraph

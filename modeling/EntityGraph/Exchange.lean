import EntityGraph.Declaration.Json
import EntityGraph.Document
import EntityGraph.IgnorePattern

namespace EntityGraph

namespace ComponentType

def toJson (c : ComponentType) : Json :=
  .ofMembers [("name", .ofString c.name), ("properties", .array (c.properties.map Property.toJson))]

def ofJson? (j : Json) : Option ComponentType :=
  match j.asRecord? ["name", "properties"] with
  | some [name, properties] => do
      some ⟨← name.asText?, ← properties.asList? Property.ofJson?⟩
  | _ => none

end ComponentType

namespace SystemType

def toJson (s : SystemType) : Json :=
  .ofMembers [("name", .ofString s.name), ("componentTypes", .ofStrings s.componentTypes),
    ("uses_system", .ofStrings s.usesSystems)]

def ofJson? (j : Json) : Option SystemType :=
  match j.asRecord? ["name", "componentTypes", "uses_system"] with
  | some [name, componentTypes, usesSystems] => do
      some ⟨← name.asText?, ← asTexts? componentTypes, ← asTexts? usesSystems⟩
  | _ => none

end SystemType

namespace Discovery

def toJson (d : Discovery) : Json :=
  .ofMembers [("systems", .array (d.systems.map SystemType.toJson)),
    ("skipped_debug_systems", .ofNat d.skippedDebugSystems),
    ("unresolved_references", .ofNat d.unresolved.length)]

end Discovery

namespace NameIndex

def toJson (index : NameIndex) : Json :=
  .ofMembers [("len", .ofNat index.names.size), ("is_empty", .bool index.isEmpty),
    ("names", .ofMembers (index.names.entries.map fun e => (e.1, .ofString e.2)))]

end NameIndex

namespace Backlinks

def linksToJson (links : Catalog (List String)) : Json :=
  .ofMembers (links.entries.map fun e => (e.1, .ofStrings e.2))

def toJson (b : Backlinks) : Json :=
  .ofMembers [("components", linksToJson b.components), ("systems", linksToJson b.systems)]

end Backlinks

namespace IgnorePattern

def toJson : IgnorePattern → Json
  | .directory name => .ofMembers [("directory", .ofString name)]
  | .suffix ending => .ofMembers [("suffix", .ofString ending)]
  | .substring part => .ofMembers [("substring", .ofString part)]

end IgnorePattern

namespace Graph

def toJson (g : Graph) : Json :=
  .ofMembers [("components", .ofString g.componentsText), ("systems", .ofString g.systemsText)]

end Graph

end EntityGraph

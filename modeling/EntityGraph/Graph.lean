import EntityGraph.Backlinks

namespace EntityGraph

structure ComponentNode where
  name : String
  properties : List Property
  usedBy : List String
  deriving DecidableEq, Repr

structure SystemNode where
  name : String
  componentTypes : List String
  usesSystems : List String
  usedBy : List String
  deriving DecidableEq, Repr

structure Graph where
  components : Catalog ComponentNode
  systems : Catalog SystemNode

namespace Graph

def componentNode (b : Backlinks) (c : ComponentType) : ComponentNode :=
  ⟨c.name, c.properties, b.componentUsers c.name⟩

def systemNode (b : Backlinks) (s : SystemType) : SystemNode :=
  ⟨s.name, s.componentTypes, s.usesSystems, b.systemUsers s.name⟩

/-- Of types with one name, the last counts. -/
def build (components : List ComponentType) (systems : List SystemType) (b : Backlinks) : Graph where
  components := Catalog.ofList (components.map fun c => (c.name, componentNode b c))
  systems := Catalog.ofList (systems.map fun s => (s.name, systemNode b s))

end Graph

end EntityGraph

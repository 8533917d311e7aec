import EntityGraph.Merge
import EntityGraph.NameIndex
/-!
Component types. A full name is a component if any declaration that carries it has the component
marker; all declarations of the name then give their fields, in scan order.
-/

namespace EntityGraph

def markedNames (files : List ScannedFile) (m : Marker) : List String :=
  ((corpus files).filter (·.implements m)).map (·.fullName)

structure ComponentType where
  name : String
  properties : List Property
  deriving DecidableEq, Repr

namespace ComponentType

def ofDeclaration (d : Declaration) : ComponentType :=
  ⟨d.fullName, d.allFields.map FieldStatement.toProperty⟩

def combine (c part : ComponentType) : ComponentType :=
  { c with properties := c.properties ++ part.properties }

def parts (files : List ScannedFile) : List ComponentType :=
  let marked := markedNames files .component
  ((corpus files).filter (·.fullName ∈ marked)).map ofDeclaration

def extract (files : List ScannedFile) : List ComponentType :=
  Merge.byName (·.name) combine (parts files)

end ComponentType

end EntityGraph

import EntityGraph.Declaration
import EntityGraph.Text.Blank

namespace EntityGraph

namespace TypeName

def short (text : List Char) : List Char :=
  let bare := (Text.trim text).takeWhile (· ≠ '<')
  let unaliased := (Text.afterLast [':', ':'] bare).getD bare
  Text.trim ((Text.afterLast ['.'] unaliased).getD unaliased)

end TypeName

def shortTypeName (text : String) : String :=
  String.ofList (TypeName.short text.toList)

inductive Marker where
  | component
  | system
  deriving DecidableEq, Repr

def Marker.name : Marker → String
  | .component => "IComponentData"
  | .system => "GameSystemBase"

def Declaration.implements (d : Declaration) (m : Marker) : Bool :=
  d.baseTypes.toList.any (shortTypeName · = m.name)

end EntityGraph

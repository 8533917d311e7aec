import EntityGraph.Declaration
import EntityGraph.Text.Utf8
/-!
Syntax trees of source text. A node covers a range of bytes and names neither its text nor its
parent; kinds that no analysis asks for are all `other`.
-/

namespace EntityGraph

inductive NodeKind where
  | unit
  | namespaceBlock
  | namespaceLine
  | classDeclaration
  | structDeclaration
  | interfaceDeclaration
  | recordDeclaration
  | recordStructDeclaration
  | declarationList
  | preprocessor
  | error
  | baseList
  | argumentList
  | comment
  | modifier
  | fieldDeclaration
  | methodDeclaration
  | variableDeclaration
  | variableDeclarator
  | genericName
  | qualifiedName
  | typeArgumentList
  | parameterList
  | identifier
  | memberAccess
  | invocation
  | other
  deriving DecidableEq, Repr

namespace NodeKind

def declarationKind? : NodeKind → Option DeclarationKind
  | classDeclaration => some .classType
  | structDeclaration => some .structType
  | interfaceDeclaration => some .interfaceType
  | recordDeclaration | recordStructDeclaration => some .recordType
  | _ => none

/-- A node of such a kind wraps declarations without opening a scope. -/
def isTransparent : NodeKind → Bool
  | error | declarationList | preprocessor => true
  | _ => false

def ofGrammarName : String → NodeKind
  | "class_declaration" => classDeclaration
  | "struct_declaration" => structDeclaration
  | "interface_declaration" => interfaceDeclaration
  | "record_declaration" => recordDeclaration
  | "record_struct_declaration" => recordStructDeclaration
  | _ => other

end NodeKind

inductive NodeRole where
  | name
  | type
  | function
  | body
  deriving DecidableEq, Repr

structure Node where
  kind : NodeKind
  role : Option NodeRole
  start : Nat
  stop : Nat
  children : List Node

namespace Node

def childOfKind? (n : Node) (k : NodeKind) : Option Node :=
  n.children.find? (·.kind = k)

def childInRole? (n : Node) (r : NodeRole) : Option Node :=
  n.children.find? (·.role = some r)

def nameNode? (n : Node) : Option Node :=
  (n.childInRole? .name).or (n.childOfKind? .identifier)

def isBodyOf (n c : Node) : Bool :=
  c.kind = .declarationList &&
    (c.role = some .body || !(n.childInRole? .body).any (·.kind = .declarationList))

/-- The bytes of the node's range, as text: nothing if the range does not lie in the source. -/
def text (source : Array UInt8) (n : Node) : String :=
  if n.start < source.size ∧ n.stop ≤ source.size then
    Utf8.toStringLossy (source.extract n.start n.stop).toList
  else ""

end Node

end EntityGraph

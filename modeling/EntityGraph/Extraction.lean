import EntityGraph.Syntax
import EntityGraph.Text.Blank
/-!
The declarations of a syntax tree. Namespaces compose, nested types are named through the types
around them, and a method is reduced to its calls. The texts come from `source`, which need not be
the text that the tree was made of.
-/

namespace EntityGraph.Extraction

def namespaceName? (n : Node) : Option Node :=
  (n.childInRole? .name).or
    (n.children.find? fun c => c.kind = .qualifiedName ∨ c.kind = .identifier)

def segments (source : Array UInt8) (n : Node) : List String :=
  match namespaceName? n with
  | none => []
  | some name =>
      (((Text.splitOn '.' (name.text source).toList).map Text.trim).filter (!·.isEmpty)).map
        String.ofList

def modifiers (source : Array UInt8) (n : Node) : List String :=
  (n.children.filter (·.kind = .modifier)).map (·.text source)

def baseTypes (source : Array UInt8) (n : Node) : List String :=
  match n.childOfKind? .baseList with
  | none => []
  | some list =>
      ((list.children.filter fun c => c.kind ≠ .argumentList ∧ c.kind ≠ .comment).map
        (·.text source)).filter (!·.isEmpty)

def typeArguments (source : Array UInt8) (n : Node) : List String :=
  match n.childOfKind? .typeArgumentList with
  | none => []
  | some list => (list.children.filter (·.kind ≠ .comment)).map (·.text source)

def genericParts? (source : Array UInt8) (n : Node) : Option (String × List String) :=
  if n.kind = .genericName then
    n.nameNode?.map fun name => (name.text source, typeArguments source n)
  else none

def typeSyntax (source : Array UInt8) (n : Node) : TypeSyntax :=
  match genericParts? source n with
  | some (name, arguments) => .generic name arguments
  | none => .plain (n.text source)

def variableNames (source : Array UInt8) (n : Node) : List String :=
  (n.children.filter (·.kind = .variableDeclarator)).filterMap fun d =>
    d.nameNode?.map (·.text source)

def declaredType? (n : Node) : Option Node :=
  (n.childInRole? .type).or
    (n.children.find? fun c => c.kind ≠ .variableDeclarator ∧ c.kind ≠ .comment)

def field? (source : Array UInt8) (n : Node) : Option FieldStatement :=
  (n.childOfKind? .variableDeclaration).map fun d =>
    let (typeText, type) :=
      match declaredType? d with
      | some t => (t.text source, typeSyntax source t)
      | none => ("", .plain "")
    { modifiers := Text.join " " (modifiers source n)
      typeText, type
      names := variableNames source d
      start := n.start }

def calledNode? (call : Node) : Option Node :=
  (call.childInRole? .function).or call.children.head?

def memberNode? (access : Node) : Option Node :=
  (access.childInRole? .name).or
    (access.children.filter fun c => c.kind = .identifier ∨ c.kind = .genericName).getLast?

def target? (source : Array UInt8) (call : Node) : Option Invocation := do
  let function ← calledNode? call
  let member ←
    match function.kind with
    | .memberAccess => memberNode? function
    | .genericName | .identifier => some function
    | _ => none
  match member.kind with
  | .genericName => (genericParts? source member).map fun p => ⟨p.1, p.2⟩
  | .identifier => some ⟨member.text source, []⟩
  | _ => none

mutual

def calls (source : Array UInt8) : Node → List Invocation
  | n@⟨kind, _, _, _, children⟩ =>
      (if kind = .invocation then (target? source n).toList else []) ++ callsAll source children

def callsAll (source : Array UInt8) : List Node → List Invocation
  | [] => []
  | n :: ns => calls source n ++ callsAll source ns

end

structure Members where
  fields : List FieldStatement
  nested : List Declaration
  methods : List (String × MethodBody)

namespace Members

def empty : Members := ⟨[], [], []⟩

def append (a b : Members) : Members :=
  ⟨a.fields ++ b.fields, a.nested ++ b.nested, a.methods ++ b.methods⟩

end Members

def methodNameNode? (n : Node) : Option Node :=
  (n.childInRole? .name).or <|
    (n.children.findIdx? (·.kind = .parameterList)).bind fun i =>
      ((n.children.take i).filter (·.kind = .identifier)).getLast?

def method? (source : Array UInt8) (n : Node) : Option (String × MethodBody) :=
  (methodNameNode? n).map fun name => (name.text source, ⟨calls source n⟩)

def declared? (source : Array UInt8) (n : Node) : Option (DeclarationKind × String) :=
  match n.kind.declarationKind?, n.nameNode?.map (·.text source) with
  | some kind, some shortName => if shortName.isEmpty then none else some (kind, shortName)
  | _, _ => none

def assemble (source : Array UInt8) (n : Node) (kind : DeclarationKind) (qualified : List String)
    (shortName : String) (m : Members) : Declaration where
  fullName := Text.join "." qualified
  shortName := shortName
  kind := kind
  baseTypes := NameSet.ofList (baseTypes source n)
  fields := m.fields
  nested := m.nested
  methods := Catalog.ofListFirst m.methods

mutual

def members (source : Array UInt8) (qualified : List String) : List Node → Members
  | [] => .empty
  | n@⟨kind, _, _, _, children⟩ :: rest =>
      let here : Members :=
        if kind = .fieldDeclaration then ⟨(field? source n).toList, [], []⟩
        else if kind = .methodDeclaration then ⟨[], [], (method? source n).toList⟩
        else if kind.isTransparent then members source qualified children
        else
          match declared? source n with
          | none => .empty
          | some (declared, shortName) =>
              let inner := qualified ++ [shortName]
              ⟨[], [assemble source n declared inner shortName
                (bodyMembers source inner n.isBodyOf children)], []⟩
      here.append (members source qualified rest)

def bodyMembers (source : Array UInt8) (qualified : List String) (isBody : Node → Bool) :
    List Node → Members
  | [] => .empty
  | n@⟨_, _, _, _, children⟩ :: rest =>
      if isBody n then members source qualified children
      else bodyMembers source qualified isBody rest

end

def declaration? (source : Array UInt8) (above : List String) (n : Node) : Option Declaration :=
  (declared? source n).map fun (kind, shortName) =>
    let qualified := above ++ [shortName]
    assemble source n kind qualified shortName
      (bodyMembers source qualified n.isBodyOf n.children)

/-- The scope that holds after a node: a namespace line puts its segments below the outer scope, and
whatever line came before it is forgotten. -/
def scopeAfter (source : Array UInt8) (outer scope : List String) (n : Node) : List String :=
  if n.kind = .namespaceLine then outer ++ segments source n else scope

mutual

def inScope (source : Array UInt8) (outer scope : List String) : Node → List Declaration
  | n@⟨kind, _, _, _, children⟩ =>
      if kind = .namespaceBlock then
        inBody source (scope ++ segments source n) n.isBodyOf children
      else if kind = .namespaceLine then
        inScopeAll source (outer ++ segments source n) (outer ++ segments source n) children
      else if kind.declarationKind?.isSome then (declaration? source scope n).toList
      else if kind.isTransparent then inScopeAll source scope scope children
      else []

def inBody (source : Array UInt8) (scope : List String) (isBody : Node → Bool) :
    List Node → List Declaration
  | [] => []
  | n@⟨_, _, _, _, children⟩ :: rest =>
      if isBody n then inScopeAll source scope scope children
      else inBody source scope isBody rest

def inScopeAll (source : Array UInt8) (outer scope : List String) : List Node → List Declaration
  | [] => []
  | n :: ns =>
      inScope source outer scope n ++ inScopeAll source outer (scopeAfter source outer scope n) ns

end

end EntityGraph.Extraction

namespace EntityGraph

def Node.declarations (source : Array UInt8) (root : Node) : List Declaration :=
  Extraction.inScopeAll source [] [] root.children

end EntityGraph

import EntityGraph.CSharp.Grammar.Expression

namespace EntityGraph.CSharp.Grammar

variable (self : Grammar)

def designation : Parser Node := do
  guarded (!(← sees fun t => t.isWord "and" || t.isWord "or" || t.isWord "when"))
  identifier

def designations : Nat → Parser Node
  | 0 => failure
  | fuel + 1 =>
      group do
        symbol "("
        let names ← sepBy (identifier <|> designations fuel) ","
        symbol ")"
        return names

def varPattern : Parser Node :=
  group do
    word "var"
    let names ← identifier <|> designations (← remaining)
    return [names]

def subpattern : Parser Node :=
  group do
    let path ← optional do
      let first ← identifier
      let others ← many (do symbol "."; identifier)
      symbol ":"
      return first :: others
    return path.getD [] ++ [← self .pattern]

def propertyClause : Parser Node :=
  group do
    symbol openBrace
    let parts ← many do
      let p ← subpattern self
      if ← tookSymbol "," then pure () else guarded (← seesSymbol closeBrace)
      return p
    symbol closeBrace
    return parts

def positionalClause : Parser Node :=
  group do
    symbol "("
    let parts ← sepBy (subpattern self) ","
    symbol ")"
    return parts

def listPattern : Parser Node :=
  group do
    symbol "["
    let parts ← many do
      let p ← self .pattern
      if ← tookSymbol "," then pure () else guarded (← seesSymbol "]")
      return p
    symbol "]"
    let name ← optional designation
    return parts ++ name.toList

def slicePattern : Parser Node :=
  group do
    symbol ".."
    let inner ← optional (self .pattern)
    return inner.toList

def relationalPattern : Parser Node :=
  group do
    match operatorAt (← tokens) with
    | some (operator, n) =>
        guarded (["<", "<=", ">", ">="].contains operator)
        advanceBy n
        return [← self (.expression Level.shift false)]
    | none => failure

def constantPattern : Parser Node := self (.expression Level.shift false)

/-- Whether a pattern may end before the token; an operand or an operator would make it part of a
constant expression. -/
def mayFollowPattern (t : Token) : Bool :=
  match t.kind with
  | .literal | .stringOpen => false
  | .word => connectiveWords.contains t.text
  | .symbol => !(["+", "-", "*", "/", "%", "<<", ".", "(", "[", "!"].contains t.text)
  | _ => true

def patternEnds : Parser Unit := do
  match ← peek? with
  | some t => guarded (mayFollowPattern t)
  | none => pure ()

def typePattern : Parser Node :=
  group do
    guarded (!(← seesWord "nameof"))
    let type ← self (.type true)
    let positional ← optional (positionalClause self)
    let properties ← optional (propertyClause self)
    let name ← optional designation
    patternEnds
    return type :: positional.toList ++ properties.toList ++ name.toList

def memberPattern : Parser Node :=
  group do
    let positional ← optional (positionalClause self)
    let properties ← optional (propertyClause self)
    guarded (positional.isSome || properties.isSome)
    let name ← optional designation
    patternEnds
    return positional.toList ++ properties.toList ++ name.toList

def plainPattern : Parser Node := do
  match ← peek? with
  | none => failure
  | some t =>
      if t.isSymbol "[" then listPattern self
      else if t.isSymbol ".." then slicePattern self
      else if t.isSymbol "<" || t.isSymbol "<=" || t.isSymbol ">" then relationalPattern self
      else if t.isSymbol "(" || t.isSymbol openBrace then
        memberPattern self <|> typePattern self <|> constantPattern self
      else if t.isWord "var" then varPattern <|> typePattern self
      else if t.kind = .word then typePattern self <|> constantPattern self
      else constantPattern self

def notPattern : Parser Node := do
  let start ← startOfNext
  let negations ← many (word "not")
  let inner ← plainPattern self
  if negations.isEmpty then return inner else close .other start [inner]

def joinedPattern (connective : String) (part : Parser Node) : Parser Node := do
  let start ← startOfNext
  let first ← part
  let others ← many (do word connective; part)
  if others.isEmpty then return first else close .other start (first :: others)

def pattern : Parser Node :=
  joinedPattern "or" (joinedPattern "and" (notPattern self))

end EntityGraph.CSharp.Grammar

import EntityGraph.CSharp.Grammar.Type

namespace EntityGraph.CSharp.Grammar

variable (self : Grammar)

namespace Level

def assignment : Nat := 1
def conditional : Nat := 2
def coalescing : Nat := 3
def shift : Nat := 11
def relational : Nat := 10
def «with» : Nat := 14
def «switch» : Nat := 15
def range : Nat := 16
def unary : Nat := 17

end Level

def binaryLevels : List (String × Nat) :=
  [("*", 13), ("/", 13), ("%", 13), ("+", 12), ("-", 12), ("<<", 11), (">>", 11), (">>>", 11),
   ("<", 10), (">", 10), ("<=", 10), (">=", 10), ("==", 9), ("!=", 9), ("&", 8), ("^", 7), ("|", 6),
   ("&&", 5), ("||", 4), ("??", 3)]

def assignmentSymbols : List String :=
  ["=", "+=", "-=", "*=", "/=", "%=", "&=", "|=", "^=", "<<=", ">>=", ">>>=", "??="]

def touching : Nat → List String → List Token → Nat
  | _, [], _ => 0
  | _, _, [] => 0
  | stop, s :: ss, t :: ts =>
      if t.start = stop && t.isSymbol s then 1 + touching t.stop ss ts else 0

def operatorAt : List Token → Option (String × Nat)
  | [] => none
  | t :: rest =>
      if t.kind ≠ .symbol then none
      else if t.text = ">" then
        let joins (ss : List String) : Bool := touching t.stop ss rest = ss.length
        if joins [">", ">", "="] then some (">>>=", 4)
        else if joins [">", ">"] then some (">>>", 3)
        else if joins [">", "="] then some (">>=", 3)
        else if joins [">"] then some (">>", 2)
        else if joins ["="] then some (">=", 2)
        else some (">", 1)
      else some (t.text, 1)

def advanceBy : Nat → Parser Unit
  | 0 => pure ()
  | n + 1 => do
      let _ ← advance
      advanceBy n

def expression : Parser Node := self (.expression 0 true)

/-- An operand. Where an arrow ends the whole expression, it contains no lambda. -/
def operand (lambdas : Bool) : Parser Node := self (.expression Level.unary lambdas)

/-- What may follow a generic name in an expression; after anything else the bracket compares. -/
def mayFollowGeneric (t : Token) : Bool :=
  match t.kind with
  | .symbol =>
      ["(", ")", "]", closeBrace, openBrace, ":", ";", ",", ".", "?", "==", "!=", "|", "^", "&&", "||", "&", "[",
        "=>", ">", "??", "!", "="].contains t.text
  | .word => ["is", "as", "switch", "with", "and", "or", "when", "in"].contains t.text
  | .holeClose | .holeFormat | .directive => true
  | _ => false

def expressionName : Parser Node := do
  let start ← startOfNext
  let name ← identifier
  if ← seesSymbol "<" then
    let arguments ← optional do
      let list ← typeArgumentList self
      match ← peek? with
      | some t => guarded (mayFollowGeneric t)
      | none => pure ()
      return list
    match arguments with
    | some list => close .genericName start [{ name with role := some .name }, list]
    | none => return name
  else return name

def declarationExpression : Parser Node :=
  group do
    guarded (!(← seesWord "await"))
    let type ← self (.type false)
    let name ← identifier
    guarded (← sees fun t => t.isSymbol "," || t.isSymbol ")" || t.isSymbol "]")
    return [type, name]

def argument : Parser Node :=
  group do
    let name ← optional do
      let n ← identifier
      symbol ":"
      return n
    let _ ← optional (word "ref" <|> word "out" <|> word "in")
    let value ← declarationExpression self <|> expression self
    return name.toList ++ [value]

def argumentList : Parser Node :=
  node .argumentList do
    symbol "("
    let arguments ← sepBy (argument self) ","
    closing ")"
    return arguments

def bracketedArguments : Parser Node :=
  node .argumentList do
    symbol "["
    let arguments ← sepBy (argument self) ","
    closing "]"
    return arguments

def initializer : Parser Node :=
  group do
    symbol openBrace
    let elements ← many do
      let element ← if ← seesSymbol openBrace then self .initializer else expression self
      if ← tookSymbol "," then pure () else guarded (← seesSymbol closeBrace)
      return element
    symbol closeBrace
    return elements

def optionalInitializer : Parser (List Node) := do
  if ← seesSymbol openBrace then return [← self .initializer] else return []

def sizes : Parser Node :=
  group do
    symbol "["
    let _ ← many (symbol ",")
    let given ← sepBy (expression self) ","
    symbol "]"
    return given

def arrayRest : Parser (List Node) := do
  let ranks ← many (sizes self)
  guarded (!ranks.isEmpty)
  return ranks ++ (← optionalInitializer self)

def creation : Parser Node :=
  group do
    word "new"
    if ← seesSymbol openBrace then return [← self .initializer]
    else if ← seesSymbol "[" then arrayRest self
    else
      let implicit ← optional do
        guarded (← seesSymbol "(")
        let arguments ← argumentList self
        guarded (!(← sees fun t => t.isSymbol "(" || t.isSymbol "["))
        return arguments :: (← optionalInitializer self)
      match implicit with
      | some parts => return parts
      | none =>
          let type ← suffixedType self false false
          if ← seesSymbol "[" then return type :: (← arrayRest self)
          else if ← seesSymbol "(" then
            let arguments ← argumentList self
            return type :: arguments :: (← optionalInitializer self)
          else if ← seesSymbol openBrace then return [type, ← self .initializer]
          else failure

def stackArray : Parser Node :=
  group do
    word "stackalloc"
    if ← seesSymbol "[" then arrayRest self
    else
      let type ← suffixedType self false false
      if ← seesSymbol "[" then return type :: (← arrayRest self) else return [type]

def ofType (keyword : String) : Parser Node :=
  group do
    word keyword
    symbol "("
    let type ← self (.type false)
    symbol ")"
    return [type]

def ofExpression (keyword : String) : Parser Node :=
  group do
    word keyword
    symbol "("
    let value ← expression self
    closing ")"
    return [value]

def defaultValue : Parser Node :=
  group do
    word "default"
    if ← seesSymbol "(" then
      symbol "("
      let type ← self (.type false)
      symbol ")"
      return [type]
    else return []

def valueOfReference : Parser Node :=
  group do
    word "__refvalue"
    symbol "("
    let value ← expression self
    symbol ","
    let type ← self (.type false)
    symbol ")"
    return [value, type]

def hole : Parser Node :=
  group do
    ofKind .holeOpen
    let value ← expression self
    let width ← if ← tookSymbol "," then (fun n => [n]) <$> expression self else pure []
    let _ ← optional (ofKind .holeFormat)
    ofKind .holeClose
    return value :: width

def holedString : Parser Node :=
  group do
    ofKind .stringOpen
    let holes ← many (hole self)
    ofKind .stringClose
    return holes

def lambdaParametersAhead (ts : List Token) : Bool :=
  match afterClosing 0 ts with
  | some (t :: _) => t.isSymbol "=>"
  | _ => false

def lambdaBody : Parser Node := do
  if ← seesSymbol openBrace then self .block else expression self

def lambdaModifiers : Parser Unit := do
  let _ ← many (word "async" <|> word "static")

def lambdaParameters : Parser (List Node) := do
  if ← seesSymbol "(" then
    (do
      symbol "("
      let names ← sepBy identifier ","
      symbol ")"
      return names) <|> (do return [← self .parameters])
  else return [← identifier]

def lambda : Parser Node :=
  group do
    let attributes ← many (self .attributes)
    lambdaModifiers
    let returned ← optional do
      let type ← self (.type false)
      guarded (lambdaParametersAhead (← tokens))
      guarded (← seesSymbol "(")
      return type
    let parameters ← lambdaParameters self
    symbol "=>"
    let body ← lambdaBody self
    return attributes ++ returned.toList ++ parameters ++ [body]

def anonymousMethod : Parser Node :=
  group do
    lambdaModifiers
    word "delegate"
    let parameters ← if ← seesSymbol "(" then (fun n => [n]) <$> self .parameters else pure []
    let body ← self .block
    return parameters ++ [body]

def namedLambdaAhead (ts : List Token) : Bool :=
  match ts with
  | t :: u :: rest =>
      if t.isIdentifier && u.isSymbol "=>" then true
      else if t.isWord "async" || t.isWord "static" then
        u.isSymbol "(" && lambdaParametersAhead (u :: rest)
          || u.kind = .word && (rest.head?.any fun v => v.isSymbol "=>" || v.isSymbol "(")
          || u.isWord "delegate"
      else false
  | _ => false

def typedLambdaAhead : Parser Bool := fun s =>
  let p : Parser Unit := do
    lambdaModifiers
    let _ ← self (.type true)
    guarded (← seesSymbol "(")
    guarded (lambdaParametersAhead (← tokens))
  some ((p s).isSome, s)

def isCertainType (ts : List Token) (node : Node) : Bool :=
  match ts with
  | t :: _ => t.isPredefinedType || node.kind = .genericName
  | [] => false

def castOperandFollows (certain : Bool) (t : Token) : Bool :=
  match t.kind with
  | .literal | .stringOpen => true
  | .word => certain && !(["is", "as", "switch", "with"].contains t.text) ||
      !connectiveWords.contains t.text
  | .symbol =>
      ["(", "!", "~"].contains t.text ||
        certain && ["+", "-", "&", "*", "++", "--", "^", ".."].contains t.text
  | _ => false

def cast (lambdas : Bool) : Parser Node :=
  group do
    symbol "("
    let before ← tokens
    let type ← self (.type false)
    symbol ")"
    let certain := isCertainType before type
    match ← peek? with
    | some t => guarded (castOperandFollows certain t)
    | none => failure
    let value ← operand self lambdas
    return [type, value]

def parenthesized : Parser Node :=
  group do
    symbol "("
    let elements ← sepBy1 (argument self) ","
    closing ")"
    return elements

def element : Parser Node := expression self

def collection : Parser Node :=
  group do
    symbol "["
    let elements ← many do
      let e ← element self
      if ← tookSymbol "," then pure () else guarded (← seesSymbol "]")
      return e
    symbol "]"
    return elements

def conditionalExpression : Parser Node :=
  conditional (do
    let value ← optional (expression self)
    return value.toList)

def orderClause : Parser (List Node) := do
  word "orderby"
  sepBy1 (do
    let key ← expression self
    let _ ← optional (word "ascending" <|> word "descending")
    return key) ","

def rangeVariable : Parser (List Node) :=
  (do
    let name ← identifier
    word "in"
    return [name]) <|> (do
    let type ← self (.type false)
    let name ← identifier
    word "in"
    return [type, name])

def fromClause : Parser (List Node) := do
  word "from"
  let variable_ ← rangeVariable self
  return variable_ ++ [← expression self]

def letClause : Parser (List Node) := do
  word "let"
  let name ← identifier
  symbol "="
  return [name, ← expression self]

def whereClause : Parser (List Node) := do
  word "where"
  return [← expression self]

def intoClause : Parser (List Node) := do
  word "into"
  return [← identifier]

def joinClause : Parser (List Node) := do
  word "join"
  let variable_ ← rangeVariable self
  let source ← expression self
  word "on"
  let left ← expression self
  word "equals"
  let right ← expression self
  let into ← optional (intoClause)
  return variable_ ++ [source, left, right] ++ (into.getD [])

def selectClause : Parser (List Node) := do
  word "select"
  return [← expression self]

def groupClause : Parser (List Node) := do
  word "group"
  let value ← expression self
  word "by"
  return [value, ← expression self]

def queryClause : Parser (List Node) :=
  fromClause self <|> letClause self <|> whereClause self <|> joinClause self <|> orderClause self
    <|> selectClause self <|> groupClause self <|> intoClause

def query : Parser Node :=
  group do
    let first ← fromClause self
    let clauses ← many (queryClause self)
    guarded (!clauses.isEmpty)
    return first ++ clauses.flatten

def queryAhead (ts : List Token) : Bool :=
  match ts with
  | t :: u :: v :: _ => t.isWord "from" && u.kind = .word && (v.isWord "in" || v.kind = .word ||
      v.isSymbol "." || v.isSymbol "<" || v.isSymbol "?" || v.isSymbol "[")
  | _ => false

def wordOperand (lambdas : Bool) (t : Token) : Parser Node := do
  match t.text with
  | "null" | "true" | "false" | "this" | "base" => leaf .other (do let _ ← advance)
  | "new" => creation self
  | "stackalloc" => stackArray self
  | "typeof" => ofType self "typeof"
  | "sizeof" => ofType self "sizeof"
  | "default" => defaultValue self
  | "checked" => ofExpression self "checked"
  | "unchecked" => ofExpression self "unchecked"
  | "delegate" => anonymousMethod self
  | "__makeref" => ofExpression self "__makeref"
  | "__reftype" => ofExpression self "__reftype"
  | "__refvalue" => valueOfReference self
  | "throw" => group (do word "throw"; return [← self (.expression 0 lambdas)])
  | "ref" => group (do word "ref"; return [← self (.expression Level.assignment lambdas)])
  | "await" => group (do word "await"; return [← operand self lambdas])
  | _ =>
      if t.isPredefinedType && reservedWords.contains t.text then leaf .other (do let _ ← advance)
      else
        let start ← startOfNext
        let name ← expressionName self
        if ← tookSymbol "::" then
          let member ← expressionName self
          close .other start [name, member]
        else return name

def attributedLambdaAhead : Parser Bool := fun s =>
  let p : Parser Unit := do
    let _ ← many (self .attributes)
    let ts ← tokens
    guarded (!(← seesSymbol "[") &&
      (namedLambdaAhead ts || (← seesSymbol "(") && lambdaParametersAhead ts ||
        (← typedLambdaAhead self)))
  some ((p s).isSome, s)

def prefixOperators : List String := ["+", "-", "!", "~", "++", "--", "&", "*", "^", ".."]

def primary (lambdas : Bool) : Parser Node := do
  let ts ← tokens
  match ts with
  | [] => failure
  | t :: _ =>
      match t.kind with
      | .literal => leaf .other (do let _ ← advance)
      | .stringOpen => holedString self
      | .directive => conditionalExpression self
      | .word =>
          if lambdas && namedLambdaAhead ts then lambda self <|> anonymousMethod self
          else if lambdas && (← typedLambdaAhead self) then lambda self
          else if queryAhead ts then query self <|> wordOperand self lambdas t
          else wordOperand self lambdas t
      | .symbol =>
          if t.text = "(" then
            if lambdas && lambdaParametersAhead ts then lambda self
            else cast self lambdas <|> parenthesized self
          else if t.text = "[" then
            if lambdas && (← attributedLambdaAhead self) then lambda self else collection self
          else if t.text = ".." then
            group do
              symbol ".."
              match ← optional (self (.expression (Level.range + 1) lambdas)) with
              | some bound => return [bound]
              | none => return []
          else if prefixOperators.contains t.text then
            group do
              let _ ← advance
              return [← operand self lambdas]
          else failure
      | _ => failure

def switchArm : Parser Node :=
  group do
    let pattern ← self .pattern
    let guard ← if ← tookWord "when" then (fun n => [n]) <$> self (.expression 0 false) else pure []
    symbol "=>"
    let value ← expression self
    if ← tookSymbol "," then pure () else guarded (← seesSymbol closeBrace)
    return pattern :: guard ++ [value]

def accessBracketFollows (ts : List Token) : Bool :=
  match ts with
  | q :: b :: _ => b.isSymbol "[" && q.stop = b.start
  | _ => false

def around (kind : NodeKind) (left : Node) (others : List Node) : Parser Node :=
  close kind left.start (left :: others)

def symbolRest (level : Nat) (lambdas : Bool) (left : Node) (text : String) : Parser Node := do
  let ts ← tokens
  if text = "." || text = "->" then
    let _ ← advance
    let name ← (expressionName self) <|> memberName
    around .memberAccess left [{ name with role := some .name }]
  else if text = "(" then
    let arguments ← argumentList self
    around .invocation { left with role := some .function } [arguments]
  else if text = "[" then
    let arguments ← bracketedArguments self
    around .other left [arguments]
  else if text = "++" || text = "--" || text = "!" then
    let _ ← advance
    around .other left []
  else if text = ".." then
    guarded (level ≤ Level.range)
    let _ ← advance
    let bound ← optional (self (.expression (Level.range + 1) lambdas))
    around .other left bound.toList
  else if text = "?" then
    guarded (level ≤ Level.conditional)
    match ts.tail.head? with
    | none => failure
    | some next =>
        if next.isSymbol "." then
          let _ ← advance
          let _ ← advance
          let name ← (expressionName self) <|> memberName
          around .other left [name]
        else if accessBracketFollows ts then
          let _ ← advance
          let arguments ← bracketedArguments self
          around .other left [arguments]
        else
          let _ ← advance
          let chosen ← expression self
          symbol ":"
          let otherwise ← self (.expression Level.assignment lambdas)
          around .other left [chosen, otherwise]
  else
    match operatorAt ts with
    | none => failure
    | some (operator, n) =>
        if assignmentSymbols.contains operator then
          guarded (level ≤ Level.assignment)
          advanceBy n
          let value ← if ← seesSymbol openBrace then self .initializer
            else self (.expression Level.assignment lambdas)
          around .other left [value]
        else
          match binaryLevels.find? (·.1 = operator) with
          | none => failure
          | some (_, tightness) =>
              guarded (level ≤ tightness)
              advanceBy n
              let right ← self (.expression
                (if operator = "??" then Level.coalescing else tightness + 1) lambdas)
              around .other left [right]

def wordRest (level : Nat) (left : Node) (text : String) : Parser Node := do
  match text with
  | "is" =>
      guarded (level ≤ Level.relational)
      let _ ← advance
      around .other left [← self .pattern]
  | "as" =>
      guarded (level ≤ Level.relational)
      let _ ← advance
      around .other left [← self (.type true)]
  | "switch" =>
      guarded (level ≤ Level.switch)
      let _ ← advance
      symbol openBrace
      let arms ← many (switchArm self)
      symbol closeBrace
      around .other left arms
  | "with" =>
      guarded (level ≤ Level.with)
      guarded ((← ahead? 1).any (·.isSymbol openBrace))
      let _ ← advance
      around .other left [← self .initializer]
  | _ => failure

def extendOnce (level : Nat) (lambdas : Bool) (left : Node) : Parser Node := do
  match ← peek? with
  | none => failure
  | some t =>
      match t.kind with
      | .symbol => symbolRest self level lambdas left t.text
      | .word => wordRest self level left t.text
      | _ => failure

def extendWithin (level : Nat) (lambdas : Bool) : Nat → Node → Parser Node
  | 0, left => pure left
  | fuel + 1, left => do
      match ← optional (extendOnce self level lambdas left) with
      | none => return left
      | some more => extendWithin level lambdas fuel more

def expressionAt (level : Nat) (lambdas : Bool) : Parser Node := do
  let left ← primary self lambdas
  extendWithin self level lambdas (← remaining) left

end EntityGraph.CSharp.Grammar

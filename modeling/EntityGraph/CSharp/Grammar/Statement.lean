import EntityGraph.CSharp.Grammar.Pattern

namespace EntityGraph.CSharp.Grammar

variable (self : Grammar)

def statement : Parser Node := self .statement

def inParentheses (p : Parser Node) : Parser Node := do
  symbol "("
  let n ← p
  closing ")"
  return n

def statementOrRepair : Parser Node := fun s =>
  match self .statement s with
  | some r => some r
  | none =>
      match self .statement { s with lenient := true } with
      | some (n, s') => some (n, { s' with lenient := s.lenient })
      | none => none

def endsRun (t : Token) : Bool :=
  t.isSymbol closeBrace || t.isDirective "elif" || t.isDirective "else" || t.isDirective "endif"

def statements : Parser (List Node) :=
  many do
    guarded (!(← sees endsRun))
    statementOrRepair self <|> skipToken

def block : Parser Node :=
  group do
    guarded (closesBrace 0 (← tokens))
    symbol openBrace
    let inner ← statements self
    symbol closeBrace
    return inner

def declarator : Parser Node :=
  node .variableDeclarator do
    let name ← identifier <|> designations (← remaining)
    let sizes ← optional (bracketedArguments self)
    let value ← if ← tookSymbol "=" then
        (fun n => [n]) <$> (if (← seesSymbol openBrace) then self .initializer else expression self)
      else pure []
    return (if name.kind = .identifier then { name with role := some .name } else name) ::
      sizes.toList ++ value

def variableDeclaration : Parser Node :=
  node .variableDeclaration do
    let type ← self (.type false)
    let declarators ← sepBy1 (declarator self) ","
    return { type with role := some .type } :: declarators

def modifierAhead : Parser Bool := do
  if ← sees fun t => t.kind = .word && modifierWords.contains t.text then
    match ← ahead? 1 with
    | none => return false
    | some t =>
        match t.kind with
        | .symbol => return t.text = "(" || t.text = "~"
        | .word | .directive => return true
        | _ => return false
  else return false

def modifier : Parser Node := do
  guarded (← modifierAhead)
  leaf .modifier (do let _ ← advance)

def localDeclaration : Parser Node :=
  group do
    guarded (!(← sees fun t => t.isWord "await" || t.isWord "yield"))
    let modifiers ← many modifier
    let declared ← variableDeclaration self
    closing ";"
    return modifiers ++ [declared]

def declarationAhead : Parser Bool := fun s =>
  let p : Parser Unit := do
    guarded (!(← sees fun t => t.isWord "await" || t.isWord "yield"))
    let _ ← many modifier
    guarded (!(← seesWord "await"))
    let isVar ← seesWord "var"
    let _ ← self (.type false)
    if isVar && (← seesSymbol "(") then
      let _ ← designations (← remaining)
      guarded (← seesSymbol "=")
    else
      let _ ← identifier
      guarded (← sees fun t => t.kind = .symbol && ["=", ",", ";", "["].contains t.text)
  some ((p s).isSome, s)

def typeParameter : Parser Node :=
  group do
    let attributes ← many (self .attributes)
    let _ ← optional (word "in" <|> word "out")
    return attributes ++ [← identifier]

def typeParameterList : Parser Node :=
  group do
    symbol "<"
    let parameters ← sepBy1 (typeParameter self) ","
    symbol ">"
    return parameters

def constraint : Parser (List Node) := do
  if ← tookWord "class" then
    let _ ← tookSymbol "?"
    return []
  else if (← tookWord "struct") || (← tookWord "notnull") || (← tookWord "unmanaged")
      || (← tookWord "default") then return []
  else if ← seesWord "new" then
    word "new"
    symbol "("
    symbol ")"
    return []
  else if ← tookWord "allows" then
    word "ref"
    word "struct"
    return []
  else return [← self (.type false)]

def constraintClause : Parser Node :=
  group do
    word "where"
    let name ← identifier
    symbol ":"
    let constraints ← sepBy1 (constraint self) ","
    return name :: constraints.flatten

def functionBody : Parser (List Node) := do
  if ← seesSymbol openBrace then
    let body ← self .block
    let _ ← tookSymbol ";"
    return [body]
  else if ← tookSymbol "=>" then
    let value ← expression self
    closing ";"
    return [value]
  else
    symbol ";"
    return []

def localFunction : Parser Node :=
  group do
    let attributes ← many (self .attributes)
    let modifiers ← many modifier
    guarded (!(← seesWord "await"))
    let type ← self (.type false)
    let name ← identifier
    let typeParameters ← optional (typeParameterList self)
    guarded (← seesSymbol "(")
    let parameters ← self .parameters
    let constraints ← many (constraintClause self)
    guarded (← sees fun t => t.isSymbol openBrace || t.isSymbol "=>" || t.isSymbol ";")
    let body ← functionBody self
    return attributes ++ modifiers ++ [type, name] ++ typeParameters.toList ++ [parameters] ++
      constraints ++ body

def expressionStatement : Parser Node :=
  group do
    let value ← expression self
    closing ";"
    return [value]

def ifStatement : Parser Node :=
  group do
    word "if"
    let condition ← inParentheses (expression self)
    let chosen ← statement self
    let otherwise ← if ← tookWord "else" then (fun n => [n]) <$> statement self else pure []
    return [condition, chosen] ++ otherwise

def whileStatement : Parser Node :=
  group do
    word "while"
    let condition ← inParentheses (expression self)
    return [condition, ← statement self]

def doStatement : Parser Node :=
  group do
    word "do"
    let body ← statement self
    word "while"
    let condition ← inParentheses (expression self)
    closing ";"
    return [body, condition]

def forInitializer : Parser (List Node) := do
  if ← declarationAhead self then return [← variableDeclaration self]
  else sepBy (expression self) ","

def forStatement : Parser Node :=
  group do
    word "for"
    symbol "("
    let first ← forInitializer self
    symbol ";"
    let condition ← optional (expression self)
    symbol ";"
    let steps ← sepBy (expression self) ","
    symbol ")"
    let body ← statement self
    return first ++ condition.toList ++ steps ++ [body]

def loopVariable : Parser (List Node) :=
  (do
    let type ← self (.type false)
    let name ← identifier <|> designations (← remaining)
    word "in"
    return [type, name]) <|> (do
    let target ← expression self
    word "in"
    return [target])

def foreachStatement : Parser Node :=
  group do
    let _ ← tookWord "await"
    word "foreach"
    symbol "("
    let declared ← loopVariable self
    let source ← expression self
    symbol ")"
    let body ← statement self
    return declared ++ [source, body]

def caseLabel : Parser (List Node) := do
  if ← tookWord "default" then
    symbol ":"
    return []
  else
    word "case"
    let pattern ← self .pattern
    let guard ← if ← tookWord "when" then (fun n => [n]) <$> expression self else pure []
    symbol ":"
    return pattern :: guard

def sections : Nat → Parser Node
  | 0 => failure
  | fuel + 1 => do
      if ← sees (·.isDirective "if") then conditional (many (sections fuel))
      else
        group do
          let label ← caseLabel self
          let inner ← many do
            guarded (!(← sees fun t => endsRun t || t.isWord "case" || t.isWord "default"))
            statementOrRepair self <|> skipToken
          return label ++ inner

def switchStatement : Parser Node :=
  group do
    word "switch"
    let value ← parenthesized self
    symbol openBrace
    let parts ← many (sections self (← remaining))
    symbol closeBrace
    return value :: parts

def catchClause : Parser (List Node) := do
  word "catch"
  let caught ← optional do
    symbol "("
    let type ← self (.type false)
    let name ← optional identifier
    symbol ")"
    return type :: name.toList
  let filter ← if ← tookWord "when" then (fun n => [n]) <$> inParentheses (expression self)
    else pure []
  return caught.getD [] ++ filter ++ [← self .block]

def tryStatement : Parser Node :=
  group do
    word "try"
    let body ← self .block
    let catches ← many (catchClause self)
    let last ← if ← tookWord "finally" then (fun n => [n]) <$> self .block else pure []
    return body :: catches.flatten ++ last

def resource : Parser Node :=
  (do
    let declared ← variableDeclaration self
    guarded (← seesSymbol ")")
    guarded (declared.children.any fun d => d.children.length > 1)
    return declared) <|> expression self

def usingStatement : Parser Node :=
  group do
    let _ ← tookWord "await"
    word "using"
    if ← seesSymbol "(" then
      let held ← inParentheses (resource self)
      return [held, ← statement self]
    else
      let declared ← variableDeclaration self
      closing ";"
      return [declared]

def lockStatement : Parser Node :=
  group do
    word "lock"
    let value ← inParentheses (expression self)
    return [value, ← statement self]

def fixedStatement : Parser Node :=
  group do
    word "fixed"
    let declared ← inParentheses (variableDeclaration self)
    return [declared, ← statement self]

def returnLike (keyword : String) : Parser Node :=
  group do
    word keyword
    let value ← optional (expression self)
    closing ";"
    return value.toList

def jump (keyword : String) : Parser Node :=
  leaf .other do
    word keyword
    closing ";"

def gotoStatement : Parser Node :=
  group do
    word "goto"
    let target ←
      if ← tookWord "case" then (fun n => [n]) <$> expression self
      else if ← tookWord "default" then pure []
      else (fun n => [n]) <$> identifier
    closing ";"
    return target

def yieldStatement : Parser Node :=
  group do
    word "yield"
    let value ← if ← tookWord "return" then (fun n => [n]) <$> expression self
      else (do word "break"; pure [])
    closing ";"
    return value

def labeledStatement : Parser Node :=
  group do
    let name ← identifier
    symbol ":"
    return [name, ← statement self]

def keywordBlock (keyword : String) : Parser Node :=
  group do
    word keyword
    return [← self .block]

def simpleStatement : Parser Node := do
  if ← declarationAhead self then localDeclaration self
  else localFunction self <|> expressionStatement self

def wordStatement (text : String) (second : Option Token) : Parser Node := do
  match text with
  | "if" => ifStatement self
  | "while" => whileStatement self
  | "do" => doStatement self
  | "for" => forStatement self
  | "foreach" => foreachStatement self
  | "switch" => switchStatement self
  | "try" => tryStatement self
  | "using" => usingStatement self
  | "lock" => lockStatement self
  | "fixed" => fixedStatement self
  | "return" => returnLike self "return"
  | "throw" => returnLike self "throw"
  | "break" => jump "break"
  | "continue" => jump "continue"
  | "goto" => gotoStatement self
  | "unsafe" => keywordBlock self "unsafe" <|> simpleStatement self
  | "checked" => keywordBlock self "checked" <|> simpleStatement self
  | "unchecked" => keywordBlock self "unchecked" <|> simpleStatement self
  | "yield" => yieldStatement self <|> simpleStatement self
  | "await" => foreachStatement self <|> usingStatement self <|> expressionStatement self
  | _ =>
      if second.any (·.isSymbol ":") && !reservedWords.contains text then labeledStatement self
      else simpleStatement self

def statementHere : Parser Node := do
  match ← tokens with
  | [] => failure
  | t :: rest =>
      match t.kind with
      | .word => wordStatement self t.text rest.head?
      | .directive => conditional (statements self) <|> expressionStatement self
      | .symbol =>
          if t.text = openBrace then self .block
          else if t.text = ";" then leaf .other (symbol ";")
          else simpleStatement self
      | _ => simpleStatement self

end EntityGraph.CSharp.Grammar

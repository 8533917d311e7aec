import EntityGraph.CSharp.Grammar.Statement

namespace EntityGraph.CSharp.Grammar

variable (self : Grammar)

def asName (n : Node) : Node := { n with role := some .name }

def asBody (n : Node) : Node := { n with role := some .body }

def attributeArgument : Parser Node :=
  group do
    let name ← optional do
      let n ← identifier
      symbol "=" <|> symbol ":"
      return n
    return name.toList ++ [← expression self]

def oneAttribute : Parser Node :=
  group do
    let name ← qualifiedName self
    if ← tookSymbol "(" then
      let arguments ← sepBy (attributeArgument self) ","
      symbol ")"
      return name :: arguments
    else return [name]

def attributeList : Parser Node :=
  group do
    symbol "["
    let _ ← optional (do
      let _ ← satisfy (·.kind = .word)
      symbol ":")
    let attributes ← sepBy1 (oneAttribute self) ","
    let _ ← tookSymbol ","
    symbol "]"
    return attributes

def attributes : Parser Node := do
  if ← sees (·.isDirective "if") then
    let n ← conditional (many (attributeList self))
    guarded (n.children.any fun c => c.kind = .other)
    return n
  else attributeList self

def parameterModifiers : List String := ["ref", "out", "in", "this", "params", "scoped", "readonly"]

def parameterModifier : Parser Unit := do
  guarded ((← ahead? 1).any fun t => t.kind = .word || t.isSymbol "(" || t.isSymbol "[")
  let _ ← satisfy fun t => t.kind = .word && parameterModifiers.contains t.text

def parameter : Parser Node :=
  group do
    let attributes ← many (self .attributes)
    let _ ← many parameterModifier
    let type ← self (.type false)
    let name ← optional identifier
    let value ← if ← tookSymbol "=" then (fun n => [n]) <$> expression self else pure []
    return attributes ++ [type] ++ name.toList ++ value

def parameterList : Parser Node :=
  node .parameterList do
    symbol "("
    let parameters ← (do word "__arglist"; pure []) <|> sepBy (parameter self) ","
    symbol ")"
    return parameters

def bracketedParameters : Parser Node :=
  group do
    symbol "["
    let parameters ← sepBy1 (parameter self) ","
    symbol "]"
    return parameters

def classBase : Parser (List Node) := do
  let type ← self (.type false)
  if ← seesSymbol "(" then return [type, ← argumentList self] else return [type]

def recordBase : Parser (List Node) := do
  let start ← startOfNext
  let type ← self (.type false)
  if ← seesSymbol "(" then
    let arguments ← argumentList self
    return [← close .other start [type, arguments]]
  else return [type]

def baseList (isRecord : Bool) : Parser Node :=
  node .baseList do
    symbol ":"
    let types ← sepBy1 (if isRecord then recordBase self else classBase self) ","
    return types.flatten

def baseListOrRepair (isRecord : Bool) : Parser Node :=
  baseList self isRecord <|> leaf .error (do symbol ":"; guarded (← seesSymbol openBrace); damage)

def declarations : Parser (List Node) :=
  many do
    guarded (!(← sees endsRun))
    self .declaration <|> skipBraces <|> skipToken
where
  skipBraces : Parser Node :=
    leaf .error do
      guarded (← seesSymbol openBrace)
      match afterClosing 0 (← tokens) with
      | none => failure
      | some rest => advanceBy ((← remaining) - rest.length)
      damage

def declarationList : Parser Node :=
  node .declarationList do
    guarded (closesBrace 0 (← tokens))
    symbol openBrace
    let inner ← declarations self
    symbol closeBrace
    return inner

def typeBody : Parser (List Node) := do
  if ← seesSymbol openBrace then
    let body ← self .declarationList
    let _ ← tookSymbol ";"
    return [asBody body]
  else
    symbol ";"
    return []

def typeHeaderPart (isRecord : Bool) : Parser Node :=
  typeParameterList self <|> self .parameters <|> baseListOrRepair self isRecord

def typeRest (start : Nat) (before : List Node) (kind : NodeKind) : Parser Node := do
  let name ← identifier
  let header ← many (typeHeaderPart self (kind = .recordDeclaration))
  let constraints ← many (constraintClause self)
  let body ← typeBody self
  close kind start (before ++ [asName name] ++ header ++ constraints ++ body)

def enumMember : Parser Node :=
  group do
    let attributes ← many (self .attributes)
    let name ← identifier
    let value ← if ← tookSymbol "=" then (fun n => [n]) <$> expression self else pure []
    return attributes ++ [name] ++ value

def enumMembers : Nat → Parser (List Node)
  | 0 => pure []
  | fuel + 1 =>
      many do
        guarded (!(← sees endsRun))
        if ← sees (·.isDirective "if") then
          let branches ← conditional (enumMembers fuel)
          let _ ← tookSymbol ","
          return branches
        else
          let m ← enumMember self
          if ← tookSymbol "," then pure () else guarded (← sees endsRun)
          return m

def enumRest (start : Nat) (before : List Node) : Parser Node := do
  let name ← identifier
  let base ← if ← tookSymbol ":" then (fun n => [n]) <$> self (.type false) else pure []
  let body ←
    if ← tookSymbol openBrace then
      let inner ← enumMembers self (← remaining)
      symbol closeBrace
      let _ ← tookSymbol ";"
      pure inner
    else
      symbol ";"
      pure []
  close .other start (before ++ [name] ++ base ++ body)

def delegateRest (start : Nat) (before : List Node) : Parser Node := do
  let type ← self (.type false)
  let name ← identifier
  let typeParameters ← optional (typeParameterList self)
  let parameters ← self .parameters
  let constraints ← many (constraintClause self)
  symbol ";"
  close .other start (before ++ [type, name] ++ typeParameters.toList ++ [parameters] ++ constraints)

def accessor : Parser Node :=
  group do
    let attributes ← many (self .attributes)
    let modifiers ← many modifier
    let name ← identifier
    let body ← functionBody self
    return attributes ++ modifiers ++ [name] ++ body

def accessorList : Parser Node :=
  group do
    symbol openBrace
    let accessors ← many (accessor self <|> conditional (many (accessor self)))
    symbol closeBrace
    return accessors

def explicitInterface : Parser (List Node) := do
  let parts ← many do
    let part ← simpleName self
    symbol "." <|> symbol "::"
    return part
  return parts

def eventRest (start : Nat) (before : List Node) : Parser Node := do
  let field ← optional do
    let declared ← variableDeclaration self
    symbol ";"
    return declared
  match field with
  | some declared => close .other start (before ++ [declared])
  | none =>
      let type ← self (.type false)
      let interface ← explicitInterface self
      let name ← identifier
      let body ← if ← seesSymbol openBrace then (fun n => [n]) <$> accessorList self
        else (do symbol ";"; pure [])
      close .other start (before ++ [type] ++ interface ++ [name] ++ body)

def operatorName : Parser Unit := do
  if ← sees fun t => t.isWord "true" || t.isWord "false" then
    let _ ← advance
  else
    match operatorAt (← tokens) with
    | some (_, n) => advanceBy n
    | none => failure

def operatorRest (start : Nat) (before : List Node) : Parser Node := do
  word "operator"
  let _ ← tookWord "checked"
  operatorName
  let parameters ← self .parameters
  let body ← functionBody self
  close .other start (before ++ [parameters] ++ body)

def conversionRest (start : Nat) (before : List Node) : Parser Node := do
  word "implicit" <|> word "explicit"
  let interface ← explicitInterface self
  word "operator"
  let _ ← tookWord "checked"
  let type ← self (.type false)
  let parameters ← self .parameters
  let body ← functionBody self
  close .other start (before ++ interface ++ [type, parameters] ++ body)

def destructorRest (start : Nat) (before : List Node) : Parser Node := do
  symbol "~"
  let name ← identifier
  let parameters ← self .parameters
  let body ← functionBody self
  close .other start (before ++ [name, parameters] ++ body)

def constructorInitializer : Parser Node :=
  group do
    symbol ":"
    word "base" <|> word "this"
    return [← argumentList self]

def constructorRest (start : Nat) (before : List Node) : Parser Node := do
  let name ← identifier
  let parameters ← self .parameters
  let first ← optional (constructorInitializer self)
  let body ← functionBody self
  close .other start (before ++ [name, parameters] ++ first.toList ++ body)

def indexerRest (start : Nat) (before : List Node) : Parser Node := do
  word "this"
  let parameters ← bracketedParameters self
  let body ← if ← seesSymbol openBrace then (fun n => [n]) <$> accessorList self else functionBody self
  close .other start (before ++ [parameters] ++ body)

def propertyRest (start : Nat) (before : List Node) : Parser Node := do
  if ← seesSymbol openBrace then
    let accessors ← accessorList self
    let value ←
      if ← tookSymbol "=" then
        let v ← expression self
        symbol ";"
        pure [v]
      else
        let _ ← tookSymbol ";"
        pure []
    close .other start (before ++ [accessors] ++ value)
  else
    symbol "=>"
    let value ← expression self
    symbol ";"
    close .other start (before ++ [value])

def methodRest (start : Nat) (before : List Node) : Parser Node := do
  let typeParameters ← optional (typeParameterList self)
  let parameters ← self .parameters
  let constraints ← many (constraintClause self)
  let body ← functionBody self
  close .methodDeclaration start
    (before ++ typeParameters.toList ++ [parameters] ++ constraints ++ body)

def fieldDeclaration (start : Nat) (before : List Node) : Parser Node := do
  let declared ← variableDeclaration self
  symbol ";"
  close .fieldDeclaration start (before ++ [declared])

def typedMember (start : Nat) (before : List Node) : Parser Node := do
  let type ← self (.type false)
  if ← seesWord "operator" then operatorRest self start (before ++ [type])
  else
    let interface ← explicitInterface self
    if ← seesWord "operator" then operatorRest self start (before ++ [type] ++ interface)
    else if ← seesWord "this" then indexerRest self start (before ++ [type] ++ interface)
    else
      let name ← identifier
      let parts := before ++ [type] ++ interface ++ [asName name]
      if ← sees fun t => t.isSymbol openBrace || t.isSymbol "=>" then propertyRest self start parts
      else methodRest self start parts

def memberRest (start : Nat) (before : List Node) : Parser Node := do
  if (← sees Token.isIdentifier) && (← ahead? 1).any (·.isSymbol "(") then
    constructorRest self start before <|> typedMember self start before
  else fieldDeclaration self start before <|> typedMember self start before

def usingDirective : Parser Node :=
  group do
    let _ ← tookWord "global"
    word "using"
    let _ ← tookWord "static"
    let _ ← tookWord "unsafe"
    let alias_ ← optional do
      let name ← identifier
      symbol "="
      return name
    let name ← self (.type false)
    symbol ";"
    return alias_.toList ++ [name]

def externAlias : Parser Node :=
  group do
    word "extern"
    word "alias"
    let name ← identifier
    symbol ";"
    return [name]

def namespaceName : Parser Node :=
  qualifiedName self <|> leaf .identifier (do guarded (← seesSymbol openBrace); damage)

def namespaceDeclaration : Parser Node := do
  let start ← startOfNext
  word "namespace"
  let name ← namespaceName self
  if ← tookSymbol ";" then close .namespaceLine start [asName name]
  else
    let body ← self .declarationList
    let _ ← tookSymbol ";"
    close .namespaceBlock start [asName name, asBody body]

def typeKeyword (ts : List Token) : Option (NodeKind × Nat) :=
  match ts with
  | t :: u :: rest =>
      if t.kind ≠ .word then none
      else
        match t.text with
        | "class" => some (.classDeclaration, 1)
        | "struct" => some (.structDeclaration, 1)
        | "interface" => some (.interfaceDeclaration, 1)
        | "ref" => if u.isWord "struct" then some (.structDeclaration, 2) else
            if u.isWord "partial" && rest.head?.any (·.isWord "struct") then
              some (.structDeclaration, 3) else none
        | "record" =>
            if u.isWord "class" || u.isWord "struct" then some (.recordDeclaration, 2)
            else if u.isIdentifier then some (.recordDeclaration, 1)
            else none
        | _ => none
  | _ => none

def declarationRest (start : Nat) (before : List Node) : Parser Node := do
  match typeKeyword (← tokens) with
  | some (kind, n) =>
      advanceBy n
      typeRest self start before kind
  | none =>
      match ← peek? with
      | none => failure
      | some t =>
          if t.isWord "enum" then
            word "enum"
            enumRest self start before
          else if t.isWord "delegate" && !(← ahead? 1).any (·.isSymbol "*") then
            word "delegate"
            delegateRest self start before
          else if t.isWord "event" then
            word "event"
            eventRest self start before
          else if t.isWord "implicit" || t.isWord "explicit" then conversionRest self start before
          else if t.isSymbol "~" then destructorRest self start before
          else memberRest self start before

def declared (membersToo : Bool) : Parser Node := do
  let start ← startOfNext
  let attributes ← many (self .attributes)
  let modifiers ← many modifier
  let before := attributes ++ modifiers
  if membersToo then declarationRest self start before
  else
    match typeKeyword (← tokens) with
    | some _ => declarationRest self start before
    | none =>
        guarded (← sees fun t => t.isWord "enum" || t.isWord "delegate")
        declarationRest self start before

def outline : Parser Node := do
  match ← peek? with
  | none => failure
  | some t =>
      if t.isWord "namespace" then namespaceDeclaration self
      else if t.isWord "using" || t.isWord "global" then usingDirective self
      else if t.isWord "extern" then externAlias
      else failure

def declarationHere : Parser Node := do
  if ← sees (·.isDirective "if") then
    declared self true <|> conditional (declarations self)
  else outline self <|> declared self true

def globalAttribute : Parser Node :=
  group do
    symbol "["
    word "assembly" <|> word "module"
    symbol ":"
    let attributes ← sepBy (oneAttribute self) ","
    let _ ← tookSymbol ","
    symbol "]"
    return attributes

def itemHere : Parser Node := do
  if ← sees (·.isDirective "if") then
    declared self false <|> conditional (items self)
  else outline self <|> globalAttribute self <|> declared self false <|> statementOrRepair self
where
  items (self : Grammar) : Parser (List Node) :=
    many do
      guarded (!(← sees endsRun))
      self .item <|> skipToken

def unit : Parser Node :=
  node .unit (many (self .item <|> skipToken))

end EntityGraph.CSharp.Grammar

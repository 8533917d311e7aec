import EntityGraph.CSharp.Grammar.Basic

namespace EntityGraph.CSharp.Grammar

variable (self : Grammar)

def typeArgumentList : Parser Node :=
  node .typeArgumentList do
    symbol "<"
    if (← seesSymbol ",") || (← seesSymbol ">") then
      let _ ← many (symbol ",")
      symbol ">"
      return []
    else
      let types ← sepBy1 (self (.type false)) ","
      symbol ">"
      return types

def simpleName : Parser Node := do
  let start ← startOfNext
  let name ← identifier
  if ← seesSymbol "<" then
    match ← optional (typeArgumentList self) with
    | some arguments =>
        close .genericName start [{ name with role := some .name }, arguments]
    | none => return name
  else return name

def qualifiedName : Parser Node := do
  let start ← startOfNext
  let first ← simpleName self
  let head ←
    if ← tookSymbol "::" then
      let name ← simpleName self
      close .other start [first, name]
    else pure first
  let others ← many (do symbol "."; simpleName self)
  if others.isEmpty then return head
  else close .qualifiedName start (head :: others)

def tupleElement : Parser Node :=
  group do
    let type ← self (.type false)
    let name ← optional identifier
    return type :: name.toList

def tupleType : Parser Node :=
  group do
    symbol "("
    let elements ← sepBy1 (tupleElement self) ","
    guarded (elements.length > 1)
    symbol ")"
    return elements

def functionPointerType : Parser Node :=
  group do
    word "delegate"
    symbol "*"
    let _ ← optional (word "managed" <|> word "unmanaged")
    if ← tookSymbol "[" then
      let _ ← sepBy1 identifier ","
      symbol "]"
    symbol "<"
    let types ← sepBy1 (do
      let _ ← optional (word "ref" <|> word "out" <|> word "in")
      let _ ← optional (word "readonly")
      self (.type false)) ","
    symbol ">"
    return types

def plainType : Parser Node := do
  match ← peek? with
  | none => failure
  | some t =>
      if t.isPredefinedType then leaf .other (do let _ ← advance)
      else if t.isSymbol "(" then tupleType self
      else if t.isWord "delegate" then functionPointerType self
      else qualifiedName self

def beginsOperand (t : Token) : Bool :=
  match t.kind with
  | .literal | .stringOpen => true
  | .word => !connectiveWords.contains t.text
  | .symbol => ["(", "!", "~", "[", "+", "-", "&", "*", "++", "--", "..", "^", openBrace].contains t.text
  | _ => false

def colonAhead : Nat → Nat → List Token → Bool
  | _, _, [] => false
  | depth, angles, t :: rest =>
      if t.kind ≠ .symbol then colonAhead depth angles rest
      else if ["(", "[", openBrace].contains t.text then colonAhead (depth + 1) angles rest
      else if [")", "]", closeBrace].contains t.text then
        depth ≠ 0 && colonAhead (depth - 1) angles rest
      else if depth ≠ 0 then colonAhead depth angles rest
      else if t.text = ":" then true
      else if t.text = ";" then false
      else if t.text = "," then angles ≠ 0 && colonAhead depth angles rest
      else if t.text = "<" then colonAhead depth (angles + 1) rest
      else if t.text = ">" then colonAhead depth (angles - 1) rest
      else colonAhead depth angles rest

def marksNullable (inExpression : Bool) : Parser Bool := do
  match ← tokens with
  | q :: rest =>
      if !q.isSymbol "?" then return false
      else if !inExpression then return true
      else
        match rest with
        | [] => return true
        | t :: _ =>
            if t.isSymbol "." || t.isSymbol "[" then return false
            else if beginsOperand t || t.isWord "from" then return !colonAhead 0 0 rest
            else return true
  | [] => return false

def rankSpecifier : Parser Node :=
  group do
    symbol "["
    let _ ← many (symbol ",")
    symbol "]"
    return []

def typeSuffix (inExpression ranks : Bool) : Parser (List Node) := do
  if ← marksNullable inExpression then
    symbol "?"
    return []
  else if !inExpression && (← seesSymbol "*") then
    symbol "*"
    return []
  else if ranks && (← seesSymbol "[") then
    return [← rankSpecifier]
  else failure

def suffixedType (inExpression ranks : Bool) : Parser Node := do
  let start ← startOfNext
  let base ← plainType self
  let suffixes ← many (typeSuffix inExpression ranks)
  let stop ← lastStop
  if stop = base.stop then return base
  else close .other start (base :: suffixes.flatten)

def type (inExpression : Bool) : Parser Node := do
  if (← seesWord "ref") then
    group do
      word "ref"
      let _ ← optional (word "readonly")
      return [← self (.type inExpression)]
  else if (← seesWord "scoped") && (← ahead? 1).any (·.kind = .word) then
    group (do word "scoped"; return [← self (.type inExpression)])
  else suffixedType self inExpression true

end EntityGraph.CSharp.Grammar

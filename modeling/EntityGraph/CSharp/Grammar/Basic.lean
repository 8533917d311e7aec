import EntityGraph.CSharp.Token
import EntityGraph.Syntax
/-!
Parsing tokens into nodes. The rules of the grammar refer to each other through goals: a rule is
given a parser for every goal, and the reader ties the knot with as much fuel as the tokens allow.
A parser is lenient while it reads what a strict one refused; it then supplies closing brackets,
semicolons and member names that are not there.
-/

namespace EntityGraph.CSharp

structure Input where
  tokens : List Token
  count : Nat
  last : Nat
  lenient : Bool
  damaged : Bool

abbrev Parser := StateT Input Option

inductive Goal where
  /-- A type. In an expression a question mark may belong to what follows. -/
  | type (inExpression : Bool)
  /-- An expression whose operators bind at least as tightly as `level`. -/
  | expression (level : Nat) (lambdas : Bool)
  | initializer
  | pattern
  | block
  | statement
  | attributes
  | parameters
  | declaration
  | declarationList
  | item
  deriving Repr

abbrev Grammar := Goal → Parser Node

namespace Grammar

def tokens : Parser (List Token) := do
  return (← get).tokens

def peek? : Parser (Option Token) := do
  return (← get).tokens.head?

def ahead? (n : Nat) : Parser (Option Token) := do
  return (← get).tokens[n]?

def remaining : Parser Nat := do
  return (← get).count

def guarded (b : Bool) : Parser Unit :=
  if b then pure () else failure

def advance : Parser Token := fun s =>
  match s.tokens with
  | [] => none
  | t :: rest => some (t, { s with tokens := rest, count := s.count - 1, last := t.stop })

def satisfy (p : Token → Bool) : Parser Token := fun s =>
  match s.tokens with
  | [] => none
  | t :: _ => if p t then advance s else none

def symbol (text : String) : Parser Unit := do
  let _ ← satisfy (·.isSymbol text)

def word (text : String) : Parser Unit := do
  let _ ← satisfy (·.isWord text)

def ofKind (kind : TokenKind) : Parser Unit := do
  let _ ← satisfy (·.kind = kind)

def damage : Parser Unit :=
  modify fun s => { s with damaged := true }

def closing (text : String) : Parser Unit := fun s =>
  match symbol text s with
  | some r => some r
  | none => if s.lenient then some ((), { s with damaged := true }) else none

def optional {α : Type} (p : Parser α) : Parser (Option α) :=
  (some <$> p) <|> pure none

def sees (p : Token → Bool) : Parser Bool := do
  match ← peek? with
  | some t => return p t
  | none => return false

def seesSymbol (text : String) : Parser Bool := sees (·.isSymbol text)

def seesWord (text : String) : Parser Bool := sees (·.isWord text)

def tookSymbol (text : String) : Parser Bool := do
  if ← seesSymbol text then
    let _ ← advance
    return true
  else return false

def tookWord (text : String) : Parser Bool := do
  if ← seesWord text then
    let _ ← advance
    return true
  else return false

def manyWithin {α : Type} (p : Parser α) : Nat → Parser (List α)
  | 0 => pure []
  | fuel + 1 => fun s =>
      match p s with
      | none => some ([], s)
      | some (x, s') =>
          if s'.count < s.count then
            (manyWithin p fuel s').map fun (xs, s'') => (x :: xs, s'')
          else some ([], s)

def many {α : Type} (p : Parser α) : Parser (List α) := fun s =>
  manyWithin p (s.count + 1) s

def sepBy1 {α : Type} (p : Parser α) (separator : String) : Parser (List α) := do
  let first ← p
  let others ← many (do symbol separator; p)
  return first :: others

def sepBy {α : Type} (p : Parser α) (separator : String) : Parser (List α) :=
  sepBy1 p separator <|> pure []

def startOfNext : Parser Nat := do
  match ← peek? with
  | some t => return t.start
  | none => return (← get).last

def lastStop : Parser Nat := do
  return (← get).last

def close (kind : NodeKind) (start : Nat) (children : List Node) : Parser Node := do
  return { kind, role := none, start, stop := max start (← lastStop), children }

def node (kind : NodeKind) (p : Parser (List Node)) : Parser Node := do
  let start ← startOfNext
  let children ← p
  close kind start children

def group (p : Parser (List Node)) : Parser Node := node .other p

def leaf (kind : NodeKind) (p : Parser Unit) : Parser Node :=
  node kind (do p; return [])

def identifier : Parser Node :=
  leaf .identifier (do let _ ← satisfy Token.isIdentifier)

def memberName : Parser Node := fun s =>
  match identifier s with
  | some r => some r
  | none =>
      if s.lenient then
        some (⟨.identifier, none, s.last, s.last, []⟩, { s with damaged := true })
      else none

def skipToken : Parser Node :=
  leaf .error (do let _ ← advance; damage)

def afterClosing : Nat → List Token → Option (List Token)
  | _, [] => none
  | depth, t :: rest =>
      if t.isSymbol "(" || t.isSymbol "[" || t.isSymbol openBrace then afterClosing (depth + 1) rest
      else if t.isSymbol ")" || t.isSymbol "]" || t.isSymbol closeBrace then
        if depth ≤ 1 then some rest else afterClosing (depth - 1) rest
      else if depth = 0 then none
      else afterClosing depth rest

def closesBrace : Nat → List Token → Bool
  | _, [] => false
  | depth, t :: rest =>
      if t.isSymbol openBrace then closesBrace (depth + 1) rest
      else if t.isSymbol closeBrace then depth ≤ 1 || closesBrace (depth - 1) rest
      else closesBrace depth rest

/-- The branches of a conditional directive after its first line. Each later branch stands inside
the one before it. -/
def branches (body : Parser (List Node)) : Nat → Parser (List Node)
  | 0 => failure
  | fuel + 1 => do
      let first ← body
      if ← sees (·.isDirective "endif") then
        let _ ← advance
        return first
      else if ← sees fun t => t.isDirective "elif" || t.isDirective "else" then
        let later ← node .preprocessor (do let _ ← advance; branches body fuel)
        return first ++ [later]
      else failure

def conditional (body : Parser (List Node)) : Parser Node :=
  node .preprocessor do
    let _ ← satisfy (·.isDirective "if")
    branches body (← remaining)

end Grammar

end EntityGraph.CSharp

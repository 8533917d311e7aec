import EntityGraph.CSharp.Token
import EntityGraph.Text.Blank
import EntityGraph.Text.Identifier
import EntityGraph.Text.Split

namespace EntityGraph.CSharp.Lexeme

def isHexDigit (c : Char) : Bool :=
  c.isDigit || ('a' ≤ c && c ≤ 'f') || ('A' ≤ c && c ≤ 'F')

def startsWith (front : String) (cs : List Char) : Bool :=
  front.toList.isPrefixOf cs

def nameEscape : List Char → Nat
  | '\\' :: 'u' :: rest => if (rest.take 4).length = 4 ∧ (rest.take 4).all isHexDigit then 6 else 0
  | '\\' :: 'U' :: rest => if (rest.take 8).length = 8 ∧ (rest.take 8).all isHexDigit then 10 else 0
  | _ => 0

/-- The length of what continues a name, with the rest of an escape that is being passed over. -/
def nameRest : Nat → List Char → Nat
  | _, [] => 0
  | passing + 1, _ :: cs => 1 + nameRest passing cs
  | 0, c :: cs =>
      if Text.isIdentifierContinue c then 1 + nameRest 0 cs
      else
        match nameEscape (c :: cs) with
        | 0 => 0
        | n + 1 => 1 + nameRest n cs

def plainName (cs : List Char) : Nat :=
  match cs with
  | [] => 0
  | c :: rest =>
      if Text.isIdentifierStart c then 1 + nameRest 0 rest
      else
        match nameEscape cs with
        | 0 => 0
        | n + 1 => 1 + nameRest n rest

def word : List Char → Nat
  | '@' :: cs =>
      let n := plainName cs
      if n = 0 then 0 else n + 1
  | cs => plainName cs

def digitsOrLow (p : Char → Bool) (cs : List Char) : Nat :=
  (cs.takeWhile fun c => p c || c = '_').length

def suffixLength (suffixes : List Char) (cs : List Char) : Nat :=
  (cs.takeWhile (suffixes.contains ·)).length

def exponent (cs : List Char) : Nat :=
  match cs with
  | e :: rest =>
      if e = 'e' ∨ e = 'E' then
        let sign := if rest.head? = some '+' ∨ rest.head? = some '-' then 1 else 0
        let n := digitsOrLow Char.isDigit (rest.drop sign)
        if n = 0 then 0 else 1 + sign + n
      else 0
  | [] => 0

def startsWithDigit (cs : List Char) : Bool :=
  (cs.head?.map Char.isDigit).getD false

def number (cs : List Char) : Nat :=
  if startsWith "0x" cs || startsWith "0X" cs then
    let n := 2 + digitsOrLow isHexDigit (cs.drop 2)
    n + suffixLength ['u', 'U', 'l', 'L'] (cs.drop n)
  else if startsWith "0b" cs || startsWith "0B" cs then
    let n := 2 + digitsOrLow (fun c => c = '0' || c = '1') (cs.drop 2)
    n + suffixLength ['u', 'U', 'l', 'L'] (cs.drop n)
  else
    let whole := if startsWithDigit cs then digitsOrLow Char.isDigit cs else 0
    let afterWhole := cs.drop whole
    let fraction :=
      match afterWhole with
      | '.' :: rest => if startsWithDigit rest then 1 + digitsOrLow Char.isDigit rest else 0
      | _ => 0
    if whole + fraction = 0 then 0
    else
      let n := whole + fraction
      let m := n + exponent (cs.drop n)
      m + suffixLength ['u', 'U', 'l', 'L', 'f', 'F', 'd', 'D', 'm', 'M'] (cs.drop m)

def regularString : List Char → Option Nat
  | [] => none
  | '"' :: _ => some 1
  | '\n' :: _ => none
  | '\\' :: c :: rest => if c = '\n' then none else (regularString rest).map (· + 2)
  | _ :: rest => (regularString rest).map (· + 1)

def verbatimString : List Char → Option Nat
  | [] => none
  | '"' :: '"' :: rest => (verbatimString rest).map (· + 2)
  | '"' :: _ => some 1
  | _ :: rest => (verbatimString rest).map (· + 1)

def runLength (c : Char) (cs : List Char) : Nat :=
  (cs.takeWhile (· = c)).length

def rawString (quotes : Nat) : List Char → Option Nat
  | [] => none
  | c :: cs =>
      if runLength '"' (c :: cs) ≥ quotes then some (runLength '"' (c :: cs))
      else (rawString quotes cs).map (· + 1)

def stringLiteral (cs : List Char) : Nat :=
  let body : Option Nat :=
    match cs with
    | '@' :: '"' :: rest => (verbatimString rest).map (· + 2)
    | '"' :: '"' :: '"' :: _ =>
        let quotes := runLength '"' cs
        (rawString quotes (cs.drop quotes)).map (· + quotes)
    | '"' :: rest => (regularString rest).map (· + 1)
    | _ => none
  match body with
  | none => 0
  | some n => if startsWith "u8" (cs.drop n) || startsWith "U8" (cs.drop n) then n + 2 else n

def characterEscape : List Char → Nat
  | '\\' :: 'x' :: rest => 2 + ((rest.take 4).takeWhile isHexDigit).length
  | '\\' :: 'u' :: rest => 2 + ((rest.take 4).takeWhile isHexDigit).length
  | '\\' :: 'U' :: rest => 2 + ((rest.take 8).takeWhile isHexDigit).length
  | '\\' :: _ :: _ => 2
  | _ => 0

def characterLiteral : List Char → Nat
  | '\'' :: rest =>
      let inner :=
        match rest with
        | [] => 0
        | c :: _ => if c = '\\' then characterEscape rest else if c = '\'' ∨ c = '\n' then 0 else 1
      if inner ≠ 0 ∧ (rest.drop inner).head? = some '\'' then inner + 2 else 0
  | _ => 0

def lineLength (cs : List Char) : Nat :=
  (cs.takeWhile (· ≠ '\n')).length

def blockComment : List Char → Option Nat
  | [] => none
  | '*' :: '/' :: _ => some 2
  | _ :: rest => (blockComment rest).map (· + 1)

def comment (cs : List Char) : Nat :=
  match cs with
  | '/' :: '/' :: _ => lineLength cs
  | '/' :: '*' :: rest => ((blockComment rest).map (· + 2)).getD 0
  | _ => 0

/-- Symbols of more than one character. A run of `>` is never one symbol, since it may close type
arguments; the grammar joins its parts. -/
def longSymbols : List String :=
  ["<<=", "??=", "=>", "==", "!=", "<=", "<<", "&&", "&=", "||", "|=", "^=", "+=", "++", "-=", "--",
   "->", "*=", "/=", "%=", "??", "::", ".."]

def shortSymbols : List Char :=
  ['(', ')', '[', ']', '{', '}', '<', '>', ';', ',', ':', '.', '?', '!', '~', '+', '-', '*', '/', '%',
   '&', '|', '^', '=']

def symbol (cs : List Char) : Nat :=
  match longSymbols.find? (startsWith · cs) with
  | some s => s.length
  | none =>
      match cs with
      | c :: _ => if shortSymbols.contains c then 1 else 0
      | [] => 0

def directiveName (cs : List Char) : String :=
  let afterBlanks := cs.dropWhile fun c => c = ' ' || c = '\t'
  String.ofList (afterBlanks.takeWhile Char.isAlpha)

def directiveHead (cs : List Char) : Nat :=
  let blanks := (cs.takeWhile fun c => c = ' ' || c = '\t').length
  1 + blanks + ((cs.drop blanks).takeWhile Char.isAlpha).length

def branchNames : List String := ["if", "elif", "else", "endif"]

def pragmaNames : List String :=
  ["region", "endregion", "line", "pragma", "nullable", "error", "warning", "define", "undef"]

end EntityGraph.CSharp.Lexeme

import EntityGraph.CSharp.Lexeme

namespace EntityGraph.CSharp

/-- How a string with holes is written. A raw one opens and closes a hole with `dollars` braces and
ends at `quotes` quotes. -/
inductive HoledStyle where
  | regular
  | verbatim
  | raw (quotes dollars : Nat)
  deriving DecidableEq, Repr

structure Hole where
  style : HoledStyle
  depth : Nat

namespace Lexer

def holedStart? (cs : List Char) : Option (HoledStyle × Nat) :=
  match cs with
  | '$' :: '@' :: '"' :: _ => some (.verbatim, 3)
  | '@' :: '$' :: '"' :: _ => some (.verbatim, 3)
  | '$' :: _ =>
      let dollars := Lexeme.runLength '$' cs
      let quotes := Lexeme.runLength '"' (cs.drop dollars)
      if quotes ≥ 3 then some (.raw quotes dollars, dollars + quotes)
      else if dollars = 1 ∧ quotes ≥ 1 then some (.regular, 2)
      else none
  | _ => none

inductive TextEnd where
  | hole (braces : Nat)
  | quote (quotes : Nat)
  | broken

/-- The length of the text between holes, and what ends it. So many characters of it are passed over
at first. -/
def holedText (style : HoledStyle) : Nat → List Char → Nat × TextEnd
  | _, [] => (0, .broken)
  | passing + 1, _ :: cs =>
      let (n, ending) := holedText style passing cs
      (n + 1, ending)
  | 0, c :: cs =>
      let skip (n : Nat) : Nat × TextEnd :=
        let (m, ending) := holedText style (n - 1) cs
        (m + 1, ending)
      match style with
      | .regular =>
          if c = '"' then (0, .quote 1)
          else if c = '\n' then (0, .broken)
          else if c = '\\' then skip 2
          else if c = '{' then (if cs.head? = some '{' then skip 2 else (0, .hole 1))
          else skip 1
      | .verbatim =>
          if c = '"' then (if cs.head? = some '"' then skip 2 else (0, .quote 1))
          else if c = '{' then (if cs.head? = some '{' then skip 2 else (0, .hole 1))
          else skip 1
      | .raw quotes dollars =>
          if Lexeme.runLength '"' (c :: cs) ≥ quotes then (0, .quote quotes)
          else if c = '{' then
            let braces := Lexeme.runLength '{' (c :: cs)
            if braces ≥ dollars then (braces - dollars, .hole dollars) else skip braces
          else skip 1

def HoledStyle.closing : HoledStyle → Nat
  | .raw _ dollars => dollars
  | _ => 1

def closesHole (style : HoledStyle) (cs : List Char) : Bool :=
  Lexeme.runLength '}' cs ≥ HoledStyle.closing style

def formatLength (cs : List Char) : Nat :=
  (cs.takeWhile fun c => c ≠ '}' && c ≠ '"').length

def bytes (cs : List Char) : Nat :=
  cs.foldl (fun n c => n + c.utf8Size) 0

def lexeme (cs : List Char) : TokenKind × Nat :=
  let comment := Lexeme.comment cs
  if comment ≠ 0 then (.comment, comment)
  else
    let text := Lexeme.stringLiteral cs
    if text ≠ 0 then (.literal, text)
    else
      let word := Lexeme.word cs
      if word ≠ 0 then (.word, word)
      else
        let number := Lexeme.number cs
        if number ≠ 0 then (.literal, number)
        else
          let character := Lexeme.characterLiteral cs
          if character ≠ 0 then (.literal, character)
          else
            let symbol := Lexeme.symbol cs
            if symbol ≠ 0 then (.symbol, symbol) else (.unknown, 1)

def directive (cs : List Char) : TokenKind × String × Nat :=
  let name := Lexeme.directiveName cs
  if name = "else" ∨ name = "endif" then (.directive, name, Lexeme.directiveHead cs)
  else if Lexeme.branchNames.contains name then (.directive, name, 1 + Lexeme.lineLength cs)
  else if Lexeme.pragmaNames.contains name ∨ cs.head? = some '!' then
    (.pragma, name, 1 + Lexeme.lineLength cs)
  else (.unknown, "#", 1)

def openers : List String := ["(", "[", openBrace]

def closers : List String := [")", "]", closeBrace]

def nest (holes : List Hole) (text : String) : List Hole :=
  match holes with
  | [] => []
  | h :: rest =>
      if openers.contains text then { h with depth := h.depth + 1 } :: rest
      else if closers.contains text then { h with depth := h.depth - 1 } :: rest
      else h :: rest

mutual

def scan : Nat → List Hole → Nat → List Char → List Token
  | 0, _, _, _ => []
  | _, _, _, [] => []
  | fuel + 1, holes, pos, c :: cs =>
      if Text.isBlank c || c = '\uFEFF' then scan fuel holes (pos + c.utf8Size) cs
      else
        let here := c :: cs
        let emit (kind : TokenKind) (text : String) (n : Nat) (holes : List Hole) : List Token :=
          let stop := pos + bytes (here.take n)
          ⟨kind, text, pos, stop⟩ :: scan fuel holes stop (here.drop n)
        let inside : Option HoledStyle :=
          match holes with
          | h :: _ => if h.depth = 0 then some h.style else none
          | [] => none
        match inside.filter (closesHole · here) with
        | some style =>
            let n := HoledStyle.closing style
            ⟨.holeClose, "", pos, pos + n⟩ ::
              scanText fuel style holes.tail (pos + n) (here.drop n)
        | none =>
            if inside.isSome && c = ':' && cs.head? ≠ some ':' then
              emit .holeFormat "" (1 + formatLength cs) holes
            else if c = '#' then
              let (kind, name, n) := directive cs
              emit kind name n holes
            else
              match holedStart? here with
              | some (style, n) =>
                  ⟨.stringOpen, "", pos, pos + n⟩ :: scanText fuel style holes (pos + n) (here.drop n)
              | none =>
                  let (kind, n) := lexeme here
                  let text := if kind = .comment then "" else String.ofList (here.take n)
                  emit kind text n (if kind = .symbol then nest holes text else holes)

def scanText : Nat → HoledStyle → List Hole → Nat → List Char → List Token
  | 0, _, _, _, _ => []
  | fuel + 1, style, holes, pos, cs =>
      let (n, ending) := holedText style 0 cs
      let start := pos + bytes (cs.take n)
      let rest := cs.drop n
      match ending with
      | .hole braces =>
          ⟨.holeOpen, "", start, start + braces⟩ ::
            scan fuel (⟨style, 0⟩ :: holes) (start + braces) (rest.drop braces)
      | .quote quotes =>
          ⟨.stringClose, "", start, start + quotes⟩ ::
            scan fuel holes (start + quotes) (rest.drop quotes)
      | .broken => ⟨.unknown, "", start, start⟩ :: scan fuel holes start rest

end

end Lexer

/-- All tokens of a text, trivia included. Each step takes a character or begins the text of a
string, so twice the length is fuel enough. -/
def tokens (cs : List Char) : List Token :=
  Lexer.scan (2 * cs.length + 2) [] 0 cs

end EntityGraph.CSharp

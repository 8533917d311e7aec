/-!
JSON texts as they are written. A string keeps its escapes and a number its digits, so that a reader
judges only the parts it takes: `asText?` of a written string fails on a lone surrogate, `inRange`
on a number too large for a double.
-/

namespace EntityGraph

inductive Json where
  | null
  | bool (value : Bool)
  | number (written : List Char)
  | text (written : List Char)
  | array (items : List Json)
  | object (members : List (List Char × Json))

namespace Json

def hexDigit (n : Nat) : Char :=
  if n < 10 then Char.ofNat (n + 0x30) else Char.ofNat (n + 0x57)

def hexValue? (c : Char) : Option Nat :=
  if '0' ≤ c ∧ c ≤ '9' then some (c.toNat - 0x30)
  else if 'a' ≤ c ∧ c ≤ 'f' then some (c.toNat - 0x57)
  else if 'A' ≤ c ∧ c ≤ 'F' then some (c.toNat - 0x37)
  else none

def hexValue4? (a b c d : Char) : Option Nat :=
  match hexValue? a, hexValue? b, hexValue? c, hexValue? d with
  | some a, some b, some c, some d => some (((a * 16 + b) * 16 + c) * 16 + d)
  | _, _, _, _ => none

def shortEscape? : Char → Option Char
  | '"' => some '"'
  | '\\' => some '\\'
  | '/' => some '/'
  | 'b' => some '\x08'
  | 'f' => some '\x0c'
  | 'n' => some '\n'
  | 'r' => some '\r'
  | 't' => some '\t'
  | _ => none

def escapeChar (c : Char) : List Char :=
  if c = '"' then ['\\', '"']
  else if c = '\\' then ['\\', '\\']
  else if c = '\x08' then ['\\', 'b']
  else if c = '\x0c' then ['\\', 'f']
  else if c = '\n' then ['\\', 'n']
  else if c = '\r' then ['\\', 'r']
  else if c = '\t' then ['\\', 't']
  else if c.toNat < 0x20 then
    ['\\', 'u', '0', '0', hexDigit (c.toNat / 16), hexDigit (c.toNat % 16)]
  else [c]

def escape (cs : List Char) : List Char :=
  cs.flatMap escapeChar

def isHighSurrogate (n : Nat) : Bool := 0xD800 ≤ n && n ≤ 0xDBFF

def isLowSurrogate (n : Nat) : Bool := 0xDC00 ≤ n && n ≤ 0xDFFF

/-- The characters that a written string stands for. A surrogate counts only as half of a pair. -/
def unescape : List Char → Option (List Char)
  | [] => some []
  | '\\' :: 'u' :: a :: b :: c :: d :: '\\' :: 'u' :: e :: f :: g :: h :: rest =>
      match hexValue4? a b c d, hexValue4? e f g h with
      | some m, some n =>
          if isHighSurrogate m then
            if isLowSurrogate n then
              (unescape rest).map (Char.ofNat (0x10000 + (m - 0xD800) * 0x400 + (n - 0xDC00)) :: ·)
            else none
          else if isLowSurrogate m then none
          else (unescape ('\\' :: 'u' :: e :: f :: g :: h :: rest)).map (Char.ofNat m :: ·)
      | _, _ => none
  | '\\' :: 'u' :: a :: b :: c :: d :: rest =>
      match hexValue4? a b c d with
      | some m =>
          if isHighSurrogate m || isLowSurrogate m then none
          else (unescape rest).map (Char.ofNat m :: ·)
      | none => none
  | '\\' :: c :: rest =>
      match shortEscape? c with
      | some e => (unescape rest).map (e :: ·)
      | none => none
  | c :: rest => (unescape rest).map (c :: ·)

def ofString (s : String) : Json := .text (escape s.toList)

def ofNat (n : Nat) : Json := .number (Nat.repr n).toList

def ofStrings (l : List String) : Json := .array (l.map ofString)

def ofMembers (l : List (String × Json)) : Json :=
  .object (l.map fun m => (escape m.1.toList, m.2))

def string? (written : List Char) : Option String :=
  (unescape written).map String.ofList

def asText? : Json → Option String
  | .text written => string? written
  | _ => none

def asBool? : Json → Option Bool
  | .bool b => some b
  | _ => none

def wordLimit : Nat := 18446744073709551616

/-- A whole number of 64 bits, written without sign, point or exponent. -/
def asNat? : Json → Option Nat
  | .number written =>
      if written.all Char.isDigit then
        let n := written.foldl (fun n c => n * 10 + (c.toNat - 0x30)) 0
        if n < wordLimit then some n else none
      else none
  | _ => none

def asList? {α : Type} (item : Json → Option α) : Json → Option (List α)
  | .array items => items.mapM item
  | _ => none

def asMembers? : Json → Option (List (String × Json))
  | .object members => members.mapM fun m => (string? m.1).map (·, m.2)
  | _ => none

def member? (name : String) : Json → Option Json
  | .object members =>
      (members.reverse.find? fun m => string? m.1 == some name).map (·.2)
  | _ => none

def only? (name : String) (members : List (String × Json)) : Option Json :=
  match members.filter (·.1 = name) with
  | [m] => some m.2
  | _ => none

/-- The values of a record's fields, in the order of `names`: from an object in which each name
stands exactly once among any others, or from an array with exactly these values. -/
def asRecord? (names : List String) : Json → Option (List Json)
  | .array items => if items.length = names.length then some items else none
  | j@(.object _) => j.asMembers?.bind fun members => names.mapM (only? · members)
  | _ => none

mutual

def depth : Json → Nat
  | .array items => 1 + depthItems items
  | .object members => 1 + depthMembers members
  | _ => 0

def depthItems : List Json → Nat
  | [] => 0
  | j :: js => max (depth j) (depthItems js)

def depthMembers : List (List Char × Json) → Nat
  | [] => 0
  | m :: ms => max (depth m.2) (depthMembers ms)

end

end Json

end EntityGraph

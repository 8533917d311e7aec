import EntityGraph.Toml

namespace EntityGraph.Toml

abbrev Parser := StateT (List Char) Option

/-- Arrays and inline tables nest, and keys are dotted, less deeply than this. -/
def depthLimit : Nat := 80

def isBlank (c : Char) : Bool := c = ' ' || c = '\t'

def isPlain (c : Char) : Bool := c = '\t' || (0x20 ≤ c.toNat && c.toNat ≠ 0x7F)

def isBareKey (c : Char) : Bool := c.isAlphanum || c = '_' || c = '-'

def isHex (c : Char) : Bool :=
  c.isDigit || ('a' ≤ c && c ≤ 'f') || ('A' ≤ c && c ≤ 'F')

def digitValue (c : Char) : Nat :=
  if c.isDigit then c.toNat - 0x30
  else if 'a' ≤ c then c.toNat - 0x57
  else c.toNat - 0x37

def valueOfDigits (base : Nat) (ds : List Char) : Nat :=
  ds.foldl (fun n d => n * base + digitValue d) 0

def startsWith (start cs : List Char) : Bool := start.isPrefixOf cs

def atLineEnd (cs : List Char) : Bool :=
  startsWith ['\n'] cs || startsWith ['\r', '\n'] cs

def dropLineEnd : List Char → List Char
  | '\n' :: rest => rest
  | '\r' :: '\n' :: rest => rest
  | cs => cs

def skipBlanks : Parser Unit := modify (·.dropWhile isBlank)

def literally (text : List Char) : Parser Unit := fun cs =>
  if startsWith text cs then some ((), cs.drop text.length) else none

def upcoming (n : Nat) : Parser (List Char) := do
  return (← get).take n

def taking {α : Type} (f : List Char → Option (α × List Char)) : Parser α := f

def refused {α : Type} : Parser α := fun _ => none

def require (b : Bool) : Parser Unit := if b then pure () else refused

def repeatedly {α : Type} (p : Parser α) : Nat → Parser (List α)
  | 0 => pure []
  | fuel + 1 => fun cs =>
      match p cs with
      | none => some ([], cs)
      | some (x, rest) => (repeatedly p fuel rest).map fun r => (x :: r.1, r.2)

def many {α : Type} (p : Parser α) : Parser (List α) := do
  repeatedly p (← get).length

def separated {α : Type} (p : Parser α) (separator : Parser Unit) : Parser (List α) := do
  let first ← p
  let others ← many (do separator; p)
  return first :: others

def comment : Parser Unit := do
  literally ['#']
  modify (·.dropWhile isPlain)

def lineEnd : Parser Unit := do
  let cs ← get
  require (atLineEnd cs)
  set (dropLineEnd cs)

def restOfLine : Parser Unit := do
  skipBlanks
  comment <|> pure ()
  if (← get).isEmpty then pure () else lineEnd

def skipLines : Parser Unit := do
  skipBlanks
  let _ ← many (do comment <|> pure (); lineEnd; skipBlanks)
  return ()

def escaped? : Char → Option Char
  | 'b' => some '\x08'
  | 't' => some '\t'
  | 'n' => some '\n'
  | 'f' => some '\x0c'
  | 'r' => some '\r'
  | '"' => some '"'
  | '\\' => some '\\'
  | _ => none

def charOfHex? (ds : List Char) : Option Char :=
  let n := valueOfDigits 16 ds
  if ds.all isHex && (n < 0xD800 || (0xE000 ≤ n && n < 0x110000)) then some (Char.ofNat n) else none

def consTo (c : Char) (r : Option (List Char × List Char)) : Option (List Char × List Char) :=
  r.map fun r => (c :: r.1, r.2)

def lineString : List Char → Option (List Char × List Char)
  | [] => none
  | '"' :: rest => some ([], rest)
  | '\\' :: 'u' :: a :: b :: c :: d :: rest =>
      (charOfHex? [a, b, c, d]).bind fun e => consTo e (lineString rest)
  | '\\' :: 'U' :: a :: b :: c :: d :: e :: f :: g :: h :: rest =>
      (charOfHex? [a, b, c, d, e, f, g, h]).bind fun i => consTo i (lineString rest)
  | '\\' :: c :: rest => (escaped? c).bind fun e => consTo e (lineString rest)
  | c :: rest => if isPlain c && c ≠ '\\' then consTo c (lineString rest) else none

/-- The end of a string of several lines, after three quotes: up to two more belong to it. -/
def closingQuotes (quote : Char) (rest : List Char) : List Char × List Char :=
  let extra := min 2 (rest.takeWhile (· = quote)).length
  (List.replicate extra quote, rest.drop extra)

/-- The characters of a string of several lines. A backslash at the end of a line joins what follows
the blanks and line ends after it; `joining` says that these are being passed over. -/
def blockString : Bool → List Char → Option (List Char × List Char)
  | _, [] => none
  | joining, '\r' :: '\n' :: rest =>
      if joining then blockString true rest else consTo '\n' (blockString false rest)
  | joining, '\n' :: rest =>
      if joining then blockString true rest else consTo '\n' (blockString false rest)
  | _, '"' :: '"' :: '"' :: rest => some (closingQuotes '"' rest)
  | _, '\\' :: 'u' :: a :: b :: c :: d :: rest =>
      (charOfHex? [a, b, c, d]).bind fun e => consTo e (blockString false rest)
  | _, '\\' :: 'U' :: a :: b :: c :: d :: e :: f :: g :: h :: rest =>
      (charOfHex? [a, b, c, d, e, f, g, h]).bind fun i => consTo i (blockString false rest)
  | _, '\\' :: c :: rest =>
      if atLineEnd ((c :: rest).dropWhile isBlank) then
        if c = '\r' then blockString true rest.tail else blockString true rest
      else (escaped? c).bind fun e => consTo e (blockString false rest)
  | joining, c :: rest =>
      if joining && isBlank c then blockString true rest
      else if isPlain c && c ≠ '\\' then consTo c (blockString false rest)
      else none
termination_by _ cs => cs.length
decreasing_by all_goals simp_wf; try omega

def lineLiteral : List Char → Option (List Char × List Char)
  | [] => none
  | '\'' :: rest => some ([], rest)
  | c :: rest => if isPlain c then consTo c (lineLiteral rest) else none

def blockLiteral : List Char → Option (List Char × List Char)
  | [] => none
  | '\r' :: '\n' :: rest => consTo '\n' (blockLiteral rest)
  | '\'' :: '\'' :: '\'' :: rest => some (closingQuotes '\'' rest)
  | c :: rest => if isPlain c || c = '\n' then consTo c (blockLiteral rest) else none

def simpleString : Parser String := do
  let cs ← taking fun cs =>
    match cs with
    | '"' :: rest => lineString rest
    | '\'' :: rest => lineLiteral rest
    | _ => none
  return String.ofList cs

def string : Parser String := do
  let opening ← upcoming 3
  if opening = ['"', '"', '"'] then
    literally opening
    return String.ofList (← taking fun cs => blockString false (dropLineEnd cs))
  else if opening = ['\'', '\'', '\''] then
    literally opening
    return String.ofList (← taking fun cs => blockLiteral (dropLineEnd cs))
  else simpleString

def bareKey : Parser String := fun cs =>
  match cs.span isBareKey with
  | ([], _) => none
  | (key, rest) => some (String.ofList key, rest)

def dottedKey : Parser (List String) := do
  let keys ← separated (do skipBlanks; let key ← simpleString <|> bareKey; skipBlanks; return key)
    (literally ['.'])
  require (keys.length < depthLimit)
  return keys

def moreDigits (isDigit : Char → Bool) : List Char → Option (List Char × List Char)
  | [] => some ([], [])
  | ['_'] => none
  | '_' :: d :: rest => if isDigit d then consTo d (moreDigits isDigit rest) else none
  | d :: rest => if isDigit d then consTo d (moreDigits isDigit rest) else some ([], d :: rest)

def digits1 (isDigit : Char → Bool) : Parser (List Char) := fun cs =>
  match cs with
  | d :: rest => if isDigit d then consTo d (moreDigits isDigit rest) else none
  | [] => none

def fixedDigits (n : Nat) : Parser Nat := do
  let ds ← upcoming n
  require (ds.length = n && ds.all Char.isDigit)
  literally ds
  return valueOfDigits 10 ds

def bounded (n low high : Nat) : Parser Nat := do
  let value ← fixedDigits n
  require (low ≤ value && value ≤ high)
  return value

def daysOf (year month : Nat) : Nat :=
  if month = 2 then
    if year % 4 = 0 ∧ (year % 100 ≠ 0 ∨ year % 400 = 0) then 29 else 28
  else if [4, 6, 9, 11].contains month then 30 else 31

def date : Parser Unit := do
  let year ← fixedDigits 4
  literally ['-']
  let month ← bounded 2 1 12
  literally ['-']
  let _ ← bounded 2 1 (daysOf year month)

def time : Parser Unit := do
  let _ ← bounded 2 0 23
  literally [':']
  let _ ← bounded 2 0 59
  literally [':']
  let _ ← bounded 2 0 60
  (do
    literally ['.']
    let _ ← bounded 1 0 9
    modify (·.dropWhile Char.isDigit)) <|> pure ()

def offset : Parser Unit :=
  literally ['Z'] <|> literally ['z'] <|> do
    literally ['+'] <|> literally ['-']
    let _ ← bounded 2 0 23
    literally [':']
    let _ ← bounded 2 0 59

def dateWithTime : Parser Unit := do
  date
  (do
    literally ['T'] <|> literally ['t'] <|> literally [' ']
    time
    offset <|> pure ()) <|> pure ()

def moment : Parser Value := do
  dateWithTime <|> time
  return .moment

def wordHalf : Int := 9223372036854775808

def inRange (n : Int) : Bool := -wordHalf ≤ n && n < wordHalf

def integer (n : Int) : Parser Value := do
  require (inRange n)
  return .integer n

def based (base : Nat) (isDigit : Char → Bool) : Parser Value := do
  let ds ← digits1 isDigit
  integer (valueOfDigits base ds)

def sign : Parser (Option Char) := fun cs =>
  match cs with
  | '-' :: rest => some (some '-', rest)
  | '+' :: rest => some (some '+', rest)
  | _ => some (none, cs)

def wholeDigits : Parser (List Char) := fun cs =>
  match cs with
  | '0' :: rest => some (['0'], rest)
  | _ => digits1 Char.isDigit cs

def exponent : Parser Int := do
  literally ['e'] <|> literally ['E']
  let s ← sign
  let n : Int := valueOfDigits 10 (← digits1 Char.isDigit)
  return if s = some '-' then -n else n

/-- Nothing above the range of a double is taken, though what lies below it is. -/
def float (negative : Bool) (digits : List Char) (exponent : Int) : Parser Value := do
  let x := Double.ofDecimal negative (valueOfDigits 10 digits) exponent
  require (x ≠ .infinite false)
  return .float x

def decimal : Parser Value := do
  let s ← sign
  let negative := s = some '-'
  let next ← upcoming 3
  if next = ['i', 'n', 'f'] then
    literally next
    return .float (.infinite negative)
  else if next = ['n', 'a', 'n'] then
    literally next
    return .float .notANumber
  else
    let whole ← wholeDigits
    let mark ← upcoming 1
    if mark = ['.'] then
      literally ['.']
      let fraction ← digits1 Char.isDigit
      let e ← exponent <|> pure 0
      float negative (whole ++ fraction) (e - fraction.length)
    else if mark = ['e'] ∨ mark = ['E'] then
      let e ← exponent
      float negative whole e
    else
      let n : Int := valueOfDigits 10 whole
      integer (if negative then -n else n)

def number : Parser Value := do
  let start ← upcoming 2
  if start = ['0', 'x'] then
    literally start
    based 16 isHex
  else if start = ['0', 'o'] then
    literally start
    based 8 fun c => '0' ≤ c && c ≤ '7'
  else if start = ['0', 'b'] then
    literally start
    based 2 fun c => c = '0' || c = '1'
  else decimal

def arrayItems (item : Parser Value) : Parser (List Value) := do
  literally ['[']
  let items ← separated (do skipLines; let v ← item; skipLines; return v) (literally [',']) <|>
    pure []
  if items.isEmpty then pure () else literally [','] <|> pure ()
  skipLines
  literally [']']
  return items

def inlineEntries (item : Parser Value) : Parser Entries := do
  literally ['{']
  skipBlanks
  let pair : Parser (List String × Value) := do
    let path ← dottedKey
    literally ['=']
    skipBlanks
    let v ← item
    skipBlanks
    return (path, v)
  let pairs ← separated pair (literally [',']) <|> pure []
  skipBlanks
  literally ['}']
  match pairs.foldlM (fun entries p => Entries.put p.1 p.2 entries) [] with
  | some entries => return entries
  | none => refused

def value (depth : Nat) : Parser Value := do
  match ← upcoming 1 with
  | ['"'] | ['\''] => return .text (← string)
  | ['t'] =>
      literally "true".toList
      return .boolean true
  | ['f'] =>
      literally "false".toList
      return .boolean false
  | ['['] =>
      match depth with
      | 0 => refused
      | depth + 1 => return .array (← arrayItems (value depth))
  | ['{'] =>
      match depth with
      | 0 => refused
      | depth + 1 => return .table .inline (← inlineEntries (value depth))
  | _ => moment <|> number

def keyValue (d : Draft) : Parser (Option Draft) := do
  let path ← dottedKey
  literally ['=']
  skipBlanks
  let v ← value (depthLimit - 1)
  restOfLine
  return d.put path v

def header (d : Draft) : Parser (Option Draft) := do
  if (← upcoming 2) = ['[', '['] then
    literally ['[', '[']
    let path ← dottedKey
    literally [']', ']']
    restOfLine
    return d.openElement path
  else
    literally ['[']
    let path ← dottedKey
    literally [']']
    restOfLine
    return d.openTable path

def line (d : Draft) : Parser (Option Draft) := do
  skipBlanks
  match ← upcoming 1 with
  | ['['] => header d
  | ['#'] | ['\n'] | ['\r'] | [] =>
      restOfLine
      return d
  | _ => keyValue d

/-- Each line takes a character, so the length of the text is fuel enough. -/
def lines : Nat → Draft → List Char → Option Draft
  | 0, d, cs => if cs.isEmpty then some d else none
  | fuel + 1, d, cs =>
      if cs.isEmpty then some d
      else
        match line d cs with
        | some (some d, rest) => lines fuel d rest
        | _ => none

def read (text : List Char) : Option Entries :=
  let cs := if text.head? = some '\uFEFF' then text.tail else text
  (lines cs.length .empty cs).map (·.root)

end EntityGraph.Toml

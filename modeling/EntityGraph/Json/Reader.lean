import EntityGraph.Json

namespace EntityGraph.Json

def isBlank (c : Char) : Bool :=
  c = ' ' || c = '\n' || c = '\t' || c = '\r'

def skipBlanks (cs : List Char) : List Char :=
  cs.dropWhile isBlank

def quoted : List Char → Option (List Char × List Char)
  | [] => none
  | '"' :: rest => some ([], rest)
  | '\\' :: 'u' :: a :: b :: c :: d :: rest =>
      if (hexValue4? a b c d).isSome then
        (quoted rest).map fun r => ('\\' :: 'u' :: a :: b :: c :: d :: r.1, r.2)
      else none
  | '\\' :: c :: rest =>
      if (shortEscape? c).isSome then (quoted rest).map fun r => ('\\' :: c :: r.1, r.2) else none
  | c :: rest =>
      if c.toNat < 0x20 ∨ c = '\\' then none else (quoted rest).map fun r => (c :: r.1, r.2)

def digits (cs : List Char) : List Char × List Char :=
  cs.span Char.isDigit

def digits1 (cs : List Char) : Option (List Char × List Char) :=
  match digits cs with
  | ([], _) => none
  | r => some r

def wholePart (cs : List Char) : Option (List Char × List Char) :=
  match cs with
  | '0' :: rest => if (rest.head?.map Char.isDigit).getD false then none else some (['0'], rest)
  | _ => digits1 cs

def fractionPart (cs : List Char) : Option (List Char × List Char) :=
  match cs with
  | '.' :: rest => (digits1 rest).map fun r => ('.' :: r.1, r.2)
  | _ => some ([], cs)

def exponentPart (cs : List Char) : Option (List Char × List Char) :=
  match cs with
  | e :: rest =>
      if e = 'e' ∨ e = 'E' then
        match rest with
        | s :: more =>
            if s = '+' ∨ s = '-' then (digits1 more).map fun r => (e :: s :: r.1, r.2)
            else (digits1 rest).map fun r => (e :: r.1, r.2)
        | [] => none
      else some ([], cs)
  | [] => some ([], cs)

def numeral (cs : List Char) : Option (List Char × List Char) :=
  let (sign, unsigned) := if cs.head? = some '-' then (['-'], cs.drop 1) else ([], cs)
  (wholePart unsigned).bind fun (whole, r) =>
    (fractionPart r).bind fun (fraction, r) =>
      (exponentPart r).map fun (exponent, r) => (sign ++ whole ++ fraction ++ exponent, r)

mutual

def value : Nat → List Char → Option (Json × List Char)
  | 0, _ => none
  | fuel + 1, cs =>
      match cs with
      | 'n' :: 'u' :: 'l' :: 'l' :: rest => some (.null, rest)
      | 't' :: 'r' :: 'u' :: 'e' :: rest => some (.bool true, rest)
      | 'f' :: 'a' :: 'l' :: 's' :: 'e' :: rest => some (.bool false, rest)
      | '"' :: rest => (quoted rest).map fun r => (.text r.1, r.2)
      | '[' :: rest =>
          match skipBlanks rest with
          | ']' :: more => some (.array [], more)
          | first => (items fuel first).map fun r => (.array r.1, r.2)
      | '{' :: rest =>
          match skipBlanks rest with
          | '}' :: more => some (.object [], more)
          | first => (members fuel first).map fun r => (.object r.1, r.2)
      | _ => (numeral cs).map fun r => (.number r.1, r.2)

def items : Nat → List Char → Option (List Json × List Char)
  | 0, _ => none
  | fuel + 1, cs =>
      match value fuel cs with
      | none => none
      | some (first, rest) =>
          match skipBlanks rest with
          | ']' :: more => some ([first], more)
          | ',' :: more => (items fuel (skipBlanks more)).map fun r => (first :: r.1, r.2)
          | _ => none

def members : Nat → List Char → Option (List (List Char × Json) × List Char)
  | 0, _ => none
  | fuel + 1, cs =>
      match cs with
      | '"' :: rest =>
          match quoted rest with
          | none => none
          | some (name, afterName) =>
              match skipBlanks afterName with
              | ':' :: afterColon =>
                  match value fuel (skipBlanks afterColon) with
                  | none => none
                  | some (first, afterValue) =>
                      match skipBlanks afterValue with
                      | '}' :: more => some ([(name, first)], more)
                      | ',' :: more =>
                          (members fuel (skipBlanks more)).map fun r => ((name, first) :: r.1, r.2)
                      | _ => none
              | _ => none
      | _ => none

end

/-- Reads one value with nothing but blanks around it. Each step of the reading takes a character,
so twice the length of the text is fuel enough. -/
def read (cs : List Char) : Option Json :=
  match value (2 * cs.length + 2) (skipBlanks cs) with
  | some (j, rest) => if (skipBlanks rest).isEmpty then some j else none
  | none => none

end EntityGraph.Json

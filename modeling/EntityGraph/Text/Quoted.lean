import EntityGraph.Text.Printable

namespace EntityGraph.Text.Quoted

def hexDigits (n : Nat) : List Char := Nat.toDigits 16 n

def encodeChar (c : Char) : List Char :=
  if c = '"' then ['\\', '"']
  else if c = '\\' then ['\\', '\\']
  else if c = '\n' then ['\\', 'n']
  else if c = '\r' then ['\\', 'r']
  else if c = '\t' then ['\\', 't']
  else if c.toNat = 0 then ['\\', '0']
  else if isPrintable c then [c]
  else ['\\', 'u', '{'] ++ hexDigits c.toNat ++ ['}']

def encode (cs : List Char) : List Char :=
  cs.flatMap encodeChar

def quoted (s : String) : String :=
  String.ofList (['"'] ++ encode s.toList ++ ['"'])

end EntityGraph.Text.Quoted

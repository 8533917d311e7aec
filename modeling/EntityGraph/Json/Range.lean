import EntityGraph.Double
import EntityGraph.Json

namespace EntityGraph.Json

def fitDigits (n : Nat) : List Char → Nat × List Char
  | [] => (n, [])
  | c :: cs =>
      let m := n * 10 + (c.toNat - 0x30)
      if m < wordLimit then fitDigits m cs else (n, c :: cs)

def natOfDigits (cs : List Char) : Nat :=
  cs.foldl (fun n c => n * 10 + (c.toNat - 0x30)) 0

def staysFinite (n : Nat) (exponent : Int) : Bool :=
  if n = 0 ∨ exponent ≤ 0 then true
  else if 308 < exponent then false
  else !((Double.ofDecimal false n 0).times (Double.ofDecimal false 1 exponent)).isInfinite

/-- Digits that do not fit 64 bits count only by their place. -/
def inRange (written : List Char) : Bool :=
  let unsigned := if written.head? = some '-' then written.drop 1 else written
  let whole := unsigned.takeWhile Char.isDigit
  let afterWhole := unsigned.dropWhile Char.isDigit
  let fraction :=
    if afterWhole.head? = some '.' then (afterWhole.drop 1).takeWhile Char.isDigit else []
  let tail := afterWhole.dropWhile fun c => c = '.' || c.isDigit
  let (n, extra) := fitDigits 0 whole
  let (m, used) :=
    if extra.isEmpty then
      let (m, left) := fitDigits n fraction
      (m, fraction.length - left.length)
    else (n, 0)
  let power := natOfDigits (tail.filter Char.isDigit)
  let negative := tail.any (· = '-')
  let start : Int := extra.length - used
  if 2147483648 ≤ power then negative || m = 0
  else staysFinite m (if negative then start - power else start + power)

mutual

def readable : Json → Bool
  | .number written => inRange written
  | .text written => (unescape written).isSome
  | .array items => readableItems items
  | .object members => readableMembers members
  | _ => true

def readableItems : List Json → Bool
  | [] => true
  | j :: js => readable j && readableItems js

def readableMembers : List (List Char × Json) → Bool
  | [] => true
  | m :: ms => (unescape m.1).isSome && readable m.2 && readableMembers ms

end

def depthLimit : Nat := 127

def isSound (j : Json) : Bool :=
  j.depth ≤ depthLimit && readable j

end EntityGraph.Json

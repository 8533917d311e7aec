/-!
Numbers of double precision: the nearest one to a decimal, and the shortest decimal that reads back.
A finite one is `mantissa * 2 ^ power` with a mantissa below `2 ^ 53` and a power of at least `-1074`.
-/

namespace EntityGraph

inductive Double where
  | finite (negative : Bool) (mantissa : Nat) (power : Int)
  | infinite (negative : Bool)
  | notANumber
  deriving DecidableEq, Repr

namespace Double

def lowestPower : Int := -1074

def highestPower : Int := 971

def halfLimit : Nat := 4503599627370496

def scaled (base n d : Nat) (power : Int) : Nat × Nat :=
  if power < 0 then (n * Nat.pow base (-power).toNat, d)
  else (n, d * Nat.pow base power.toNat)

def roundHalfEven (n d : Nat) : Nat :=
  let q := n / d
  let r := 2 * (n % d)
  if r < d then q else if d < r then q + 1 else q + q % 2

def powerFor (n d : Nat) : Int :=
  let guess : Int := (Nat.log2 n : Int) - Nat.log2 d - Nat.log2 halfLimit
  let (m, e) := scaled 2 n d guess
  max lowestPower (if m / e < halfLimit then guess - 1 else guess)

def ofFraction (negative : Bool) (n d : Nat) : Double :=
  if n = 0 then .finite negative 0 lowestPower
  else
    let power := powerFor n d
    let (m, e) := scaled 2 n d power
    let mantissa := roundHalfEven m e
    let (mantissa, power) :=
      if mantissa = 2 * halfLimit then (halfLimit, power + 1) else (mantissa, power)
    if highestPower < power then .infinite negative else .finite negative mantissa power

def digitCount (n : Nat) : Nat := if n = 0 then 0 else (Nat.toDigits 10 n).length

def ofDecimal (negative : Bool) (digits : Nat) (exponent : Int) : Double :=
  let place := exponent + digitCount digits
  if digits = 0 ∨ place < -330 then .finite negative 0 lowestPower
  else if 310 < place then .infinite negative
  else
    let (n, d) := scaled 10 digits 1 (-exponent)
    ofFraction negative n d

def isInfinite : Double → Bool
  | .infinite _ => true
  | _ => false

def times : Double → Double → Double
  | .finite a m p, .finite b n q =>
      let (x, y) := scaled 2 (m * n) 1 (-(p + q))
      ofFraction (a != b) x y
  | .infinite a, .infinite b => .infinite (a != b)
  | .infinite a, .finite b n _ | .finite b n _, .infinite a =>
      if n = 0 then .notANumber else .infinite (a != b)
  | .notANumber, _ | _, .notANumber => .notANumber

/-- Whether `n / d` rounds to the number, for a mantissa above zero. The gap below a power of two is
half as wide as the one above. -/
def covers (mantissa : Nat) (power : Int) (n d : Nat) : Bool :=
  let narrow := mantissa = halfLimit ∧ lowestPower < power
  let (x, y) := scaled 2 n d (power - 2)
  let low := (4 * mantissa - if narrow then 1 else 2) * y
  let high := (4 * mantissa + 2) * y
  if mantissa % 2 = 0 then low ≤ x && x ≤ high else low < x && x < high

def placesOf (n d : Nat) : Int :=
  if d ≤ n then digitCount (n / d) else 1 - (digitCount ((d - 1) / n) : Int)

def shortestFrom (mantissa : Nat) (power : Int) (n d : Nat) : Nat → Nat → Nat × Int
  | 0, _ => (mantissa, 0)
  | fuel + 1, k =>
      let exponent := placesOf n d - k
      let (x, y) := scaled 10 n d exponent
      let below := x / y
      let hits (digits : Nat) : Bool :=
        let (a, b) := scaled 10 digits 1 (-exponent)
        covers mantissa power a b
      let above := if 2 * (x % y) < y then [below, below + 1] else [below + 1, below]
      match above.find? hits with
      | some digits => (digits, exponent)
      | none => shortestFrom mantissa power n d fuel (k + 1)

def shortest (mantissa : Nat) (power : Int) : Nat × Int :=
  let (n, d) := scaled 2 mantissa 1 (-power)
  shortestFrom mantissa power n d 17 1

def positional (digits : List Char) (exponent : Int) : List Char :=
  if 0 ≤ exponent then digits ++ List.replicate exponent.toNat '0' ++ ['.', '0']
  else
    let places := (-exponent).toNat
    let padded := List.replicate (places + 1 - digits.length) '0' ++ digits
    padded.take (padded.length - places) ++ ['.'] ++ padded.drop (padded.length - places)

def signed (negative : Bool) (cs : List Char) : String :=
  String.ofList (if negative then '-' :: cs else cs)

def text : Double → String
  | .notANumber => "NaN"
  | .infinite negative => signed negative "inf".toList
  | .finite negative mantissa power =>
      if mantissa = 0 then signed negative ['0', '.', '0']
      else
        let (digits, exponent) := shortest mantissa power
        signed negative (positional (Nat.toDigits 10 digits) exponent)

end Double

end EntityGraph

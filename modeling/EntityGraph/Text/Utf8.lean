/-!
UTF-8. `Utf8.units` cuts a byte list into characters and ill-formed pieces; the strict and the
lenient reading are two views of that one cut. An ill-formed piece is the longest prefix of the rest
that could still have become a character, or else a single byte.
-/

namespace EntityGraph.Utf8

def encode (cs : List Char) : List UInt8 :=
  cs.flatMap String.utf8EncodeChar

def ofString (s : String) : List UInt8 :=
  encode s.toList

structure Pending where
  bits : Nat
  missing : Nat
  low : Nat
  high : Nat

inductive Lead where
  | whole (unit : Option Char)
  | begun (pending : Pending)

def lead (byte : UInt8) : Lead :=
  let b := byte.toNat
  if b < 0x80 then .whole (some (Char.ofNat b))
  else if b < 0xC2 then .whole none
  else if b < 0xE0 then .begun ⟨b - 0xC0, 1, 0x80, 0xBF⟩
  else if b = 0xE0 then .begun ⟨0, 2, 0xA0, 0xBF⟩
  else if b = 0xED then .begun ⟨0xD, 2, 0x80, 0x9F⟩
  else if b < 0xF0 then .begun ⟨b - 0xE0, 2, 0x80, 0xBF⟩
  else if b = 0xF0 then .begun ⟨0, 3, 0x90, 0xBF⟩
  else if b < 0xF4 then .begun ⟨b - 0xF0, 3, 0x80, 0xBF⟩
  else if b = 0xF4 then .begun ⟨4, 3, 0x80, 0x8F⟩
  else .whole none

def Pending.accepts (p : Pending) (byte : UInt8) : Bool :=
  p.low ≤ byte.toNat && byte.toNat ≤ p.high

def Pending.push (p : Pending) (byte : UInt8) : Pending :=
  ⟨p.bits * 64 + (byte.toNat - 0x80), p.missing - 1, 0x80, 0xBF⟩

def unitsFrom : Option Pending → List UInt8 → List (Option Char)
  | none, [] => []
  | some _, [] => [none]
  | none, byte :: rest =>
      match lead byte with
      | .whole unit => unit :: unitsFrom none rest
      | .begun p => unitsFrom (some p) rest
  | some p, byte :: rest =>
      if p.accepts byte then
        if p.missing = 1 then some (Char.ofNat (p.push byte).bits) :: unitsFrom none rest
        else unitsFrom (some (p.push byte)) rest
      else
        none :: match lead byte with
          | .whole unit => unit :: unitsFrom none rest
          | .begun q => unitsFrom (some q) rest

def units (bytes : List UInt8) : List (Option Char) :=
  unitsFrom none bytes

def decode? (bytes : List UInt8) : Option (List Char) :=
  (units bytes).mapM id

def decodeLossy (bytes : List UInt8) : List Char :=
  (units bytes).map (·.getD '\uFFFD')

def toStringLossy (bytes : List UInt8) : String :=
  String.ofList (decodeLossy bytes)

end EntityGraph.Utf8

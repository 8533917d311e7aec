namespace EntityGraph.Blake3

abbrev Chain := Vector UInt32 8

abbrev Words := Vector UInt32 16

def start : Chain :=
  #v[0x6A09E667, 0xBB67AE85, 0x3C6EF372, 0xA54FF53A, 0x510E527F, 0x9B05688C, 0x1F83D9AB, 0x5BE0CD19]

def permutation : Vector (Fin 16) 16 :=
  #v[2, 6, 3, 10, 7, 0, 4, 13, 1, 11, 12, 5, 9, 14, 15, 8]

def chunkStart : UInt32 := 1
def chunkEnd : UInt32 := 2
def parentFlag : UInt32 := 4
def rootFlag : UInt32 := 8

def blockSize : Nat := 64
def chunkSize : Nat := 1024

def rotateRight (x : UInt32) (n : UInt32) : UInt32 := (x >>> n) ||| (x <<< (32 - n))

def mix (s : Words) (a b c d : Fin 16) (x y : UInt32) : Words :=
  let a₁ := s[a] + s[b] + x
  let d₁ := rotateRight (s[d] ^^^ a₁) 16
  let c₁ := s[c] + d₁
  let b₁ := rotateRight (s[b] ^^^ c₁) 12
  let a₂ := a₁ + b₁ + y
  let d₂ := rotateRight (d₁ ^^^ a₂) 8
  let c₂ := c₁ + d₂
  let b₂ := rotateRight (b₁ ^^^ c₂) 7
  (((s.set a a₂).set b b₂).set c c₂).set d d₂

def round (s m : Words) : Words :=
  let s := mix s 0 4 8 12 m[0] m[1]
  let s := mix s 1 5 9 13 m[2] m[3]
  let s := mix s 2 6 10 14 m[4] m[5]
  let s := mix s 3 7 11 15 m[6] m[7]
  let s := mix s 0 5 10 15 m[8] m[9]
  let s := mix s 1 6 11 12 m[10] m[11]
  let s := mix s 2 7 8 13 m[12] m[13]
  mix s 3 4 9 14 m[14] m[15]

def permute (m : Words) : Words := permutation.map fun i => m[i]

def rounds : Nat → Words → Words → Words
  | 0, s, _ => s
  | n + 1, s, m => rounds n (round s m) (permute m)

structure Input where
  chain : Chain
  block : Words
  counter : UInt64
  size : UInt32
  flags : UInt32

namespace Input

def compress (i : Input) : Chain :=
  let s : Words :=
    i.chain ++ #v[start[0], start[1], start[2], start[3], i.counter.toUInt32,
      (i.counter >>> 32).toUInt32, i.size, i.flags]
  let s := rounds 7 s i.block
  Vector.ofFn fun k : Fin 8 => s[k.val] ^^^ s[k.val + 8]

def flagged (i : Input) (flag : UInt32) : Input := { i with flags := i.flags ||| flag }

end Input

def parts (size : Nat) : Nat → List UInt8 → List (List UInt8)
  | 0, bytes => [bytes]
  | fuel + 1, bytes =>
      match bytes.drop size with
      | [] => [bytes]
      | rest => bytes.take size :: parts size fuel rest

def word (bytes : List UInt8) (i : Nat) : UInt32 :=
  let at_ (k : Nat) : UInt32 := (bytes.getD (4 * i + k) 0).toUInt32
  at_ 0 ||| (at_ 1 <<< 8) ||| (at_ 2 <<< 16) ||| (at_ 3 <<< 24)

def words (block : List UInt8) : Words := Vector.ofFn fun i : Fin 16 => word block i.val

def ofBlocks (counter : UInt64) : Chain → UInt32 → List (List UInt8) → Input
  | chain, flags, [] => ⟨chain, words [], counter, 0, flags ||| chunkEnd⟩
  | chain, flags, [b] => ⟨chain, words b, counter, b.length.toUInt32, flags ||| chunkEnd⟩
  | chain, flags, b :: rest =>
      ofBlocks counter (Input.compress ⟨chain, words b, counter, b.length.toUInt32, flags⟩) 0 rest

def ofChunk (counter : UInt64) (chunk : List UInt8) : Input :=
  ofBlocks counter start chunkStart (parts blockSize chunk.length chunk)

def ofParent (left right : Input) : Input :=
  ⟨start, left.compress ++ right.compress, 0, blockSize.toUInt32, parentFlag⟩

def leftSize (n : Nat) : Nat := Nat.pow 2 (Nat.log2 (n - 1))

def ofChunks : Nat → UInt64 → List (List UInt8) → Input
  | 0, counter, chunks => ofChunk counter (chunks.headD [])
  | fuel + 1, counter, chunks =>
      if chunks.length ≤ 1 then ofChunk counter (chunks.headD [])
      else
        let n := leftSize chunks.length
        ofParent (ofChunks fuel counter (chunks.take n))
          (ofChunks fuel (counter + n.toUInt64) (chunks.drop n))

def digest (bytes : List UInt8) : Chain :=
  let chunks := parts chunkSize bytes.length bytes
  ((ofChunks chunks.length 0 chunks).flagged rootFlag).compress

def hexDigit (n : UInt32) : Char :=
  let n := n.toNat
  if n < 10 then Char.ofNat (n + 0x30) else Char.ofNat (n + 0x57)

def hexByte (b : UInt32) : List Char := [hexDigit ((b >>> 4) &&& 15), hexDigit (b &&& 15)]

def hexWord (w : UInt32) : List Char :=
  hexByte w ++ hexByte (w >>> 8) ++ hexByte (w >>> 16) ++ hexByte (w >>> 24)

def hex (bytes : List UInt8) : String :=
  String.ofList ((digest bytes).toList.flatMap hexWord)

end EntityGraph.Blake3

/-!
# A 256-bit digest

The digest that turns a seed text into a number: SHA-256 over a list of bytes.
The message is padded to blocks of 64 bytes; each block is expanded to 64 words
and mixed into eight words of state.
-/

namespace FixtureKeywords.Digest

def roundConstants : List UInt32 :=
  [ 0x428a2f98, 0x71374491, 0xb5c0fbcf, 0xe9b5dba5, 0x3956c25b, 0x59f111f1, 0x923f82a4, 0xab1c5ed5,
    0xd807aa98, 0x12835b01, 0x243185be, 0x550c7dc3, 0x72be5d74, 0x80deb1fe, 0x9bdc06a7, 0xc19bf174,
    0xe49b69c1, 0xefbe4786, 0x0fc19dc6, 0x240ca1cc, 0x2de92c6f, 0x4a7484aa, 0x5cb0a9dc, 0x76f988da,
    0x983e5152, 0xa831c66d, 0xb00327c8, 0xbf597fc7, 0xc6e00bf3, 0xd5a79147, 0x06ca6351, 0x14292967,
    0x27b70a85, 0x2e1b2138, 0x4d2c6dfc, 0x53380d13, 0x650a7354, 0x766a0abb, 0x81c2c92e, 0x92722c85,
    0xa2bfe8a1, 0xa81a664b, 0xc24b8b70, 0xc76c51a3, 0xd192e819, 0xd6990624, 0xf40e3585, 0x106aa070,
    0x19a4c116, 0x1e376c08, 0x2748774c, 0x34b0bcb5, 0x391c0cb3, 0x4ed8aa4a, 0x5b9cca4f, 0x682e6ff3,
    0x748f82ee, 0x78a5636f, 0x84c87814, 0x8cc70208, 0x90befffa, 0xa4506ceb, 0xbef9a3f7, 0xc67178f2 ]

/-- The eight words of state between two blocks. -/
structure State where
  a : UInt32
  b : UInt32
  c : UInt32
  d : UInt32
  e : UInt32
  f : UInt32
  g : UInt32
  h : UInt32
deriving DecidableEq, Repr

/-- The state before the first block. -/
def start : State :=
  ⟨0x6a09e667, 0xbb67ae85, 0x3c6ef372, 0xa54ff53a, 0x510e527f, 0x9b05688c, 0x1f83d9ab, 0x5be0cd19⟩

/-- Rotates a word to the right by fewer than 32 places. -/
def rotate (x n : UInt32) : UInt32 :=
  (x >>> n) ||| (x <<< (32 - n))

/-- The word that four bytes write, the most significant one first. -/
def wordOf (bytes : List UInt8) : UInt32 :=
  bytes.foldl (fun w b => (w <<< 8) ||| b.toUInt32) 0

/-- The message with a one bit, zeros and its length in bits, a multiple of 64
bytes long. -/
def padMessage (message : List UInt8) : List UInt8 :=
  let zeros := (119 - message.length % 64) % 64
  let bits := 8 * message.length
  message ++ 0x80 :: List.replicate zeros 0 ++
    (List.range 8).map fun i => UInt8.ofNat (bits / Nat.pow 256 (7 - i))

/-- Cuts a list into parts of `size` items; there are at most `parts` of them. -/
def cut (size : Nat) : Nat → List α → List (List α)
  | 0, _ => []
  | _, [] => []
  | parts + 1, items => items.take size :: cut size parts (items.drop size)

/-- Extends the words of a block by `more` words; `last` holds the sixteen latest
words, the latest one first. -/
def expand : Nat → List UInt32 → List UInt32
  | 0, _ => []
  | more + 1, last =>
      let w2 := last.getD 1 0
      let w7 := last.getD 6 0
      let w15 := last.getD 14 0
      let w16 := last.getD 15 0
      let s0 := rotate w15 7 ^^^ rotate w15 18 ^^^ (w15 >>> 3)
      let s1 := rotate w2 17 ^^^ rotate w2 19 ^^^ (w2 >>> 10)
      let word := w16 + s0 + w7 + s1
      word :: expand more (word :: last.take 15)

/-- The 64 words that a block is expanded to. -/
def schedule (block : List UInt32) : List UInt32 :=
  block ++ expand 48 block.reverse

def round (s : State) (input : UInt32 × UInt32) : State :=
  let (constant, word) := input
  let s1 := rotate s.e 6 ^^^ rotate s.e 11 ^^^ rotate s.e 25
  let choice := (s.e &&& s.f) ^^^ (~~~s.e &&& s.g)
  let t1 := s.h + s1 + choice + constant + word
  let s0 := rotate s.a 2 ^^^ rotate s.a 13 ^^^ rotate s.a 22
  let majority := (s.a &&& s.b) ^^^ (s.a &&& s.c) ^^^ (s.b &&& s.c)
  ⟨t1 + (s0 + majority), s.a, s.b, s.c, s.d + t1, s.e, s.f, s.g⟩

/-- Mixes one block of 64 bytes into the state. -/
def absorb (s : State) (block : List UInt8) : State :=
  let words := (cut 4 16 block).map wordOf
  let r := (roundConstants.zip (schedule words)).foldl round s
  ⟨s.a + r.a, s.b + r.b, s.c + r.c, s.d + r.d, s.e + r.e, s.f + r.f, s.g + r.g, s.h + r.h⟩

def State.words (s : State) : List UInt32 :=
  [s.a, s.b, s.c, s.d, s.e, s.f, s.g, s.h]

/-- The digest of a message as a number, its first byte the most significant one. -/
def number (message : List UInt8) : Nat :=
  let padded := padMessage message
  let final := (cut 64 (padded.length / 64) padded).foldl absorb start
  final.words.foldl (fun n w => n * Nat.pow 2 32 + w.toNat) 0

end FixtureKeywords.Digest

import FixtureKeywords.Random.DrawProgram

/-!
# The Mersenne Twister

The generator of pseudo-random words behind every seeded run: 624 words of state,
refilled together and tempered one by one. It is seeded by an integer, whose
absolute value is read as a key of 32-bit words.

A number below a bound is drawn by taking as many bits as the bound has and
trying again while the number is too large. More than half of all tries succeed;
after `tryLimit` failures the last number is reduced to the bound instead, which
no seeded state is known to reach.
-/

namespace FixtureKeywords

/-- The state: the words and how many of them were used. -/
structure Twister where
  words : Array UInt32
  used : Nat

namespace Twister

/-- The number of words of state. -/
def size : Nat := 624

/-- The words that a single seed word spreads to. -/
def spread (seed : UInt32) : Array UInt32 :=
  (List.range (size - 1)).foldl (fun (words : Array UInt32) (i : Nat) =>
    let last := words.getD i 0
    words.push ((1812433253 : UInt32) * (last ^^^ (last >>> 30)) + UInt32.ofNat (i + 1))) #[seed]

/-- A place in the words while a key is mixed in, with the position in the key. -/
structure Mixing where
  words : Array UInt32
  place : Nat
  turn : Nat

/-- Moves to the next word; after the last one the first word is renewed. -/
def Mixing.advance (m : Mixing) : Mixing :=
  if m.place + 1 < size then { m with place := m.place + 1 }
  else { m with words := m.words.setIfInBounds 0 (m.words.getD (size - 1) 0), place := 1 }

def Mixing.addKey (key : Array UInt32) (m : Mixing) : Mixing :=
  let last := m.words.getD (m.place - 1) 0
  let word := (m.words.getD m.place 0 ^^^ ((last ^^^ (last >>> 30)) * 1664525)) +
    key.getD m.turn 0 + UInt32.ofNat m.turn
  let next := { m with
    words := m.words.setIfInBounds m.place word
    turn := if m.turn + 1 < key.size then m.turn + 1 else 0 }
  next.advance

/-- Mixes the state once more without the key. -/
def Mixing.settle (m : Mixing) : Mixing :=
  let last := m.words.getD (m.place - 1) 0
  let word := (m.words.getD m.place 0 ^^^ ((last ^^^ (last >>> 30)) * 1566083941)) -
    UInt32.ofNat m.place
  Mixing.advance { m with words := m.words.setIfInBounds m.place word }

/-- The state seeded by a key of at least one word. -/
def ofKey (key : Array UInt32) : Twister :=
  let mixed := (List.range (max size key.size)).foldl (fun (m : Mixing) _ => m.addKey key)
    ⟨spread 19650218, 1, 0⟩
  let settled := (List.range (size - 1)).foldl (fun (m : Mixing) _ => m.settle) mixed
  ⟨settled.words.setIfInBounds 0 0x80000000, size⟩

/-- The 32-bit words of a number, the least significant one first; at least one. -/
def keyOf (n : Nat) : Array UInt32 :=
  let count := max 1 ((n.log2 + 32) / 32)
  ((List.range count).map fun i => UInt32.ofNat (n >>> (32 * i))).toArray

/-- The state seeded by an integer. -/
def ofInt (seed : Int) : Twister :=
  ofKey (keyOf seed.natAbs)

/-- Renews one word of the state. -/
def refillWord (words : Array UInt32) (i : Nat) : Array UInt32 :=
  let y := (words.getD i 0 &&& 0x80000000) ||| (words.getD ((i + 1) % size) 0 &&& 0x7fffffff)
  let odd : UInt32 := if y &&& 1 = 1 then 0x9908b0df else 0
  words.setIfInBounds i (words.getD ((i + 397) % size) 0 ^^^ (y >>> 1) ^^^ odd)

def temper (word : UInt32) : UInt32 :=
  let y := word ^^^ (word >>> 11)
  let y := y ^^^ ((y <<< 7) &&& 0x9d2c5680)
  let y := y ^^^ ((y <<< 15) &&& 0xefc60000)
  y ^^^ (y >>> 18)

/-- The next word of output. -/
def next (t : Twister) : UInt32 × Twister :=
  if t.used < size then (temper (t.words.getD t.used 0), { t with used := t.used + 1 })
  else
    let words := (List.range size).foldl refillWord t.words
    (temper (words.getD 0 0), ⟨words, 1⟩)

/-- The next `k` bits as a number. Several words are put together with the first
one least significant; the last word gives its high bits. -/
def bits (k : Nat) (t : Twister) : Nat × Twister :=
  if k ≤ 32 then
    let (word, t) := t.next
    (word.toNat >>> (32 - k), t)
  else
    let (word, t) := t.next
    let (high, t) := bits (k - 32) t
    (word.toNat + high <<< 32, t)
termination_by k

/-- How often a number is drawn again before it is reduced. -/
def tryLimit : Nat := 10000

/-- Draws a number below `n`, trying at most `tries` times. -/
def belowWithin (n : Nat) (positive : 0 < n) : Nat → Twister → Fin n × Twister
  | 0, t =>
      let (r, t) := t.bits (n.log2 + 1)
      (⟨r % n, Nat.mod_lt r positive⟩, t)
  | tries + 1, t =>
      let (r, t) := t.bits (n.log2 + 1)
      if h : r < n then (⟨r, h⟩, t) else belowWithin n positive tries t

def source : Source Twister where
  below n positive t := belowWithin n positive tryLimit t

end Twister

end FixtureKeywords

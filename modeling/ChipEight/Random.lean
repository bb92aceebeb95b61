/-!
# The random source

Random bytes come from a counter-based generator. Its whole state is a key of two 32-bit words, and
the key is never advanced in place: it is split into a key to go on with and a key to spend. The
same key always gives the same byte, so a machine's bytes depend on its seed and on how many have
been drawn, and on nothing else.

## The mixing function

`Key.threefry` is Threefry-2x32 with twenty rounds. Five groups of four rounds alternate between two
lists of rotations, and after each group the key is added in again, together with the number of the
group.
-/

namespace ChipEight

/-- The state of the random source. -/
structure Key where
  /-- The first word. -/
  hi : UInt32
  /-- The second word. -/
  lo : UInt32
deriving DecidableEq, Repr

namespace Key

def rotateLeft (w turn : UInt32) : UInt32 := (w <<< turn) ||| (w >>> (32 - turn))

/-- One round: the first word takes in the second, which is turned and takes in the first. -/
def round (x : Key) (turn : UInt32) : Key :=
  let hi := x.hi + x.lo
  { hi, lo := rotateLeft x.lo turn ^^^ hi }

/-- Four rounds, after which a part of the key is added in. -/
def rounds (x : Key) (turns : List UInt32) (hi lo : UInt32) : Key :=
  let y := turns.foldl round x
  { hi := y.hi + hi, lo := y.lo + lo }

/-- The rotations of the first, third and fifth group of rounds. -/
def evenTurns : List UInt32 := [13, 15, 26, 6]

/-- The rotations of the second and fourth group of rounds. -/
def oddTurns : List UInt32 := [17, 29, 16, 24]

/-- The pair of words that a key makes of a pair of words. -/
def threefry (k c : Key) : Key :=
  let third := k.hi ^^^ k.lo ^^^ 0x1BD11BDA
  let x : Key := { hi := c.hi + k.hi, lo := c.lo + k.lo }
  let x := rounds x evenTurns k.lo (third + 1)
  let x := rounds x oddTurns third (k.hi + 2)
  let x := rounds x evenTurns k.hi (k.lo + 3)
  let x := rounds x oddTurns k.lo (third + 4)
  rounds x evenTurns third (k.hi + 5)

/-- The key to go on with. -/
def next (k : Key) : Key := k.threefry ⟨0, 0⟩

/-- The key to spend. -/
def spent (k : Key) : Key := k.threefry ⟨0, 1⟩

def byte (k : Key) : BitVec 8 :=
  let drawn := k.spent.spent.threefry ⟨0, 0⟩
  BitVec.ofNat 8 (drawn.hi ^^^ drawn.lo).toNat

/-- The first key of a seed, which keeps its low 32 bits. -/
def ofSeed (seed : Int) : Key := ⟨0, UInt32.ofInt seed⟩

end Key

end ChipEight

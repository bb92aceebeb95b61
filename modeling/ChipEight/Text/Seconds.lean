/-!
# Seconds with two decimals

A time span is a double-precision number of seconds and is written with two decimals, at least eight
characters wide. The exact value of the double is rounded, a tie to the even hundredth, so that the
text never depends on a second rounding: `0.125` is a tie and gives `0.12`, while `0.005` is stored
slightly above the tie and gives `0.01`.

## Decoding

The bits of a double give it as `m · 2 ^ q` with whole `m` and `q`. Hundredths of it are then a
quotient of natural numbers, and rounding is arithmetic on `Nat`.
-/

namespace ChipEight.Seconds

/-- The whole number nearest to `num / den`, the even one of two equally near. -/
def roundDiv (num den : Nat) : Nat :=
  let q := num / den
  let twice := 2 * (num % den)
  if twice < den then q else if den < twice then q + 1 else q + q % 2

/-- A finite or infinite double, taken apart. -/
inductive Parts where
  /-- A value `± m · 2 ^ q`. -/
  | finite (negative : Bool) (m : Nat) (q : Int)
  /-- A value beyond all numbers. -/
  | infinite (negative : Bool)
  /-- No value at all. -/
  | undefined
deriving DecidableEq, Repr

/-- The leading bit of a double, which is not stored. -/
def implicitBit : Nat := 0x10000000000000

/-- The parts of a double, read off its bits. -/
def Parts.ofFloat (x : Float) : Parts :=
  let bits := x.toBits.toNat
  let negative := decide (bits >>> 63 = 1)
  let exponent : Nat := (bits >>> 52) % 0x800
  let fraction := bits % implicitBit
  if exponent = 2047 then
    if fraction = 0 then .infinite negative else .undefined
  else if exponent = 0 then .finite negative fraction (-1074)
  else .finite negative (implicitBit + fraction) ((exponent : Int) - 1075)

/-- The hundredths in `m · 2 ^ q`, rounded. -/
def hundredths (m : Nat) (q : Int) : Nat :=
  if 0 ≤ q then (m * 100) <<< q.toNat else roundDiv (m * 100) (1 <<< (-q).toNat)

def digits : Parts → List Char
  | .finite negative m q =>
    let h := hundredths m q
    (if negative then ['-'] else []) ++ Nat.toDigits 10 (h / 100) ++
      '.' :: Nat.toDigits 10 (h / 10 % 10) ++ Nat.toDigits 10 (h % 10)
  | .infinite negative => (if negative then ['-'] else []) ++ "inf".toList
  | .undefined => "nan".toList

/-- A time span in seconds, two decimals and at least eight characters wide. -/
def text (x : Float) : String :=
  let cs := digits (Parts.ofFloat x)
  String.ofList (List.replicate (8 - cs.length) ' ' ++ cs)

end ChipEight.Seconds

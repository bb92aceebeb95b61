import ChipEight.Text.Numeral
import ChipEight.Text.Seconds

/-!
# Numbers of bytes in words

A number of bytes is written in the greatest unit that it reaches, each unit 1024 times the one
before. Below a thousand of the unit it has three digits, from there on all digits in front of the
point. The point is always written, except behind plain bytes.

Only the first 53 binary digits of the number count, as many as a double-precision number keeps.
-/

namespace ChipEight.ByteCount

def units : List String := ["bytes", "KiB", "MiB", "GiB", "TiB", "PiB", "EiB"]

/-- The digits of a number with a point in front of the last ones. -/
def pointed (places n : Nat) : String :=
  let digits := Numeral.zeroPadded (places + 1) (Nat.toDigits 10 n)
  String.ofList (digits.take (digits.length - places)) ++ "." ++
    String.ofList (digits.drop (digits.length - places))

/-- A number of bytes in a unit, with three digits or with all in front of the point. -/
def amount (bytes unit : Nat) : String :=
  let hundredths := Seconds.roundDiv (100 * bytes) unit
  let tenths := Seconds.roundDiv (10 * bytes) unit
  if hundredths < 1000 then pointed 2 hundredths
  else if tenths < 1000 then pointed 1 tenths
  else pointed 0 (Seconds.roundDiv bytes unit)

/-- A number of bytes in the given unit or a greater one, `scale` bytes being one of the unit. -/
def inUnits (bytes scale : Nat) : List String → String
  | [] => ""
  | [unit] => amount bytes scale ++ " " ++ unit
  | unit :: larger =>
    if Seconds.roundDiv bytes scale < 1024 then amount bytes scale ++ " " ++ unit
    else inUnits bytes (1024 * scale) larger

/-- A number rounded to 53 binary digits. -/
def significant (n : Nat) : Nat :=
  let dropped := n.log2 - 52
  Seconds.roundDiv n (1 <<< dropped) <<< dropped

def text (bytes : Nat) : String :=
  if bytes < 1024 then Numeral.text bytes ++ " bytes"
  else inUnits (significant bytes) 1024 units.tail

end ChipEight.ByteCount

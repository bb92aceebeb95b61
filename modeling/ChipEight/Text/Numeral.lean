/-!
# Numerals

The machine speaks of addresses and opcodes in hexadecimal, of sizes and counts in decimal. Every
numeral is written as a list of characters, so that its length and its digits can be reasoned about,
and becomes a string only where it is placed in a sentence.

## Padding

A padded numeral is filled with zeros on the left up to a least width. The sign of a negative number
counts towards that width, and a numeral that is already wider is left whole.
-/

namespace ChipEight.Numeral

def hexDigits (n : Nat) : List Char := (Nat.toDigits 16 n).map Char.toUpper

/-- Zeros in front of `digits` up to the given width. -/
def zeroPadded (width : Nat) (digits : List Char) : List Char :=
  List.replicate (width - digits.length) '0' ++ digits

/-- A hexadecimal numeral of at least the given width, a minus sign included. -/
def hex (width : Nat) : Int → List Char
  | .ofNat n => zeroPadded width (hexDigits n)
  | .negSucc n => '-' :: zeroPadded (width - 1) (hexDigits (n + 1))

def decimal : Int → List Char
  | .ofNat n => Nat.toDigits 10 n
  | .negSucc n => '-' :: Nat.toDigits 10 (n + 1)

/-- Digits, last one first, with a comma after every third. -/
private def groupedReversed : List Char → List Char
  | a :: b :: c :: d :: rest => a :: b :: c :: ',' :: groupedReversed (d :: rest)
  | rest => rest

/-- The decimal numeral of a whole number with its digits in groups of three. -/
def grouped : Int → List Char
  | .ofNat n => (groupedReversed (Nat.toDigits 10 n).reverse).reverse
  | .negSucc n => '-' :: (groupedReversed (Nat.toDigits 10 (n + 1)).reverse).reverse

def text (v : Int) : String := String.ofList (decimal v)

/-- An address or opcode as it is quoted in messages, with `0x` in front. -/
def hexText (width : Nat) (v : Int) : String := "0x" ++ String.ofList (hex width v)

theorem length_zeroPadded (width : Nat) (digits : List Char) :
    (zeroPadded width digits).length = max width digits.length := by
  simp [zeroPadded]; omega

end ChipEight.Numeral

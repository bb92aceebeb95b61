import ChipEight.Failure
import ChipEight.Text.Integer

/-!
# Progress bars

What a progress bar says about a run: its description, how much there is to do, and in what unit.

There are two reasons why a number of ticks has no bar. The usual description writes the number
down, which cannot be done if it has too many digits; and a bar measures its length with
double-precision numbers, so the number must not be beyond all of these. The description is made
first.
-/

namespace ChipEight

/-- The labels of a progress bar. -/
structure ProgressBar where
  /-- What is being done. -/
  description : String
  /-- How much there is to do. -/
  total : Int
  /-- What is counted. -/
  unit : String
deriving DecidableEq, Repr

namespace ProgressBar

/-- The least size of a number that is nearer to `2 ^ 1024` than to the greatest double: the number
half a step below `2 ^ 1024`, where doubles are `2 ^ 971` apart. -/
def limit : Nat := (1 <<< 1024) - (1 <<< 970)

def usualDescription (ticks : Int) : Except RangeError String :=
  if Integer.maxDigits < (Nat.toDigits 10 ticks.natAbs).length then .error .digits
  else .ok ("Running (" ++ String.ofList (Numeral.grouped ticks) ++ " ticks)")

/-- The progress bar of a run of some ticks. -/
def forTicks (ticks : Int) (description : Option String) : Except RangeError ProgressBar := do
  let description ← match description with
    | some text => .ok text
    | none => usualDescription ticks
  if limit ≤ ticks.natAbs then throw .double
  return { description, total := ticks, unit := "tick" }

end ProgressBar

end ChipEight

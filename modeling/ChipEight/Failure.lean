import ChipEight.Fault

/-!
# Failures

An operation of the machine fails in one of two ways. Either the program is at fault, and the answer
is a `Fault`; or the operation was handed something that it cannot work with, such as a number too
wide for the cell it is meant for. The second way says nothing about the program and has no place
in it, so the two are told apart by the type.

The operands of a decoded instruction all fit. What may not fit are the operands of instructions
that are put together by hand, and the sides of a screen: places on a screen are computed with
32-bit numbers, and a screen can be longer than these can say.
-/

namespace ChipEight

/-- The places of the operands of a computation. A remainder has a right operand of its own. -/
inductive Side where
  | left
  | right
  | divisor
deriving DecidableEq, Repr

def Side.word : Side → String
  | .left => "x"
  | .right => "y"
  | .divisor => "x2"

/-- A number that does not fit where it is to be kept. -/
inductive RangeError where
  /-- An opcode of more than sixteen bits. -/
  | opcode (value : Int)
  /-- A value outside a cell of the given number of bits. -/
  | cell (bits : Nat) (value : Int)
  /-- A value outside the signed 32-bit numbers. -/
  | int32 (value : Int)
  /-- An operand of a computation that is outside the signed 32-bit numbers. -/
  | operand (side : Side) (value : Int)
  /-- A value outside the signed 64-bit numbers. -/
  | int64
  /-- A value beyond all double-precision numbers. -/
  | double
  /-- A value with too many digits to be written down. -/
  | digits
deriving DecidableEq, Repr

def RangeError.message : RangeError → String
  | .opcode value => "opcode out of 16-bit range: " ++ Numeral.text value
  | .cell bits value =>
    "Python integer " ++ Numeral.text value ++ " out of bounds for uint" ++ Numeral.text bits
  | .int32 value => "Python int " ++ Numeral.text value ++ " too large to convert to int32"
  | .operand side value =>
    "An overflow was encountered while parsing an argument to a jitted computation, whose " ++
      "argument path is " ++ side.word ++ ". Got <class 'int'> with value " ++ Numeral.text value
  | .int64 => "Python int too large to convert to C long"
  | .double => "int too large to convert to float"
  | .digits =>
    "Exceeds the limit (4300 digits) for integer string conversion; use " ++
      "sys.set_int_max_str_digits() to increase the limit"

/-- A place that does not exist in a row of bytes counted from either end. -/
inductive IndexError where
  /-- A place in front of a list. -/
  | list
  /-- A place in front of a memory of the given size. -/
  | axis (index : Int) (size : Nat)
  /-- A place too far in front of a list to be counted. -/
  | tooWide
  /-- A place too far in front of a memory to be counted. -/
  | noIndex
deriving DecidableEq, Repr

def IndexError.message : IndexError → String
  | .list => "list index out of range"
  | .axis index size =>
    "index " ++ Numeral.text index ++ " is out of bounds for axis 0 with size " ++ Numeral.text size
  | .tooWide => "cannot fit 'int' into an index-sized integer"
  | .noIndex =>
    "only integers, slices (`:`), ellipsis (`...`), numpy.newaxis (`None`) and integer or " ++
      "boolean arrays are valid indices"

/-- Why an operation of the machine has no result. -/
inductive Failure where
  /-- The program is at fault. -/
  | fault (f : Fault)
  /-- A number does not fit. -/
  | range (e : RangeError)
  /-- A place does not exist. -/
  | index (e : IndexError)
  /-- The states of some other number of keys were given. -/
  | keyStates (count : Nat)
  /-- A name that no file can have was given. -/
  | fileName (reason : AccessError)
deriving DecidableEq, Repr

def Failure.message : Failure → String
  | .fault f => f.message
  | .range e => e.message
  | .index e => e.message
  | .keyStates count =>
    "expected " ++ Numeral.text keyCount ++ " key states, got " ++ Numeral.text count
  | .fileName reason => reason.reason

/-- Whether a number is a signed number of the given bits, so that nothing is lost when it is kept
as one. -/
def fitsSigned (bits : Nat) (v : Int) : Bool := (BitVec.ofInt bits v).toInt == v

/-- The cell content that a number is, if nothing is lost when the cell keeps it. -/
def exactCell (bits : Nat) (v : Int) : Except RangeError (BitVec bits) :=
  let cell := BitVec.ofInt bits v
  if !fitsSigned 64 v then .error .int64
  else if (cell.toNat : Int) = v then .ok cell
  else .error (.cell bits v)

/-- The cell content that is left of a number, which only has to fit 32 bits. -/
def wrappedCell (bits : Nat) (v : Int) : Except RangeError (BitVec bits) :=
  if fitsSigned 32 v then .ok (BitVec.ofInt bits v) else .error (.int32 v)

/-- The cell content that is left of an operand of a computation, which only has to fit 32 bits. -/
def operandCell (side : Side) (bits : Nat) (v : Int) : Except RangeError (BitVec bits) :=
  if fitsSigned 32 v then .ok (BitVec.ofInt bits v) else .error (.operand side v)

end ChipEight

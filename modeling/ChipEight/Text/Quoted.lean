import ChipEight.Text.Visible

/-!
# Quoted text

Names that come from outside are quoted when a message repeats them, so that blanks and control
characters in them can be seen. A quoted text stands between single quotes, or between double
quotes when it holds a single quote and no double one; a quote of the kind that surrounds it, a
backslash and every character without a visible form are escaped.
-/

namespace ChipEight.Quoted

/-- A number in hexadecimal with small letters and exactly the given width. -/
private def code (width n : Nat) : List Char :=
  let digits := Nat.toDigits 16 n
  List.replicate (width - digits.length) '0' ++ digits

/-- A character as it stands between quotes of the given kind. -/
def escape (quote c : Char) : List Char :=
  if c = quote || c = '\\' then ['\\', c]
  else if c = '\n' then ['\\', 'n']
  else if c = '\r' then ['\\', 'r']
  else if c = '\t' then ['\\', 't']
  else if Visible.isVisible c then [c]
  else if c.toNat < 0x100 then '\\' :: 'x' :: code 2 c.toNat
  else if c.toNat < 0x10000 then '\\' :: 'u' :: code 4 c.toNat
  else '\\' :: 'U' :: code 8 c.toNat

/-- The kind of quote that surrounds a text. -/
def quoteFor (cs : List Char) : Char :=
  if cs.contains '\'' && !cs.contains '"' then '"' else '\''

def quoted (s : String) : String :=
  let quote := quoteFor s.toList
  String.ofList (quote :: s.toList.flatMap (escape quote) ++ [quote])

end ChipEight.Quoted

/-!
# Log levels

Five levels, from the chattiest to the gravest. A level is named by its word in capitals; a name is
read in any mixture of small and capital letters, where a letter counts as the capital that it has.

## Capitals

The only letters outside ASCII whose capital occurs in the name of a level is the dotless `ı`, the
capital of which is `I`.
-/

namespace ChipEight

/-- How grave a log record is. -/
inductive Level where
  | debug
  | info
  | warning
  | error
  | critical
deriving DecidableEq, Repr

namespace Level

def all : List Level := [.debug, .info, .warning, .error, .critical]

def rank : Level → Nat
  | .debug => 0
  | .info => 1
  | .warning => 2
  | .error => 3
  | .critical => 4

instance : LE Level := ⟨fun a b ↦ a.rank ≤ b.rank⟩

instance (a b : Level) : Decidable (a ≤ b) := inferInstanceAs (Decidable (a.rank ≤ b.rank))

def name : Level → String
  | .debug => "DEBUG"
  | .info => "INFO"
  | .warning => "WARNING"
  | .error => "ERROR"
  | .critical => "CRITICAL"

def nameList : String :=
  "[" ++ String.intercalate ", " (all.map fun l ↦ "'" ++ l.name ++ "'") ++ "]"

/-- The capital of a letter, as far as it can occur in the name of a level. -/
def capital (c : Char) : Char := if c = 'ı' then 'I' else c.toUpper

def ofName? (s : String) : Option Level :=
  all.find? fun l ↦ l.name.toList == s.toList.map capital

/-- The escape sequence of the colour in which a terminal shows a level. -/
def colour : Level → String
  | .debug => "\x1b[36m"
  | .info => "\x1b[32m"
  | .warning => "\x1b[33m"
  | .error => "\x1b[31m"
  | .critical => "\x1b[35m"

end Level

/-- The escape sequence that ends a colour. -/
def plainColour : String := "\x1b[0m"

/-- Why a name is not taken for a level. -/
inductive LevelError where
  /-- The level of a logger cannot be set to the name. -/
  | setting (name : String)
  /-- A record cannot have the name as its level. -/
  | record
deriving DecidableEq, Repr

def LevelError.message : LevelError → String
  | .setting name => "Unknown log level '" ++ name ++ "'. Available: " ++ Level.nameList
  | .record => "tuple.index(x): x not in tuple"

end ChipEight

import ChipEight.Picture.Error

/-!
# Nested lists

A host may give pixels and buffers as lists of lists. Such a list is a block if all of its parts have
the same shape, and then has one length for each of its dimensions.

## Surveys

The shape is found by walking through the list once, from front to back. The first way down to an
element sets the lengths, and every part after it has to agree with them. A part that does not agree
makes the list ragged: the dimensions from there on are given up, and the survey goes on with the
ones that are left, so that it ends with the shape up to the first disagreement.

A list that is nested more deeply than a block can be is ragged as well, but then all dimensions are
left.
-/

namespace ChipEight

/-- Elements and lists of them, nested in any way. -/
inductive Nested (α : Type) where
  /-- An element. -/
  | one (a : α)
  /-- A list of elements or of lists. -/
  | many (items : List (Nested α))

instance {α : Type} : Inhabited (Nested α) := ⟨.many []⟩

/-- What is known of the shape of a nested list. -/
structure Survey where
  /-- The number of dimensions that are left. -/
  depth : Nat
  /-- The lengths in the dimensions, the outermost first. -/
  lengths : List Nat := []
  /-- Whether an element has been met, so that the lengths are settled. -/
  settled : Bool := false
  /-- Whether some parts do not agree. -/
  ragged : Bool := false
deriving DecidableEq, Repr

namespace Survey

/-- The greatest number of dimensions of a block. -/
def maxDepth : Nat := 64

/-- What an element tells that is met inside the given number of lists. -/
def meetElement (s : Survey) (level : Nat) : Survey :=
  if level = s.depth then { s with settled := true }
  else { s with depth := level, settled := true, ragged := s.ragged || s.settled }

/-- What a list in the innermost dimension tells, where there should be elements. -/
def meetTooDeep (s : Survey) : Survey := { s with settled := true, ragged := true }

/-- Whether a list of the given length does not agree with what has been settled. -/
def disagrees (s : Survey) (level length : Nat) : Bool :=
  s.settled && s.lengths[level]? != some length

def giveUp (s : Survey) (level : Nat) : Survey := { s with depth := level, ragged := true }

/-- What the length of a list tells that is met inside the given number of lists and agrees. -/
def meetLength (s : Survey) (level length : Nat) : Survey :=
  if s.settled then s else { s with lengths := s.lengths.take level ++ [length] }

/-- What it tells that a list is empty: it is in the innermost dimension. -/
def meetNothing (s : Survey) (level : Nat) : Survey :=
  { s with depth := level + 1, settled := true }

end Survey

namespace Nested

variable {α : Type}

mutual

/-- Surveys a part that lies inside the given number of lists. -/
def survey (level : Nat) (s : Survey) : Nested α → Survey
  | .one _ => s.meetElement level
  | .many items =>
    if level = s.depth then s.meetTooDeep
    else if s.disagrees level items.length then s.giveUp level
    else
      let t := s.meetLength level items.length
      if items.isEmpty then t.meetNothing level else surveyAll (level + 1) t items

/-- Surveys parts that lie inside the given number of lists, one after the other. -/
def surveyAll (level : Nat) (s : Survey) : List (Nested α) → Survey
  | [] => s
  | first :: rest => surveyAll level (survey level s first) rest

end

mutual

def elements : Nested α → List α
  | .one a => [a]
  | .many items => elementsAll items

def elementsAll : List (Nested α) → List α
  | [] => []
  | first :: rest => elements first ++ elementsAll rest

end

def parts : Nested α → List (Nested α)
  | .one _ => []
  | .many items => items

/-- The lengths of a nested list in its dimensions, the outermost first. -/
def shape (n : Nested α) : Except PictureError (List Nat) :=
  let s := n.survey 0 { depth := Survey.maxDepth }
  if !s.ragged then .ok (s.lengths.take s.depth)
  else if s.depth = Survey.maxDepth then .error (.tooDeep Survey.maxDepth)
  else .error (.ragged (s.lengths.take s.depth))

end Nested

end ChipEight

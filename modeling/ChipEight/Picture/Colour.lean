import ChipEight.Byte

/-!
# Colours

A colour has three components of one byte each. Colour schemes are pairs of colours with a name, one
colour for lit pixels and one for the others.
-/

namespace ChipEight

structure Colour where
  /-- The red component. -/
  red : Byte
  /-- The green component. -/
  green : Byte
  /-- The blue component. -/
  blue : Byte
deriving DecidableEq, Repr

/-- A colour for each state of a pixel. -/
structure Palette where
  /-- The colour of lit pixels. -/
  on : Colour
  /-- The colour of the other pixels. -/
  off : Colour
deriving DecidableEq, Repr

/-- The named palettes. -/
inductive Scheme where
  /-- Green on black. -/
  | classic
  /-- Amber on black. -/
  | amber
  /-- White on black. -/
  | white
  /-- Cyan on dark blue. -/
  | blue
  /-- Yellow on purple. -/
  | retro
deriving DecidableEq, Repr

namespace Scheme

def all : List Scheme := [.classic, .amber, .white, .blue, .retro]

def name : Scheme → String
  | .classic => "classic"
  | .amber => "amber"
  | .white => "white"
  | .blue => "blue"
  | .retro => "retro"

def palette : Scheme → Palette
  | .classic => { on := ⟨0, 255, 0⟩, off := ⟨0, 0, 0⟩ }
  | .amber => { on := ⟨255, 176, 0⟩, off := ⟨0, 0, 0⟩ }
  | .white => { on := ⟨255, 255, 255⟩, off := ⟨0, 0, 0⟩ }
  | .blue => { on := ⟨0, 255, 255⟩, off := ⟨0, 0, 64⟩ }
  | .retro => { on := ⟨255, 255, 0⟩, off := ⟨64, 0, 64⟩ }

def ofName? (s : String) : Option Scheme := all.find? fun c ↦ c.name == s

/-- The names of all schemes as a bracketed list of quoted words. -/
def nameList : String :=
  "[" ++ String.intercalate ", " (all.map fun c ↦ "'" ++ c.name ++ "'") ++ "]"

end Scheme

end ChipEight

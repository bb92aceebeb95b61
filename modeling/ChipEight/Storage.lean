import ChipEight.Byte
import ChipEight.Text.Numeral
import ChipEight.Text.Quoted

/-!
# Storage

Programs are read from named files and screenshots are written to them. All that the machine needs
of a file system is what a name leads to, so a store is a pair of functions: one answers with the
bytes behind a name, the other says whether a picture can be put there.

A name is a row of parts with slashes between them. An empty part or a single dot stands for the
directory that it is met in, which is what `Storage.tidy` makes use of.
-/

namespace ChipEight

/-- Why a name does not lead to a file. -/
inductive AccessError where
  /-- Nothing has this name. -/
  | missing
  /-- The file may not be used. -/
  | denied
  /-- A part of the name that should be a directory is a file. -/
  | notDirectory
  /-- The name is that of a directory. -/
  | directory
  /-- A part of the name is longer than names can be. -/
  | nameTooLong
  /-- The name holds a null character, which no name can. -/
  | nullInName
deriving DecidableEq, Repr

namespace AccessError

def number : AccessError → Option Nat
  | .missing => some 2
  | .denied => some 13
  | .notDirectory => some 20
  | .directory => some 21
  | .nameTooLong => some 36
  | .nullInName => none

def reason : AccessError → String
  | .missing => "No such file or directory"
  | .denied => "Permission denied"
  | .notDirectory => "Not a directory"
  | .directory => "Is a directory"
  | .nameTooLong => "File name too long"
  | .nullInName => "embedded null byte"

def message (e : AccessError) (name : String) : String :=
  match e.number with
  | some n => "[Errno " ++ Numeral.text n ++ "] " ++ e.reason ++ ": " ++ Quoted.quoted name
  | none => e.reason

end AccessError

/-- What names lead to. -/
structure Storage where
  /-- The contents of the file of a name. -/
  read : String → Except AccessError (List Byte)
  /-- Whether a file of a name can be written. -/
  checkWritable : String → Except AccessError Unit

namespace Storage

def parts (name : String) : List String := (name.toList.splitOn '/').map String.ofList

/-- Whether a part of a name stands for the directory that it is met in. -/
def staysPut (part : String) : Bool := part = "" || part = "."

/-- The slashes in front of a name that count: one, or exactly two. -/
def root (name : String) : String :=
  match name.toList with
  | '/' :: '/' :: '/' :: _ => "/"
  | '/' :: '/' :: _ => "//"
  | '/' :: _ => "/"
  | _ => ""

/-- A name without the parts and slashes that do not count. -/
def tidy (name : String) : String :=
  let tidied := root name ++ String.intercalate "/" ((parts name).filter fun p ↦ !staysPut p)
  if tidied = "" then "." else tidied

end Storage

end ChipEight

import ChipEight.CommandLine.Run
import ChipEight.Picture.FileFormat

/-!
# The program

Runs the command line that the program was started with: fetches the file that holds the program of
the machine, prints the report and writes the picture. All decisions are those of `CommandLine.run`;
a picture that turns out not to be writable is reported by running once more with a store that says
so.
-/

namespace ChipEight

/-- What went wrong with a file, as far as it can be told. -/
def AccessError.ofSystem : IO.Error → AccessError
  | .permissionDenied _ _ _ => .denied
  | .inappropriateType _ code _ =>
    if code = 21 || code = 0 - 21 then .directory else .notDirectory
  | .invalidArgument (some name) _ _ =>
    if name.toList.contains '\x00' then .nullInName else .nameTooLong
  | _ => .missing

def readFile (name : String) : IO (Except AccessError (List Byte)) := do
  if name = "" then return .error .missing
  try
    let contents ← IO.FS.readBinFile name
    return .ok (contents.toList.map fun b ↦ b.toBitVec)
  catch e => return .error (.ofSystem e)

def writePicture (name : String) (shot : Screenshot) : IO (Except AccessError Unit) := do
  try
    IO.FS.writeBinFile name (ByteArray.mk (shot.bytes.map fun b ↦ UInt8.ofBitVec b).toArray)
    return .ok ()
  catch e => return .error (.ofSystem e)

/-- Prints a report and gives the status of its ending. -/
def CommandLine.Report.print (r : CommandLine.Report) : IO UInt32 := do
  IO.print r.output
  IO.eprint r.complaint
  match r.ending with
  | .exit status => return status.toUInt32
  | .broken b =>
    IO.eprintln (CommandLine.programName ++ ": " ++ b.message)
    return 1

/-- The store in which every name leads to the given contents. -/
def Storage.single (contents : Except AccessError (List Byte))
    (writable : Except AccessError Unit) : Storage where
  read := fun _ ↦ contents
  checkWritable := fun _ ↦ writable

def runProgram (arguments : List String) : IO UInt32 := do
  let contents ← match CommandLine.Request.ofArguments arguments with
    | .ok r => readFile r.rom
    | .error _ => pure (.error .missing)
  let report := fun writable ↦
    CommandLine.run arguments (FileFormat.host (.single contents writable)) (.plain .info)
  let first := report (.ok ())
  match first.image with
  | none => first.print
  | some (name, shot) => (report (← writePicture name shot)).print

end ChipEight

def main (arguments : List String) : IO UInt32 := ChipEight.runProgram arguments

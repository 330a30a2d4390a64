import ModalPanes.CommandLine.Program

/-!
# The executable

Runs the program on the files of the disk.
-/

open ModalPanes.CommandLine

def readErrorOf : IO.Error → ReadError
  | .noFileOrDirectory .. => .missing
  | .inappropriateType _ code _ => if code = 20 then .inFile else .directory
  | error => .other (toString error).toList

def readDisk (path : List Char) : IO (Except ReadError (List Char)) := do
  match ← (IO.FS.readBinFile (String.ofList path)).toBaseIO with
  | .error error => return .error (readErrorOf error)
  | .ok bytes =>
      match String.fromUTF8? bytes with
      | some text => return .ok text.toList
      | none => return .error .notText

/-- Run the program: what it prints goes to the output, the message of a failure to the error output. -/
def main (args : List String) : IO UInt32 := do
  let call := Call.ofArguments (args.map String.toList)
  if call = .refused then IO.eprint (String.ofList helpText)
  let outcome ← run readDisk call
  IO.print (String.ofList outcome.output)
  match outcome.failure with
  | some message => IO.eprintln ("vimux: " ++ String.ofList message)
  | none => pure ()
  return UInt32.ofNat outcome.code

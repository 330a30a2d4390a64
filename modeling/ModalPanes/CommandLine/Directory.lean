import ModalPanes.CommandLine.Program

/-!
# Directories in memory

The files of one directory with their texts, for running the program without a disk.
-/

namespace ModalPanes

namespace CommandLine

abbrev Directory := List (List Char × List Char)

namespace Directory

/-- Cut a path at its slashes. -/
def partsFrom (before : List Char) : List Char → List (List Char)
  | [] => [before.reverse]
  | '/' :: rest => before.reverse :: partsFrom [] rest
  | c :: rest => partsFrom (c :: before) rest

/-- Read a file: a path is a name, which may stand behind dots for the directory itself.  A path from the
root leads to no file of the directory. -/
def read (directory : Directory) (path : List Char) : Except ReadError (List Char) :=
  match (partsFrom [] path).dropWhile fun part => part == ['.'] || part.isEmpty with
  | [] => .error .directory
  | name :: further =>
      if path.head? = some '/' then .error .missing
      else
        match directory.lookup name with
        | none => .error .missing
        | some text => if further.isEmpty then .ok text else .error .inFile

def run (directory : Directory) (args : List (List Char)) : Outcome :=
  Id.run (CommandLine.run (fun path => pure (directory.read path)) (Call.ofArguments args))

end Directory

end CommandLine

end ModalPanes

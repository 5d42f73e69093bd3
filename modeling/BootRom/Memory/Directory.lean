import BootRom.Memory.Backing

/-!
# A directory of files

A working directory that holds some files and no further directories, and the
rules by which a path is followed from it: empty steps and `.` stay where they
are, `..` leaves for the directory above, and a step beyond a file, or to
something that is not there, ends the search. The directories above hold
nothing that can be read. A path, and each step of it, may be only so long.
-/

namespace BootRom.Memory

/-- A working directory, as the files in it with their names. -/
structure Directory where
  /-- the files, each under its name -/
  files : List (String × ByteArray)

namespace Directory

/-- The longest name of a file, in bytes. -/
def longestName : Nat := 255

/-- The longest path, in bytes. -/
def longestPath : Nat := 4095

/-- The steps of a path that lead somewhere else. -/
def steps (path : String) : List String :=
  (path.splitOn "/").filter fun step => step != "" && step != "."

/-- Whether a path starts from the root and not from the working directory. -/
def isAbsolute (path : String) : Bool := path.toList.head? == some '/'

/-- Whether a path ends with a step that only a directory allows. -/
def endsInDirectory (path : String) : Bool :=
  match (path.splitOn "/").getLast? with
  | some last => last == "" || last == "."
  | none => false

/-- What the file with a name holds. -/
def lookup (d : Directory) (name : String) : Option ByteArray := d.files.lookup name

/-- Follow the steps of a path: `here` says whether they start in the working directory and not
above it, and `closed` whether they must end in a directory. -/
def follow (d : Directory) (here closed : Bool) : List String → Except IoFault Node
  | [] => .ok .directory
  | step :: beyond =>
    if step = ".." then d.follow false closed beyond
    else if longestName < step.utf8ByteSize then .error .nameTooLong
    else
      match if here then d.lookup step else none with
      | none => .error .noSuchFile
      | some bytes =>
        if beyond.isEmpty && !closed then .ok (.file bytes) else .error .notADirectory

/-- What a path leads to. -/
def read (d : Directory) : Files := fun path =>
  if path.contains '\x00' then .error .pathWithNul
  else if longestPath < path.utf8ByteSize then .error .nameTooLong
  else if path = "" then .error .noSuchFile
  else d.follow (!isAbsolute path) (endsInDirectory path) (steps path)

end Directory

end BootRom.Memory

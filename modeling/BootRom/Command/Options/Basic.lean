import BootRom.Selection

/-!
# The options of a command line

A command line is a list of arguments: flags, options with a value, and
nothing else.

| short | long | |
|---|---|---|
| `-v` | `--verbose` | report more; may be given several times |
| `-l` | `--list` | list the names |
| `-r` | `--read` | write the payload of the file with this name |
| `-t` | `--type` | only files of this type |
| `-o` | `--rom` | the ROM image to read |
| `-h`, `-?` | `--help` | ask for help |

`Options` is what a command line comes to, `UsageError` why it comes to
nothing, and `Options.arguments` a command line that asks for given options.
-/

namespace BootRom.Command

/-! ## Options and mistakes -/

/-- The options that stand alone. -/
inductive Switch
  | verbose
  | list
  | help
  deriving DecidableEq, Repr

/-- The options that take a value. -/
inductive Setting
  | read
  | fileType
  | rom
  deriving DecidableEq, Repr

/-- The long name of an option with a value. -/
def Setting.name : Setting → String
  | .read => "--read"
  | .fileType => "--type"
  | .rom => "--rom"

/-- Any option. -/
inductive Choice
  | switch (s : Switch)
  | setting (s : Setting)
  deriving DecidableEq, Repr

/-- The option with a long name. -/
def Choice.ofName (name : List Char) : Option Choice :=
  match String.ofList name with
  | "verbose" => some (.switch .verbose)
  | "list" => some (.switch .list)
  | "help" => some (.switch .help)
  | "read" => some (.setting .read)
  | "type" => some (.setting .fileType)
  | "rom" => some (.setting .rom)
  | _ => none

/-- The option with a letter. -/
def Choice.ofLetter (letter : Char) : Option Choice :=
  match letter with
  | 'v' => some (.switch .verbose)
  | 'l' => some (.switch .list)
  | 'h' => some (.switch .help)
  | '?' => some (.switch .help)
  | 'r' => some (.setting .read)
  | 't' => some (.setting .fileType)
  | 'o' => some (.setting .rom)
  | _ => none

/-- Why a command line asks for nothing that can be done. -/
inductive UsageError
  /-- help is asked for -/
  | helpRequested
  /-- an argument is no option -/
  | unknownArgument (argument : String)
  /-- a flag is given a value -/
  | unexpectedValue (argument : String)
  /-- an option lacks its value -/
  | missingValue (s : Setting)
  /-- the path of the ROM image is empty -/
  | emptyPath
  /-- the type is no hexadecimal number -/
  | invalidType (text reason : String)
  /-- an option is given twice -/
  | repeated (option : String)
  /-- neither a list nor a file is asked for -/
  | nothingAsked
  deriving DecidableEq, Repr

/-- What a command line asks for. -/
structure Options where
  /-- how often more reports are asked for -/
  verbose : UInt8
  /-- what is wanted of the file table -/
  selection : Selection
  /-- the path of a ROM image -/
  rom : Option String
  deriving DecidableEq, Repr

/-! ## Writing a command line -/

/-- A command line that asks for given options. -/
def Options.arguments (o : Options) : List String :=
  List.replicate o.verbose.toNat "-v" ++
    (if o.selection.list then ["--list"] else []) ++
    (o.selection.read.map ("--read=" ++ ·)).toList ++
    (o.selection.fileType.map fun t => "--type=" ++ Text.hex t.toNat).toList ++
    (o.rom.map ("--rom=" ++ ·)).toList

end BootRom.Command

import BootRom.Command.Hex
import BootRom.Command.Options.Basic

/-!
# Reading a command line

Arguments are taken in from left to right, into a `Draft` of the options. A
value follows its option as the next argument, or is joined to it: by `=`
after a long name, directly or by `=` after a letter. Letters of flags can be
bundled.

An option that waits for a value keeps waiting, with or without one, until the
next option is met (`Draft.settle`); only then is its value looked at, so a
mistake in an argument that is no option at all is named first.
-/

namespace BootRom.Command

/-! ## Options read so far -/

/-- The options that were read so far. -/
structure Draft where
  /-- how often more reports were asked for -/
  verbose : UInt8
  /-- whether names were asked for -/
  list : Bool
  /-- the file asked for -/
  read : Option String
  /-- the type asked for -/
  fileType : Option UInt32
  /-- the path of a ROM image -/
  rom : Option String
  /-- an option that waits for its value, with the value once it was met -/
  waiting : Option (Setting × Option String)
  deriving DecidableEq, Repr

namespace Draft

/-- Nothing was read yet. -/
def empty : Draft := ⟨0, false, none, none, none, none⟩

/-- Take in the value of an option. -/
def store (d : Draft) (s : Setting) (value : String) : Except UsageError Draft :=
  match s with
  | .read =>
    if d.read.isSome then .error (.repeated s.name) else .ok { d with read := some value }
  | .fileType =>
    if d.fileType.isSome then .error (.repeated s.name)
    else
      match parseHex value with
      | .ok fileType => .ok { d with fileType := some fileType }
      | .error reason => .error (.invalidType value reason)
  | .rom =>
    if d.rom.isSome then .error (.repeated s.name)
    else if value = "" then .error .emptyPath
    else .ok { d with rom := some value }

/-- Finish with the option that waits, if one does. -/
def settle (d : Draft) : Except UsageError Draft :=
  match d.waiting with
  | none => .ok d
  | some (s, none) => .error (.missingValue s)
  | some (s, some value) => { d with waiting := none }.store s value

/-- Take in a flag. -/
def flip (d : Draft) (s : Switch) : Except UsageError Draft :=
  match d.settle with
  | .error e => .error e
  | .ok d =>
    match s with
    | .verbose => .ok { d with verbose := if d.verbose = 255 then 255 else d.verbose + 1 }
    | .list => if d.list then .error (.repeated "--list") else .ok { d with list := true }
    | .help => .error .helpRequested

/-- Take in an option with its value. -/
def assign (d : Draft) (s : Setting) (value : List Char) : Except UsageError Draft :=
  match d.settle with
  | .error e => .error e
  | .ok d => d.store s (String.ofList value)

/-- Take in an option whose value is to follow. -/
def await (d : Draft) (s : Setting) : Except UsageError Draft :=
  match d.settle with
  | .error e => .error e
  | .ok d => .ok { d with waiting := some (s, none) }

/-! ## Arguments -/

/-- The shapes of arguments. -/
inductive Shape
  /-- two dashes: no option follows -/
  | stop
  /-- a long name, perhaps with a value joined to it -/
  | long (name : List Char) (value : Option (List Char))
  /-- letters -/
  | letters (letters : List Char)
  /-- anything else -/
  | plain
  deriving DecidableEq, Repr

/-- A long option: its name, and what follows the first `=`. -/
def Shape.ofLong (text : List Char) : Shape :=
  let name := text.takeWhile (· != '=')
  match text.dropWhile (· != '=') with
  | [] => .long name none
  | _ :: value => .long name (some value)

/-- The shape of an argument. -/
def Shape.ofArgument (argument : List Char) : Shape :=
  match argument with
  | ['-', '-'] => .stop
  | '-' :: '-' :: text => .ofLong text
  | '-' :: letter :: rest => .letters (letter :: rest)
  | _ => .plain

/-- Take in bundled letters; a letter whose option takes a value takes the rest of the bundle. -/
def bundle (argument : String) : Draft → List Char → Except UsageError Draft
  | d, [] => .ok d
  | d, letter :: rest =>
    match Choice.ofLetter letter with
    | none => .error (.unknownArgument argument)
    | some (.switch s) =>
      match d.flip s with
      | .error e => .error e
      | .ok d => bundle argument d rest
    | some (.setting s) =>
      match rest with
      | [] => d.await s
      | '=' :: value => d.assign s value
      | value => d.assign s value

/-- Take in a long option. -/
def long (argument : String) (d : Draft) (name : List Char) (value : Option (List Char)) :
    Except UsageError Draft :=
  match Choice.ofName name, value with
  | none, _ => .error (.unknownArgument argument)
  | some (.switch s), none => d.flip s
  | some (.switch _), some _ => .error (.unexpectedValue argument)
  | some (.setting s), none => d.await s
  | some (.setting s), some value => d.assign s value

/-- Take in an argument that is no option: the value that is waited for, or a mistake. -/
def plain (argument : String) (d : Draft) : Except UsageError Draft :=
  match d.waiting with
  | some (s, none) => .ok { d with waiting := some (s, some argument) }
  | _ => .error (.unknownArgument argument)

/-- Take in all arguments. -/
def takeAll : Draft → List String → Except UsageError Draft
  | d, [] => d.settle
  | d, argument :: rest =>
    match Shape.ofArgument argument.toList with
    | .stop =>
      match rest with
      | [] => d.settle
      | next :: _ => .error (.unknownArgument next)
    | .long name value =>
      match d.long argument name value with
      | .error e => .error e
      | .ok d => takeAll d rest
    | .letters letters =>
      match d.bundle argument letters with
      | .error e => .error e
      | .ok d => takeAll d rest
    | .plain =>
      match d.plain argument with
      | .error e => .error e
      | .ok d => takeAll d rest

/-- The options of a command line that was read to its end, if it asks for something. -/
def finish (d : Draft) : Except UsageError Options :=
  if d.list || d.read.isSome then .ok ⟨d.verbose, ⟨d.list, d.read, d.fileType⟩, d.rom⟩
  else .error .nothingAsked

end Draft

/-! ## Command lines -/

/-- Read a command line. -/
def Options.parse (line : List String) : Except UsageError Options :=
  match Draft.empty.takeAll line with
  | .error e => .error e
  | .ok d => d.finish

end BootRom.Command

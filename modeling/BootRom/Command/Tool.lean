import BootRom.Command.LogFilter
import BootRom.Command.Options.Parser
import BootRom.Output.StandardOutput
import BootRom.Table.Run

/-!
# The command-line tool

The tool reads its options, opens the memory they name, locates the file table
and runs over it, writing to standard output. What it reports goes to standard
error, filtered; a failure ends it with one more line there and exit code 1.

All of it is a function of the command line and of the surroundings: the files
that can be read, the filter that is set, and the device behind standard
output. `run` is that function; `Options.carryOut` is its part after the options
are read, and `scan` the part after a memory is opened.
-/

namespace BootRom.Command

open Output

/-! ## Surroundings -/

/-- What a run of the tool depends on, its command line apart. -/
structure Surroundings where
  /-- the files that can be read -/
  files : Memory.Files
  /-- the filter for reports, if one is set -/
  filter : Option String
  /-- the device behind standard output -/
  device : Device

/-- The device that gives access to physical memory. -/
def memoryDevice : String := "/dev/mem"

/-! ## Scanning -/

/-- What is left after the tool has looked at a memory. -/
structure Scan where
  /-- what was reported -/
  events : List Event
  /-- what has reached standard output -/
  output : Bytes
  /-- how it ended -/
  outcome : Except Error Unit

/-- The report that a run is over, if it was a success. -/
def closing (outcome : Except Error Summary) : List Event :=
  match outcome with
  | .ok summary => [.scanned summary]
  | .error _ => []

/-- Run over a table, writing to standard output. The answer is what has reached the device, and how
the run ended. -/
def serve (s : Selection) (device : Device) (t : Table) :
    Traced Event (Bytes × Except Error Unit) :=
  let performed := t.run s (StandardOutput.onto device)
  ⟨performed.events ++ closing performed.outcome,
    .ok (StandardOutput.reached device performed.calls, performed.outcome.map fun _ => ())⟩

/-- Locate the file table below the top of a memory and run over it. -/
def scan (memory : Memory) (s : Selection) (device : Device) : Scan :=
  let served := Table.bracket (Table.locate memory Memory.topOfSpace) (serve s device)
  match served.outcome with
  | .ok (output, outcome) => ⟨served.trail, output, outcome⟩
  | .error e => ⟨served.trail, [], .error e⟩

section

variable {memory : Memory} {s : Selection} {device : Device}

/-- Where no table is located, nothing is written. -/
theorem scan_of_error {e : Error}
    (failed : (Table.locate memory Memory.topOfSpace).outcome = .error e) :
    scan memory s device = ⟨(Table.locate memory Memory.topOfSpace).trail, [], .error e⟩ := by
  rw [scan, Table.bracket_of_error failed]

/-- A table that is located is run over. -/
theorem scan_of_ok {t : Table}
    (located : (Table.locate memory Memory.topOfSpace).outcome = .ok t) :
    scan memory s device =
      ⟨(Table.locate memory Memory.topOfSpace).trail ++ (serve s device t).trail ++ [t.releasing],
        StandardOutput.reached device (t.run s (StandardOutput.onto device)).calls,
        (t.run s (StandardOutput.onto device)).outcome.map fun _ => ()⟩ := by
  rw [scan, Table.bracket_of_ok located]
  rfl

end

/-! ## The tool -/

/-- Why the tool fails. -/
inductive Failure
  /-- the ROM cannot be read as asked -/
  | rom (e : Error)
  /-- physical memory cannot be opened -/
  | physicalMemory (e : Error)
  deriving DecidableEq, Repr

/-- The wording of a failure. -/
def Failure.message : Failure → String
  | .rom e => e.message
  | .physicalMemory e => "physical memory access (are you root?): " ++ e.message

/-- What a run of the tool leaves. -/
structure Answer where
  /-- what was reported, shown or not -/
  events : List Event
  /-- what has reached standard output -/
  output : Bytes
  /-- how it ended -/
  outcome : Except Failure Unit

namespace Answer

/-- Zero for success and one for failure. -/
def exitCode (a : Answer) : UInt8 :=
  match a.outcome with
  | .ok () => 0
  | .error _ => 1

/-- The line that a failure ends with. -/
def failureLine (a : Answer) : String :=
  match a.outcome with
  | .ok () => ""
  | .error failure => "cbfs: " ++ failure.message ++ "\n"

/-- What is written to standard error. -/
def diagnostics (a : Answer) (f : LogFilter) : String :=
  String.join ((a.events.filter f.admits).map logLine) ++ a.failureLine

/-- Standard error is lines for reports that the filter admits, and then the line of a failure. -/
theorem diagnostics_eq (a : Answer) (f : LogFilter) :
    ∃ shown : List Event, (∀ event ∈ shown, f.admits event = true) ∧
      a.diagnostics f = String.join (shown.map logLine) ++ a.failureLine :=
  ⟨a.events.filter f.admits, fun _ found => (List.mem_filter.mp found).2, rfl⟩

end Answer

/-- Continue from a scan. -/
def Answer.ofScan (before : List Event) (s : Scan) : Answer :=
  ⟨before ++ s.events, s.output, s.outcome.mapError .rom⟩

/-- The report that a memory was placed, for an image. -/
def placement (path : String) : Memory → List Event
  | .image base _ => [.imagePlaced path base Memory.topOfSpace]
  | .file _ _ => []
  | .directory _ => []

/-- Carry out what the options ask for. -/
def Options.carryOut (o : Options) (around : Surroundings) : Answer :=
  match o.rom with
  | some path =>
    match Memory.openImage around.files path with
    | .error e => ⟨[], [], .error (.rom e)⟩
    | .ok memory => .ofScan (placement path memory) (scan memory o.selection around.device)
  | none =>
    match Memory.openFile around.files memoryDevice with
    | .error e => ⟨[], [], .error (.physicalMemory e)⟩
    | .ok memory => .ofScan [] (scan memory o.selection around.device)

/-! ## What is shown -/

/-- What a program leaves when it ends. -/
structure Ending where
  /-- the exit code -/
  exitCode : UInt8
  /-- what has reached standard output -/
  output : Bytes
  /-- what was written to standard error -/
  diagnostics : String

/-- The line that says how the tool is used. -/
def usageLine : String := "Usage: sudo cbfs [options]"

/-- The help that the tool gives. -/
def helpText : String :=
  String.join [
    "List or export files from the coreboot file system (CBFS) in the boot ROM.\n\n",
    usageLine, "\n\n",
    "Options:\n",
    "  -v, --verbose...   Increase verbosity (repeat for cursor arithmetic)\n",
    "  -r, --read <FILE>  Export a CBFS file to stdout\n",
    "  -l, --list         List the names of CBFS files\n",
    "  -t, --type <HEX>   Filter to specific CBFS file type (hex, e.g. 50)\n",
    "  -o, --rom <ROM>    Use a local ROM image instead of physical memory\n",
    "  -h, --help         This help\n"]

/-- The wording of a mistake in a command line. -/
def UsageError.message : UsageError → String
  | .helpRequested => ""
  | .unknownArgument argument => "error: unexpected argument '" ++ argument ++ "' found\n\n"
  | .unexpectedValue argument => "error: unexpected value in '" ++ argument ++ "'\n\n"
  | .missingValue s => "error: a value is required for '" ++ s.name ++ "' but none was supplied\n\n"
  | .emptyPath => "error: a value is required for '--rom' but none was supplied\n\n"
  | .invalidType text reason =>
    "error: invalid value '" ++ text ++ "' for '--type': " ++ reason ++ "\n\n"
  | .repeated option => "error: the argument '" ++ option ++ "' cannot be used multiple times\n\n"
  | .nothingAsked => "error: one of '--read' and '--list' is required\n\n"

/-- How a command line that cannot be carried out is met: with help, which is a success only where
help was asked for. -/
def Ending.ofUsage (e : UsageError) : Ending :=
  ⟨if e = .helpRequested then 0 else 1, [], e.message ++ helpText⟩

/-- A run of the tool, from the command line to its end. -/
def run (around : Surroundings) (line : List String) : Ending :=
  match Options.parse line with
  | .error e => .ofUsage e
  | .ok o =>
    let answer := o.carryOut around
    ⟨answer.exitCode, answer.output, answer.diagnostics (.choose around.filter o.verbose)⟩

end BootRom.Command

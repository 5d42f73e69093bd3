import BootRom.Command.Tool
import BootRom.Proofs.LineBuffer
import BootRom.Proofs.Opening

/-!
# The tool is the library

What the tool does with a ROM image is what the library does with it by itself: place the
image, locate its table, run over it. The tool adds its command line, the buffer of
standard output, its reports and the wording of a failure, and none of these changes
what is written or how it ends.

* A `Collector` is a writer that takes everything and keeps it; `Collected.ofImage` is the
  library by itself, on such a writer.
* `scan_of_working`: on a working device a scan comes to the same.
* `run_eq_collected` is the comparison of the whole tool with the library.
-/

namespace BootRom

open Output

/-! ## Collecting -/

/-- A writer that keeps all that it is offered. -/
structure Output.Collector where
  /-- what it was offered so far -/
  taken : Bytes
  deriving DecidableEq, Repr

namespace Output.Collector

/-- A collector that was offered nothing yet. -/
def empty : Collector := ⟨[]⟩

instance : Writer Collector where
  write c offered := (.ok offered.length, ⟨c.taken ++ offered⟩)
  flush c := (.ok (), c)

theorem unfailing (c : Collector) : Unfailing c := by
  refine ⟨fun _ => True, trivial, ?_, ?_⟩
  · intro c offered _ some_offered
    exact ⟨offered.length, _, rfl, List.length_pos_iff.mpr some_offered, trivial⟩
  · intro c _
    exact ⟨c, rfl, trivial⟩

/-- A collector holds what was accepted. -/
theorem holds_taken : Holds Collector.taken where
  write said := by
    cases said
    rw [Call.accepted, List.take_length]
  flush said := by
    cases said
    rfl

end Output.Collector

/-- A collector has all that a script writes, and the script ends as it ends. -/
theorem Output.Script.perform_collector {α : Type} (script : Script α) :
    (script.perform Collector.empty).outcome = script.outcome ∧
      (script.perform Collector.empty).writer.taken = script.output := by
  obtain ⟨outcome_eq, all⟩ := script.perform_of_unfailing Collector.empty.unfailing
  have taken := Collector.holds_taken.of_converses (play_converses Collector.empty script.trail)
  exact ⟨outcome_eq, taken.trans all⟩

/-! ## The library by itself -/

/-- What reading a ROM comes to when its output is collected. -/
structure Collected where
  /-- how it ended -/
  outcome : Except Error Summary
  /-- what was written until then -/
  output : Bytes

namespace Collected

/-- Locate the file table of a memory and run over it. -/
def ofMemory (memory : Memory) (s : Selection) : Collected :=
  match (Table.locate memory Memory.topOfSpace).outcome with
  | .error e => ⟨.error e, []⟩
  | .ok table =>
    let performed := table.run s Collector.empty
    ⟨performed.outcome, performed.writer.taken⟩

/-- Place an image below the top of the space, and go on from there. -/
def ofImage (contents : ByteArray) (s : Selection) : Collected :=
  match Memory.place contents Memory.topOfSpace with
  | .error e => ⟨.error e, []⟩
  | .ok memory => ofMemory memory s

end Collected

namespace Command

/-! ## The tool on a working device -/

/-- A scan on a working device comes to what the library comes to. -/
theorem scan_of_working (memory : Memory) (s : Selection) :
    (scan memory s .working).output = (Collected.ofMemory memory s).output ∧
      (scan memory s .working).outcome = (Collected.ofMemory memory s).outcome.map fun _ => () := by
  rw [Collected.ofMemory]
  rcases located : (Table.locate memory Memory.topOfSpace).outcome with e | table
  · rw [scan_of_error located]
    exact ⟨rfl, rfl⟩
  · rw [scan_of_ok located]
    obtain ⟨outcome_eq, all⟩ :=
      (table.script s).perform_of_unfailing StandardOutput.unfailing_onto_working
    obtain ⟨outcome_eq', all'⟩ := (table.script s).perform_collector
    constructor
    · exact all.trans all'.symm
    · exact congrArg (Except.map fun _ => ()) (outcome_eq.trans outcome_eq'.symm)

variable {around : Surroundings} {o : Options} {path : String} {contents : ByteArray}

/-- So does the tool, once it has its options. -/
theorem Options.carryOut_of_working (named : o.rom = some path)
    (stored : around.files path = .ok (.file contents)) (working : around.device = .working) :
    (o.carryOut around).output = (Collected.ofImage contents o.selection).output ∧
      (o.carryOut around).outcome =
        ((Collected.ofImage contents o.selection).outcome.map fun _ => ()).mapError .rom := by
  have opened : Memory.openImage around.files path = Memory.place contents Memory.topOfSpace := by
    rw [Memory.openImage, stored]
  simp only [carryOut, named, opened, Collected.ofImage, working]
  rcases Memory.place contents Memory.topOfSpace with e | memory
  · exact ⟨rfl, rfl⟩
  · obtain ⟨output_eq, outcome_eq⟩ := scan_of_working memory o.selection
    exact ⟨output_eq, congrArg (Except.mapError Failure.rom) outcome_eq⟩

/-- The exit code of the tool says how the library ended. -/
theorem Options.exitCode_of_working (named : o.rom = some path)
    (stored : around.files path = .ok (.file contents)) (working : around.device = .working) :
    (o.carryOut around).exitCode =
      match (Collected.ofImage contents o.selection).outcome with
      | .ok _ => 0
      | .error _ => 1 := by
  rw [Answer.exitCode, (carryOut_of_working named stored working).2]
  rcases (Collected.ofImage contents o.selection).outcome with e | summary <;> rfl

/-- The last line of the tool gives the reason for which the library failed. -/
theorem Options.failureLine_of_working (named : o.rom = some path)
    (stored : around.files path = .ok (.file contents)) (working : around.device = .working) :
    (o.carryOut around).failureLine =
      match (Collected.ofImage contents o.selection).outcome with
      | .ok _ => ""
      | .error e => "cbfs: " ++ e.message ++ "\n" := by
  rw [Answer.failureLine, (carryOut_of_working named stored working).2]
  rcases (Collected.ofImage contents o.selection).outcome with e | summary <;> rfl

/-- **The tool is the library.** Let a command line ask for a file that can be read as a ROM image,
on a working device, and let `collected` be what the library comes to by itself with the contents of
the file and the selection that was asked for. Then the exit code is zero if that is a success and
one if it is a failure; what reaches standard output is what was collected, also before a failure;
and standard error is lines for some of the reports, each of them admitted by the filter, and after
them nothing, or the reason of the failure. Another filter, or another number of requests for
reports, changes neither the exit code nor what reaches standard output. -/
theorem run_eq_collected {around : Surroundings} {line : List String} {o : Options} {path : String}
    {contents : ByteArray} (parsed : Options.parse line = .ok o) (named : o.rom = some path)
    (stored : around.files path = .ok (.file contents)) (working : around.device = .working) :
    let collected := Collected.ofImage contents o.selection
    (run around line).exitCode = (match collected.outcome with | .ok _ => 0 | .error _ => 1) ∧
    (run around line).output = collected.output ∧
    (∃ shown : List Event,
      (∀ event ∈ shown, (LogFilter.choose around.filter o.verbose).admits event = true) ∧
      (run around line).diagnostics =
        String.join (shown.map logLine) ++
          match collected.outcome with
          | .ok _ => ""
          | .error e => "cbfs: " ++ e.message ++ "\n") ∧
    ∀ (filter : Option String) (line' : List String) (o' : Options),
      Options.parse line' = .ok o' → o'.selection = o.selection → o'.rom = o.rom →
      (run { around with filter := filter } line').exitCode = (run around line).exitCode ∧
        (run { around with filter := filter } line').output = (run around line).output := by
  intro collected
  simp only [run, parsed]
  refine ⟨Options.exitCode_of_working named stored working,
    (Options.carryOut_of_working named stored working).1, ?_, ?_⟩
  · rw [← Options.failureLine_of_working named stored working]
    exact (o.carryOut around).diagnostics_eq _
  · intro filter line' o' parsed' same_selection same_rom
    have named' := same_rom.trans named
    have stored' : ({ around with filter := filter } : Surroundings).files path =
        .ok (.file contents) := stored
    simp only [parsed']
    rw [Options.exitCode_of_working named' stored' working,
      (Options.carryOut_of_working named' stored' working).1, same_selection,
      Options.exitCode_of_working named stored working,
      (Options.carryOut_of_working named stored working).1]
    exact ⟨rfl, rfl⟩

/-- Listing the small image and asking for a file that it does not hold. -/
theorem run_eq_collected_smallImage :
    let around : Surroundings := ⟨fun _ => .ok (.file smallImage), none, .working⟩
    let line := ["-l", "-r", "c", "-o", "rom"]
    Options.parse line = .ok ⟨0, ⟨true, some "c", none⟩, some "rom"⟩ ∧
      (Collected.ofImage smallImage ⟨true, some "c", none⟩).outcome = .error (.targetNotFound "c") ∧
      (run around line).exitCode = 1 ∧
      (run around line).output = [0x61, newline, 0x62, newline] ∧
      ∃ shown : List Event, (run around line).diagnostics =
        String.join (shown.map logLine) ++ "cbfs: failed to find CBFS file named 'c'\n" := by
  intro around line
  have parsed : Options.parse line = .ok ⟨0, ⟨true, some "c", none⟩, some "rom"⟩ := by
    decide +kernel
  have failed : (Collected.ofImage smallImage ⟨true, some "c", none⟩).outcome =
      .error (.targetNotFound "c") := by decide +kernel
  have written : (Collected.ofImage smallImage ⟨true, some "c", none⟩).output =
      [0x61, newline, 0x62, newline] := by decide +kernel
  have stored : around.files "rom" = .ok (.file smallImage) := rfl
  obtain ⟨exit_eq, output_eq, ⟨shown, -, diagnostics_eq⟩, -⟩ :=
    run_eq_collected parsed rfl stored rfl
  rw [failed] at exit_eq diagnostics_eq
  exact ⟨parsed, failed, exit_eq, output_eq.trans written, shown, diagnostics_eq⟩

end Command

end BootRom

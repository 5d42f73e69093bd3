import BootRom.Command.Tool
import BootRom.Proofs.Faults
import BootRom.Proofs.LineBuffer
import BootRom.Proofs.Reports

/-!
# A full device is noticed

Standard output keeps what it is given, so a device that takes nothing is not noticed
at the first byte. The tool notices it before it ends, however it ends: a run that comes
to its conclusion has its output passed on, and one that breaks off has written names, and
these end lines. Where nothing is written at all, the device makes no difference.

* `run_of_silent` and `run_of_refusing` are the two halves of this for a run.
* `Answer.Refused` relates the answers of the tool on two such devices, and
  `Options.carryOut_refused` establishes it, by way of `scan_on_devices`.
* `run_on_full_device` is the comparison of whole runs of the tool.
-/

namespace BootRom

open Output

/-! ## Runs -/

/-- Names that were listed end lines. -/
theorem Selection.newline_mem_lines {s : Selection} {met : List Entry}
    (some_listed : s.lines met ≠ []) : newline ∈ s.lines met := by
  rcases shown_eq : s.shown met with _ | ⟨e, more⟩
  · rw [lines, shown_eq] at some_listed
    exact absurd rfl some_listed
  · rw [lines, shown_eq, List.flatMap_cons]
    simp

namespace Table

variable {t : Table} {s : Selection}

/-- A run that writes nothing goes the same way on every device, and reports the same. -/
theorem run_of_silent (silent : (t.script s).output = []) (device : Device) :
    (t.run s (StandardOutput.onto device)).outcome = (t.script s).outcome ∧
      (t.run s (StandardOutput.onto device)).events = (t.script s).reports := by
  obtain ⟨through, outcome_eq⟩ := Script.perform_of_silent silent device
  exact ⟨outcome_eq, play_events through⟩

/-- A run that writes something fails on a refusing device, for the fault of that device and for
no other reason. -/
theorem run_of_refusing (opened : t.Opened) (some_output : (t.script s).output ≠ [])
    (fault : IoFault) :
    (t.run s (StandardOutput.onto (.refusing fault))).outcome = .error (.writeFailure fault) := by
  rcases script_closes_or_breaks opened s with ⟨closes, -⟩ | ⟨breaks, -, met, names⟩
  · exact closes.perform_refusing some_output
  · refine breaks.perform_refusing ?_
    rw [names] at some_output ⊢
    exact Selection.newline_mem_lines some_output

end Table

namespace Command

/-! ## The tool on two devices -/

/-- A scan on a refusing device is what it is on a working one, if nothing is written there, and
otherwise fails with the fault of the device. -/
theorem scan_on_devices (memory : Memory) (s : Selection) (fault : IoFault) :
    (scan memory s (.refusing fault)).output = [] ∧
    ((scan memory s .working).output = [] →
      scan memory s (.refusing fault) = scan memory s .working) ∧
    ((scan memory s .working).output ≠ [] →
      (scan memory s (.refusing fault)).outcome = .error (.writeFailure fault)) := by
  rcases located : (Table.locate memory Memory.topOfSpace).outcome with e | table
  · rw [scan_of_error located, scan_of_error located]
    exact ⟨rfl, fun _ => rfl, fun some_output => absurd rfl some_output⟩
  · rw [scan_of_ok located, scan_of_ok located]
    obtain ⟨-, output_eq⟩ :=
      (table.script s).perform_of_unfailing StandardOutput.unfailing_onto_working
    refine ⟨rfl, fun silent => ?_, fun some_output => ?_⟩
    · have silent' : (table.script s).output = [] := output_eq.symm.trans silent
      obtain ⟨outcome_eq, events_eq⟩ := Table.run_of_silent silent' .working
      obtain ⟨outcome_eq', events_eq'⟩ := Table.run_of_silent silent' (.refusing fault)
      simp only [serve]
      rw [outcome_eq', events_eq', outcome_eq, events_eq]
      exact congrArg (Scan.mk _ · _) silent.symm
    · have some_output' : (table.script s).output ≠ [] := fun silent =>
        some_output (output_eq.trans silent)
      have failed := Table.run_of_refusing (Table.opened_of_locate located) some_output' fault
      exact congrArg (Except.map fun _ => ()) failed

/-- What becomes of an answer when the device refuses everything: with no output it is the same
answer, and with some output it is a failure to write. -/
structure Answer.Refused (working refusing : Answer) (fault : IoFault) : Prop where
  /-- nothing reaches the device -/
  nothing : refusing.output = []
  /-- without output the device makes no difference -/
  same : working.output = [] → refusing = working
  /-- with output its fault is the reason of the failure -/
  failed : working.output ≠ [] → refusing.outcome = .error (.rom (.writeFailure fault))

/-- An answer without output does not depend on the device. -/
theorem Answer.Refused.of_silent {a : Answer} (silent : a.output = []) (fault : IoFault) :
    a.Refused a fault :=
  ⟨silent, fun _ => rfl, fun some_output => absurd silent some_output⟩

theorem Answer.Refused.ofScan (before : List Event) (memory : Memory) (s : Selection)
    (fault : IoFault) :
    (Answer.ofScan before (scan memory s .working)).Refused
      (Answer.ofScan before (scan memory s (.refusing fault))) fault := by
  obtain ⟨nothing, same, failed⟩ := scan_on_devices memory s fault
  exact ⟨nothing, fun silent => congrArg (Answer.ofScan before) (same silent),
    fun some_output => congrArg (Except.mapError Failure.rom) (failed some_output)⟩

/-- The device is looked at only after a memory was opened, and then only by the scan. -/
theorem Options.carryOut_refused (o : Options) (around : Surroundings) (fault : IoFault) :
    (o.carryOut { around with device := .working }).Refused
      (o.carryOut { around with device := .refusing fault }) fault := by
  rcases named : o.rom with _ | path
  · simp only [carryOut, named]
    rcases Memory.openFile around.files memoryDevice with e | memory
    · exact .of_silent rfl fault
    · exact .ofScan _ memory o.selection fault
  · simp only [carryOut, named]
    rcases Memory.openImage around.files path with e | memory
    · exact .of_silent rfl fault
    · exact .ofScan _ memory o.selection fault

/-- **A full device is noticed.** A run of the tool with any command line, in any surroundings, is
compared on a working device and on a full one. If nothing is written on the working device, the two
runs leave the same exit code and the same diagnostics. If something is written there, however the
run ends there, the run on the full device fails: its exit code is one, its failure is that of the
device, and standard error is lines for some of the reports, each admitted by the filter, and then
the wording of that failure. -/
theorem run_on_full_device (around : Surroundings) (line : List String) :
    let working := run { around with device := .working } line
    let full := run { around with device := .refusing .noSpaceLeft } line
    full.output = [] ∧
    (working.output = [] → full = working) ∧
    (working.output ≠ [] →
      full.exitCode = 1 ∧
      ∃ o, Options.parse line = .ok o ∧
        (o.carryOut { around with device := .refusing .noSpaceLeft }).outcome =
          .error (.rom (.writeFailure .noSpaceLeft)) ∧
        ∃ shown : List Event,
          (∀ event ∈ shown, (LogFilter.choose around.filter o.verbose).admits event = true) ∧
          full.diagnostics =
            String.join (shown.map logLine) ++
              "cbfs: failed to write file to output: No space left on device (os error 28)\n") := by
  intro working full
  rcases parsed : Options.parse line with e | o
  · have same : full = working := by simp only [full, working, run, parsed]
    have silent : working.output = [] := by
      simp only [working, run, parsed]
      rfl
    rw [same]
    exact ⟨silent, fun _ => rfl, fun some_output => absurd silent some_output⟩
  · obtain ⟨nothing, same, failed⟩ := o.carryOut_refused around .noSpaceLeft
    simp only [full, working, run, parsed]
    refine ⟨nothing, fun silent => by rw [same silent], fun some_output => ?_⟩
    have ended := failed some_output
    refine ⟨by rw [Answer.exitCode, ended], o, rfl, ended, ?_⟩
    have last_line : (o.carryOut { around with device := .refusing .noSpaceLeft }).failureLine =
        "cbfs: failed to write file to output: No space left on device (os error 28)\n" := by
      rw [Answer.failureLine, ended]
      rfl
    rw [← last_line]
    exact Answer.diagnostics_eq _ _

/-- Listing the small image and asking for a file that it does not hold: the missing file is the
failure on a working device, and the missing space on a full one. -/
theorem run_on_full_device_smallImage :
    let around : Surroundings := ⟨fun _ => .ok (.file smallImage), none, .working⟩
    let line := ["-l", "-r", "c", "-o", "rom"]
    (run around line).output = [0x61, newline, 0x62, newline] ∧
      (run around line).diagnostics = "cbfs: failed to find CBFS file named 'c'\n" ∧
      (run { around with device := .refusing .noSpaceLeft } line).exitCode = 1 ∧
      ∃ shown : List Event,
        (run { around with device := .refusing .noSpaceLeft } line).diagnostics =
          String.join (shown.map logLine) ++
            "cbfs: failed to write file to output: No space left on device (os error 28)\n" := by
  intro around line
  have written : (run around line).output = [0x61, newline, 0x62, newline] := by decide +kernel
  have missing : (run around line).diagnostics = "cbfs: failed to find CBFS file named 'c'\n" := by
    decide +kernel
  have some_output : (run { around with device := .working } line).output ≠ [] := by
    rw [show (run { around with device := .working } line).output = _ from written]
    exact List.cons_ne_nil _ _
  obtain ⟨-, -, noticed⟩ := run_on_full_device around line
  obtain ⟨exit_eq, -, -, -, shown, -, diagnostics_eq⟩ := noticed some_output
  exact ⟨written, missing, exit_eq, shown, diagnostics_eq⟩

end Command

end BootRom

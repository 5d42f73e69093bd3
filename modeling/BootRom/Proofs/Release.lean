import BootRom.Command.Tool
import BootRom.Proofs.Faults
import BootRom.Proofs.Opening
import BootRom.Proofs.Reports

/-!
# Tables are given back once

A table owns a window of memory, which is given back where the use of the table is over, and this is
reported. Before that it may be used in many ways, and each may end in many ways: a run may find what
it looks for or miss it, a record may be corrupt, a writer may fail at any call.

* `Keeps` says that reports give nothing back. `keeps_locate`, `keeps_next` and `keeps_run`: neither
  opening a table, nor a walk over it, nor a run does, with any writer and in any case.
* `Use` is a use of a table, and `lifetime` all that is reported from opening a table until it is
  given back, as `Table.bracket` does (`trail_bracket`).
* `scan_events`: a scan of the tool is the life of a table that is used once.

`released_once` is the result, for tables in general and for the tool.
-/

namespace BootRom

open Format Memory Output

/-! ## Reports that give nothing back -/

/-- Whether a report is that a window is given back. -/
def Event.givesBack : Event → Bool
  | .released .. => true
  | _ => false

/-- No window is given back in some reports. -/
def Keeps (events : List Event) : Prop := ∀ event ∈ events, event.givesBack = false

theorem keeps_nil : Keeps [] := List.forall_mem_nil _

theorem keeps_cons {event : Event} {events : List Event} (other : event.givesBack = false)
    (h : Keeps events) : Keeps (event :: events) :=
  List.forall_mem_cons.mpr ⟨other, h⟩

theorem keeps_append {first second : List Event} (h : Keeps first) (h' : Keeps second) :
    Keeps (first ++ second) :=
  List.forall_mem_append.mpr ⟨h, h'⟩

theorem Keeps.mono {first second : List Event} (h : Keeps second) (sub : first ⊆ second) :
    Keeps first :=
  fun event there => h event (sub there)

namespace Traced

variable {α β : Type} {x : Traced Event α} {f : α → Traced Event β}

theorem keeps_bind (h : Keeps x.trail) (h' : ∀ a, Keeps (f a).trail) : Keeps (x >>= f).trail := by
  rcases ended : x.outcome with e | a
  · rw [bind_of_error ended]
    exact h
  · rw [bind_of_ok ended]
    exact keeps_append h (h' a)

theorem keeps_log_bind {event : Event} {f : Unit → Traced Event β}
    (other : event.givesBack = false) (h : Keeps (f ()).trail) : Keeps (log event >>= f).trail := by
  rw [log_bind]
  exact keeps_cons other h

end Traced

/-! ### Opening a table -/

namespace Memory

variable (memory : Memory) (address len top : UInt64)

theorem keeps_fetch : Keeps (memory.fetch address len).trail := by
  cases memory with
  | image base bytes => exact keeps_nil
  | file path bytes => exact Traced.keeps_log_bind (by rfl) keeps_nil
  | directory path => exact Traced.keeps_log_bind (by rfl) keeps_nil

theorem keeps_read : Keeps (memory.read address len).trail := by
  rw [read, Backend.read]
  split
  · exact keeps_fetch memory address len
  · exact keeps_nil

theorem keeps_map : Keeps (memory.map address len).trail :=
  Traced.keeps_bind (keeps_read memory address len) fun _ => keeps_nil

theorem keeps_footer : Keeps (memory.footer top).trail := by
  rw [footer]
  split
  · exact keeps_nil
  · apply Traced.keeps_log_bind (by rfl)
    apply Traced.keeps_bind (keeps_fetch memory _ _)
    exact fun raw => Traced.keeps_log_bind (by rfl) keeps_nil

theorem keeps_headerReports (h : Header) : Keeps (headerReports h) := by
  simp [Keeps, headerReports, Event.givesBack]

theorem keeps_locate : Keeps (memory.locate top).trail := by
  apply Traced.keeps_bind (keeps_footer memory top)
  intro delta
  apply Traced.keeps_log_bind (by rfl)
  apply Traced.keeps_bind (keeps_fetch memory _ _)
  intro raw
  apply Traced.keeps_bind (keeps_headerReports _)
  intro _
  split <;> exact keeps_nil

end Memory

namespace Table

variable {t : Table}

theorem keeps_ofHeader (memory : Memory) (located : LocatedHeader) (top : UInt64) :
    Keeps (ofHeader memory located top).trail := by
  rw [ofHeader, Backend.ofHeader]
  split
  · apply Traced.keeps_bind keeps_nil
    exact fun region => Traced.keeps_bind (keeps_map memory _ _) fun _ => keeps_nil
  · exact keeps_nil

theorem keeps_locate (memory : Memory) (top : UInt64) : Keeps (locate memory top).trail :=
  Traced.keeps_bind (memory.keeps_locate top) fun located => keeps_ofHeader memory located top

/-! ### Walking over it -/

theorem keeps_readEntry (t : Table) (c : Cursor) : Keeps (t.readEntry c).trail := by
  have reports : ∀ r : Record, Keeps (recordReports r) := by
    intro r
    simp [Keeps, recordReports, Event.givesBack]
  have stride_reports : ∀ r distance next, Keeps (t.strideReports r distance next) := by
    intro r distance next
    simp [Keeps, strideReports, Event.givesBack]
  apply Traced.keeps_bind keeps_nil
  intro record
  apply Traced.keeps_bind (reports record)
  intro _
  apply Traced.keeps_bind keeps_nil
  intro name
  apply Traced.keeps_log_bind (by rfl)
  apply Traced.keeps_bind keeps_nil
  intro distance
  exact Traced.keeps_bind (stride_reports record distance _) fun _ => keeps_nil

theorem keeps_step (t : Table) (c : Cursor) : Keeps (t.step c).trail := by
  rw [step]
  split
  · exact keeps_nil
  · apply Traced.keeps_log_bind (by rfl)
    split
    · exact Traced.keeps_log_bind (by rfl) keeps_nil
    · apply Traced.keeps_log_bind (by rfl)
      split
      · exact Traced.keeps_bind (keeps_readEntry t c) fun _ => keeps_nil
      · exact keeps_nil

/-- A walk gives nothing back, wherever it stands. -/
theorem keeps_next (t : Table) (w : Walk) : Keeps (t.next w).1.trail := by
  rw [next]
  split
  · exact keeps_nil
  · dsimp only
    split <;> exact keeps_step t w.cursor

theorem keeps_courseFrom (t : Table) (w : Walk) : Keeps (t.courseFrom w).trail := by
  have here := keeps_next t w
  rcases found : t.next w with ⟨⟨trail, e | _ | entry⟩, w'⟩ <;> rw [found] at here
  · rw [courseFrom_of_error found]
    exact here
  · rw [courseFrom_of_none found]
    exact here
  · rw [courseFrom_of_entry found]
    exact keeps_append here (keeps_courseFrom t w')
termination_by t.remaining w
decreasing_by exact remaining_next_lt found

end Table

/-! ### Running over it -/

namespace Output

/-- What a performance reports is reported by its actions. -/
theorem events_play_subset {σ : Type} [Writer σ] (w : σ) (actions : List Action) :
    (play w actions).events ⊆ actions.flatMap Action.events := by
  induction actions generalizing w with
  | nil => exact List.Subset.refl _
  | cons action rest ih =>
    rw [List.flatMap_cons]
    rcases stopped : (action.deliver w).fault with _ | fault
    · rw [play_cons_of_none stopped]
      exact List.append_subset.mpr ⟨List.subset_append_left _ _,
        List.Subset.trans (ih _) (List.subset_append_right _ _)⟩
    · rw [play_cons_of_some stopped]
      exact List.subset_append_left _ _

end Output

namespace Output.Script

variable {α β : Type} {x : Script α} {f : α → Script β}

theorem keeps_bind (h : Keeps x.reports) (h' : ∀ a, Keeps (Script.reports (f a))) :
    Keeps (Script.reports (x >>= f)) := by
  rcases ended : x.outcome with e | a
  · rw [Traced.bind_of_error ended]
    exact h
  · rw [reports, Traced.bind_of_ok ended, List.flatMap_append]
    exact keeps_append h (h' a)

end Output.Script

namespace Table

theorem keeps_reporting {trail : List Event} (h : Keeps trail) :
    Keeps (Script.reports (reporting trail)) := by
  have same : Script.reports (reporting trail) = trail := by
    simp [Script.reports, reporting, List.flatMap_map, Action.events]
  rwa [same]

theorem keeps_listing (s : Selection) (e : Entry) (done : Summary) :
    Keeps (Script.reports (listing s e done)) := by
  rw [listing]
  split <;> exact keeps_nil

theorem keeps_extracting (t : Table) (e : Entry) (done : Summary) :
    Keeps (Script.reports (t.extracting e done)) := by
  rcases read : t.payload e with cause | data
  · rw [Script.reports, extracting_of_error read]
    exact keeps_cons rfl keeps_nil
  · rw [Script.reports, extracting_of_ok read]
    exact keeps_cons rfl (keeps_cons rfl (keeps_cons rfl keeps_nil))

theorem keeps_concluding (s : Selection) (done : Summary) :
    Keeps (Script.reports (concluding s done)) := by
  have flushed : Keeps (Script.reports (Traced.log .flush)) := keeps_nil
  apply Script.keeps_bind flushed
  intro _
  split <;> exact keeps_nil

theorem keeps_scriptOver (t : Table) (s : Selection) (c : Course) (h : Keeps c.trail)
    (done : Summary) : Keeps (t.scriptOver s c done).reports := by
  induction c generalizing done with
  | finished trail => exact Script.keeps_bind (keeps_reporting h) fun _ => keeps_concluding s done
  | failed trail cause => exact Script.keeps_bind (keeps_reporting h) fun _ => keeps_nil
  | entry trail e rest ih =>
    have before : Keeps trail := h.mono (List.subset_append_left _ _)
    have after : Keeps rest.trail := h.mono (List.subset_append_right _ _)
    apply Script.keeps_bind (keeps_reporting before)
    intro _
    apply Script.keeps_bind (keeps_listing s e _)
    intro done
    split
    · exact Script.keeps_bind (keeps_extracting t e done) fun _ => keeps_concluding s _
    · exact ih after done

/-- A run gives nothing back, whatever the writer does. -/
theorem keeps_run {σ : Type} [Writer σ] (t : Table) (s : Selection) (w : σ) :
    Keeps (t.run s w).events := by
  have script : Keeps (t.script s).reports := keeps_scriptOver t s _ (keeps_courseFrom t _) _
  exact script.mono (events_play_subset w _)

/-! ## The life of a table -/

/-- One use of an open table. -/
inductive Use : Type 1
  /-- a walk, wherever it stands, is taken one record further -/
  | next (w : Walk)
  /-- a run is made over the table, with a writer of some kind -/
  | run {σ : Type} [Writer σ] (s : Selection) (w : σ)

/-- What is reported while a table is used. -/
def Use.events (t : Table) : Use → List Event
  | .next w => (t.next w).1.trail
  | @Use.run _ _ s w => (t.run s w).events

theorem keeps_use (t : Table) (use : Use) : Keeps (use.events t) := by
  cases use with
  | next w => exact keeps_next t w
  | run s w => exact keeps_run t s w

/-- What is reported from opening a table until it is given back, if it opens at all. -/
def lifetime (opening : Traced Event Table) (used : Table → List Event) : List Event :=
  (bracket opening fun t => Traced.logAll (used t)).trail

/-- What is reported in the life of a table of a ROM below some top: the table is given back once,
after everything else, and what is given back is the region that its header describes. -/
structure GivenBack (t : Table) (top : UInt64) (events : List Event) : Prop where
  /-- the last report is that the table is given back, and no other report is -/
  last : ∃ before, Keeps before ∧ events = before ++ [.released t.start t.limit]
  /-- the ROM does not begin below address zero -/
  rom_le : t.located.header.romSize.toNat ≤ top.toNat
  /-- the region begins as far into the ROM as the header says -/
  start_eq : t.start.toNat =
    top.toNat - t.located.header.romSize.toNat + t.located.header.offset.toNat
  /-- and ends with the ROM -/
  limit_eq : t.limit = top

/-- A table that opens is given back as the region that its header describes. -/
theorem givenBack_of_ofHeader {memory : Memory} {located : LocatedHeader} {top : UInt64} {t : Table}
    (opened : (ofHeader memory located top).outcome = .ok t) {before : List Event}
    (kept : Keeps before) : t.GivenBack top (before ++ [t.releasing]) := by
  have limit_eq := (Opened.sound ⟨memory, located, top, opened⟩).toNat_limit
  obtain ⟨-, region, bytes, placed, answer, rfl⟩ := ofHeader_eq_ok_iff.mp opened
  obtain ⟨rom_le, offset_le, start_eq, end_eq⟩ := Header.region_eq_ok_iff.mp placed
  have size_eq := Backend.size_of_read answer
  have start_le : region.start ≤ region.limit := by
    rw [UInt64.le_iff_toNat_le, start_eq, end_eq]
    omega
  rw [UInt64.toNat_sub_of_le _ _ start_le, end_eq] at size_eq
  rw [Window.length_contents] at limit_eq
  dsimp only [start] at limit_eq
  refine ⟨⟨before, kept, rfl⟩, rom_le, start_eq, UInt64.toNat_inj.mp ?_⟩
  omega

/-- Where no table opens, none is given back. -/
theorem lifetime_of_error {opening : Traced Event Table} {e : Error}
    (failed : opening.outcome = .error e) (used : Table → List Event) :
    lifetime opening used = opening.trail := by
  rw [lifetime, bracket_of_error failed]

/-- The life of a table that opens ends with its being given back. -/
theorem lifetime_of_ok {memory : Memory} {located : LocatedHeader} {top : UInt64} {t : Table}
    {opening : Traced Event Table} {used : Table → List Event}
    (opened : (ofHeader memory located top).outcome = .ok t) (ends : opening.outcome = .ok t)
    (kept : Keeps opening.trail) (kept' : Keeps (used t)) :
    t.GivenBack top (lifetime opening used) := by
  rw [lifetime, bracket_of_ok ends]
  exact givenBack_of_ofHeader opened (keeps_append kept kept')

/-- What is reported in the life of a table does not depend on the answers of its use. -/
theorem trail_bracket {α : Type} (opening : Traced Event Table) (use : Table → Traced Event α) :
    (bracket opening use).trail = lifetime opening fun t => (use t).trail := by
  rcases ended : opening.outcome with e | t
  · rw [lifetime, bracket_of_error ended, bracket_of_error ended]
  · rw [lifetime, bracket_of_ok ended, bracket_of_ok ended]
    rfl

end Table

/-! ## The tool -/

namespace Command

theorem keeps_closing (outcome : Except Error Summary) : Keeps (closing outcome) := by
  cases outcome with
  | ok summary => exact keeps_cons rfl keeps_nil
  | error e => exact keeps_nil

/-- A scan of the tool is the life of a table that is used for one run. -/
theorem scan_events (memory : Memory) (s : Selection) (device : Device) :
    (scan memory s device).events =
      Table.lifetime (Table.locate memory topOfSpace) fun t => (serve s device t).trail := by
  rw [← Table.trail_bracket, scan]
  split <;> rfl

namespace Options

variable {o : Options} {around : Surroundings} {m : Memory} {t : Table}

/-- The memory that options lead to. -/
def memory (o : Options) (around : Surroundings) : Except Failure Memory :=
  match o.rom with
  | some path => (Memory.openImage around.files path).mapError .rom
  | none => (Memory.openFile around.files memoryDevice).mapError .physicalMemory

/-- The table that is located in it, if one is. -/
def table (o : Options) (around : Surroundings) : Option Table :=
  match o.memory around with
  | .ok memory => (Table.locate memory topOfSpace).outcome.toOption
  | .error _ => none

theorem table_eq_some_iff : o.table around = some t ↔
    ∃ m, o.memory around = .ok m ∧ (Table.locate m topOfSpace).outcome = .ok t := by
  rw [table]
  rcases o.memory around with failure | m
  · simp
  · rcases opened : (Table.locate m topOfSpace).outcome with e | t'
    · simp [Except.toOption, opened]
    · simp [Except.toOption, opened]

theorem table_eq_none_iff : o.table around = none ↔
    (∃ failure, o.memory around = .error failure) ∨
      ∃ m e, o.memory around = .ok m ∧ (Table.locate m topOfSpace).outcome = .error e := by
  rw [table]
  rcases o.memory around with failure | m
  · simp
  · rcases opened : (Table.locate m topOfSpace).outcome with e | t'
    · simp [Except.toOption, opened]
    · simp [Except.toOption, opened]

/-- The report that an image was placed, if options name one. -/
def placing (o : Options) (m : Memory) : List Event :=
  match o.rom with
  | some path => placement path m
  | none => []

theorem keeps_placing (o : Options) (m : Memory) : Keeps (o.placing m) := by
  rw [placing]
  split
  · cases m with
    | image base bytes => exact keeps_cons rfl keeps_nil
    | file path bytes => exact keeps_nil
    | directory path => exact keeps_nil
  · exact keeps_nil

/-- What options ask for is carried out by a scan, if there is a memory to scan. -/
theorem carryOut_eq (o : Options) (around : Surroundings) : o.carryOut around =
    match o.memory around with
    | .error failure => ⟨[], [], .error failure⟩
    | .ok m => .ofScan (o.placing m) (scan m o.selection around.device) := by
  obtain ⟨verbose, selection, _ | path⟩ := o
  · simp only [carryOut, memory]
    rcases Memory.openFile around.files memoryDevice <;> rfl
  · simp only [carryOut, memory]
    rcases Memory.openImage around.files path <;> rfl

/-- Without a table the tool fails, and gives nothing back. -/
theorem keeps_of_no_table (none_located : o.table around = none) :
    Keeps (o.carryOut around).events ∧ (o.carryOut around).exitCode = 1 := by
  rw [carryOut_eq]
  rcases table_eq_none_iff.mp none_located with ⟨failure, failed⟩ | ⟨m, e, opened, failed⟩
  · rw [failed]
    exact ⟨keeps_nil, rfl⟩
  · rw [opened]
    dsimp only
    rw [scan_of_error failed]
    exact ⟨keeps_append (o.keeps_placing m) (Table.keeps_locate m topOfSpace), rfl⟩

/-- A table that the tool has located is given back once, also if the tool fails. If it does not,
the report on the whole run is the last one before. -/
theorem givenBack_of_table (located : o.table around = some t) :
    t.GivenBack topOfSpace (o.carryOut around).events ∧
      ((o.carryOut around).outcome = .ok () → ∃ before summary,
        (o.carryOut around).events = before ++ [.scanned summary, .released t.start t.limit]) := by
  obtain ⟨m, opened, located⟩ := table_eq_some_iff.mp located
  obtain ⟨header, -, of_header⟩ := Traced.outcome_bind_eq_ok.mp located
  let ran := t.run o.selection (StandardOutput.onto around.device)
  have events_eq : (o.carryOut around).events =
      (o.placing m ++ (Table.locate m topOfSpace).trail ++ ran.events ++ closing ran.outcome) ++
        [t.releasing] := by
    rw [carryOut_eq, opened]
    dsimp only [Answer.ofScan]
    rw [scan_events, Table.lifetime, Table.bracket_of_ok located]
    simp only [serve, Traced.trail_logAll, List.append_assoc]
    rfl
  have outcome_eq : (o.carryOut around).outcome =
      (ran.outcome.map fun _ => ()).mapError .rom := by
    rw [carryOut_eq, opened]
    dsimp only [Answer.ofScan]
    rw [scan_of_ok located]
  constructor
  · rw [events_eq]
    apply Table.givenBack_of_ofHeader of_header
    apply keeps_append _ (keeps_closing _)
    apply keeps_append _ (t.keeps_run o.selection _)
    exact keeps_append (o.keeps_placing m) (Table.keeps_locate m topOfSpace)
  · intro succeeded
    rw [outcome_eq] at succeeded
    rcases ended : ran.outcome with e | summary
    · rw [ended] at succeeded
      cases succeeded
    · rw [events_eq, ended, closing]
      exact ⟨_, summary, List.append_assoc ..⟩

end Options

/-! ### What is shown -/

theorem outcome_of_exitCode {a : Answer} (success : a.exitCode = 0) : a.outcome = .ok () := by
  rw [Answer.exitCode] at success
  split at success
  · assumption
  · cases success

/-- Standard error of a run that shows all reports is a line for each, and the line of a failure. -/
theorem diagnostics_of_tracing {a : Answer} {f : LogFilter}
    (tracing : ∀ event, f.admits event = true) :
    a.diagnostics f = String.join (a.events.map logLine) ++ a.failureLine := by
  rw [Answer.diagnostics, List.filter_eq_self.mpr fun event _ => tracing event]

theorem admits_upTo (detail : Detail) (event : Event) :
    (LogFilter.upTo detail).admits event = decide (event.level.rank ≤ detail) := by
  simp [LogFilter.admits, LogFilter.decisive, LogFilter.upTo, Directive.concerns, Condition.isMetBy]

/-- Two requests for more reports are enough for all of them, unless a filter is set. -/
theorem admits_of_verbose {verbose : UInt8} (twice : 2 ≤ verbose.toNat) (event : Event) :
    (LogFilter.choose none verbose).admits event = true := by
  have not_zero : verbose ≠ 0 := by
    rintro rfl
    exact absurd twice (by decide)
  have not_one : verbose ≠ 1 := by
    rintro rfl
    exact absurd twice (by decide)
  have all : LogFilter.choose none verbose = .upTo Level.trace.rank := by
    rw [LogFilter.choose, Option.bind_none, Option.getD_none, LogFilter.ofVerbosity,
      if_neg not_zero, if_neg not_one]
  rw [all, admits_upTo]
  exact decide_eq_true (by cases event.level <;> decide)

end Command

/-- **A table is given back once, on every way out.**

* Take a table from the footer on, in any memory and below any top, and use it in any way: by walks
  that are taken on from wherever they stand, and by runs with writers of any kind. If the table
  opens, then among all that is reported it is given back once, as the last report, and as the region
  that its header describes. If it does not, nothing is given back.
* The same holds from a header on.
* The tool gives its table back once if it has located one, and nothing otherwise. If it succeeds,
  the report on the whole run comes right before. If all reports are shown, the line that the table
  is given back is the last one, but for that of a failure. -/
theorem released_once :
    (∀ (memory : Memory) (top : UInt64) (uses : Table → List Table.Use),
      let events :=
        Table.lifetime (Table.locate memory top) fun t => (uses t).flatMap (Table.Use.events t)
      (∀ t, (Table.locate memory top).outcome = .ok t → t.GivenBack top events) ∧
        ∀ e, (Table.locate memory top).outcome = .error e → Keeps events) ∧
    (∀ (memory : Memory) (located : LocatedHeader) (top : UInt64) (uses : Table → List Table.Use),
      let events :=
        Table.lifetime (Table.ofHeader memory located top) fun t =>
          (uses t).flatMap (Table.Use.events t)
      (∀ t, (Table.ofHeader memory located top).outcome = .ok t → t.GivenBack top events) ∧
        ∀ e, (Table.ofHeader memory located top).outcome = .error e → Keeps events) ∧
    ∀ (around : Command.Surroundings) (line : List String) (o : Command.Options),
      Command.Options.parse line = .ok o →
      let answer := o.carryOut around
      (o.table around = none → Keeps answer.events ∧ (Command.run around line).exitCode = 1) ∧
      ∀ t, o.table around = some t →
        t.GivenBack topOfSpace answer.events ∧
        ((Command.run around line).exitCode = 0 → ∃ before summary,
          answer.events = before ++ [.scanned summary, .released t.start t.limit]) ∧
        ((∀ event, (Command.LogFilter.choose around.filter o.verbose).admits event = true) →
          ∃ before, answer.events = before ++ [.released t.start t.limit] ∧
            (Command.run around line).diagnostics =
              String.join (before.map Command.logLine) ++
                Command.logLine (.released t.start t.limit) ++ answer.failureLine) := by
  have kept (t : Table) (uses : List Table.Use) : Keeps (uses.flatMap (Table.Use.events t)) := by
    intro event there
    obtain ⟨use, -, there⟩ := List.mem_flatMap.mp there
    exact Table.keeps_use t use event there
  refine ⟨fun memory top uses => ⟨fun t opened => ?_, fun e failed => ?_⟩,
    fun memory located top uses => ⟨fun t opened => ?_, fun e failed => ?_⟩, ?_⟩
  · obtain ⟨header, -, of_header⟩ := Traced.outcome_bind_eq_ok.mp opened
    exact Table.lifetime_of_ok of_header opened (Table.keeps_locate memory top) (kept t (uses t))
  · exact Table.lifetime_of_error failed _ ▸ Table.keeps_locate memory top
  · exact Table.lifetime_of_ok opened opened (Table.keeps_ofHeader memory located top)
      (kept t (uses t))
  · exact Table.lifetime_of_error failed _ ▸ Table.keeps_ofHeader memory located top
  · intro around line o parsed
    simp only [Command.run, parsed]
    refine ⟨Command.Options.keeps_of_no_table, fun t located => ?_⟩
    obtain ⟨given_back, after_success⟩ := Command.Options.givenBack_of_table located
    refine ⟨given_back, fun code => after_success (Command.outcome_of_exitCode code),
      fun tracing => ?_⟩
    obtain ⟨before, -, events_eq⟩ := given_back.last
    refine ⟨before, events_eq, ?_⟩
    rw [Command.diagnostics_of_tracing tracing, events_eq, List.map_append, String.join_append]
    simp

/-- The small ROM: its table is walked and run over with a pipe that breaks, and the tool lists it on
a device that is full. -/
theorem released_once_smallImage :
    let uses : Table → List Table.Use := fun t =>
      [.next t.walk, .run ⟨true, some "b", none⟩ Table.breakingPipe]
    let around : Command.Surroundings :=
      ⟨fun _ => .ok (.file smallImage), none, .refusing .noSpaceLeft⟩
    let o : Command.Options := ⟨2, ⟨true, none, none⟩, some "rom"⟩
    (∃ before, Keeps before ∧
        (Table.lifetime (Table.locate (.image 0xffffff94 smallImage) topOfSpace) fun t =>
          (uses t).flatMap (Table.Use.events t)) =
          before ++ [.released 0xffffff94 0x100000000]) ∧
      (Command.run around ["-vvl", "-o", "rom"]).exitCode = 1 ∧
      ∃ text, (Command.run around ["-vvl", "-o", "rom"]).diagnostics = text ++
        "TRACE releasing ROM view 0xffffff94..0x100000000\n" ++ (o.carryOut around).failureLine := by
  intro uses around o
  obtain ⟨from_footer, -, tool⟩ := released_once
  have opened : (Table.locate (.image 0xffffff94 smallImage) topOfSpace).outcome =
      .ok smallTable := by
    decide +kernel
  have parsed : Command.Options.parse ["-vvl", "-o", "rom"] = .ok o := by decide +kernel
  have located : o.table around = some smallTable :=
    Command.Options.table_eq_some_iff.mpr ⟨.image 0xffffff94 smallImage, rfl, opened⟩
  have line : Command.logLine (.released smallTable.start smallTable.limit) =
      "TRACE releasing ROM view 0xffffff94..0x100000000\n" := by
    decide +kernel
  obtain ⟨before, -, shown⟩ :=
    ((tool around _ o parsed).2 smallTable located).2.2 (Command.admits_of_verbose (by decide))
  have given_back := (from_footer _ _ uses).1 smallTable opened
  refine ⟨given_back.last, by decide +kernel, String.join (before.map Command.logLine), ?_⟩
  rw [shown, line]

end BootRom

import BootRom.Proofs.Conversation
import BootRom.Proofs.Geometry
import BootRom.Table.Run

/-!
# What the script of a run consists of

The script of a run is determined by the course of the walk and the selection.
Equations say how, one for each way in which a run can meet the next item of a
course: the walk ends (`scriptOver_finished`), it ends with an error
(`scriptOver_failed`), the next entry is passed over (`scriptOver_of_miss`), or it is
the one whose payload is wanted (`scriptOver_of_hit`, `scriptOver_of_refused`).

`scriptOver_passing` is the one induction over a course: entries that are not wanted
are passed over, and leave their names behind. From it and the equations come the
four ways in which a whole run can go:

* `script_extracts` and `script_refuses`, for a first wanted entry whose payload can
  be read, or not;
* `script_finishes` and `script_fails`, for a table without a wanted entry.

`Selection.shown` are the entries whose names are listed among those that were met, and
`Selection.lines` what listing them writes.
-/

namespace BootRom

open Output

/-! ## Listing -/

namespace Selection

/-- The entries whose names are listed, among those that were met. -/
def shown (s : Selection) (met : List Entry) : List Entry :=
  if s.list then met.filter fun e => s.Considers e.record else []

/-- What listing writes when these entries were met. -/
def lines (s : Selection) (met : List Entry) : Bytes :=
  (s.shown met).flatMap fun e => e.name.bytes ++ [newline]

theorem shown_append (s : Selection) (before after : List Entry) :
    s.shown (before ++ after) = s.shown before ++ s.shown after := by
  simp only [shown]
  split
  · exact List.filter_append ..
  · rfl

@[simp] theorem lines_nil (s : Selection) : s.lines [] = [] := by
  simp [lines, shown]

theorem lines_append (s : Selection) (before after : List Entry) :
    s.lines (before ++ after) = s.lines before ++ s.lines after := by
  rw [lines, shown_append, List.flatMap_append, lines, lines]

/-- A summary after more entries were met. -/
def meeting (s : Selection) (met : List Entry) (done : Summary) : Summary :=
  ⟨done.scanned + met.length, done.listed + (s.shown met).length, done.extracted⟩

@[simp] theorem meeting_nil (s : Selection) (done : Summary) : s.meeting [] done = done := by
  simp [meeting, shown]

theorem meeting_append (s : Selection) (before after : List Entry) (done : Summary) :
    s.meeting (before ++ after) done = s.meeting after (s.meeting before done) := by
  simp only [meeting, shown_append, List.length_append, Nat.add_assoc]

/-- An entry whose payload is asked for: it is of a type that is considered, and there is a target
that its name accepts. -/
def Wants (s : Selection) (e : Entry) : Prop :=
  s.Considers e.record ∧
    ∃ target, s.read = some target ∧ e.name.accepts (Text.encode target) = true

theorem targets_iff {s : Selection} {e : Entry} : s.targets e = true ↔ s.Wants e := by
  rw [targets, Wants]
  rcases s.read with _ | target
  · exact ⟨fun h => (nomatch h), fun ⟨_, _, h, _⟩ => (nomatch h)⟩
  · rw [Bool.and_eq_true, admits_iff]
    constructor
    · rintro ⟨considered, accepted⟩
      exact ⟨considered, target, rfl, accepted⟩
    · rintro ⟨considered, target', same, accepted⟩
      obtain rfl := Option.some.inj same
      exact ⟨considered, accepted⟩

theorem targets_of_not_wants {s : Selection} {e : Entry} (h : ¬ s.Wants e) :
    s.targets e = false := by
  rw [← Bool.not_eq_true, targets_iff]
  exact h

instance (s : Selection) : DecidablePred s.Wants := fun _ => decidable_of_iff _ targets_iff

/-- Among entries there is a first one that is wanted, or none is. -/
theorem first_wanted (s : Selection) (met : List Entry) :
    (∃ before e after, met = before ++ e :: after ∧ (∀ b ∈ before, ¬ s.Wants b) ∧ s.Wants e) ∨
      ∀ e ∈ met, ¬ s.Wants e := by
  rcases hit : met.find? s.targets with _ | e
  · exact .inr fun e found wanted => List.find?_eq_none.mp hit e found (targets_iff.mpr wanted)
  · obtain ⟨targeted, before, after, found, skipped⟩ := List.find?_eq_some_iff_append.mp hit
    refine .inl ⟨before, e, after, found, fun b mem wants => ?_, targets_iff.mp targeted⟩
    have passed := skipped b mem
    rw [targets_iff.mpr wants] at passed
    cases passed

/-- How a run ends that met no wanted entry: with the error of the walk, or for want of its
target, or well. -/
def withoutTarget (s : Selection) (cause : Option Error) (done : Summary) :
    Except Error Summary :=
  match cause, s.read with
  | some cause, _ => .error cause
  | none, some target => .error (.targetNotFound target)
  | none, none => .ok done

end Selection

/-! ## Courses, by what they yield -/

namespace Course

variable {c : Course} {e : Entry} {more : List Entry} {cause : Error}

theorem exists_eq_entry (found : c.entries = e :: more) :
    ∃ trail rest, c = .entry trail e rest := by
  cases c with
  | entry trail e' rest =>
    obtain ⟨rfl, -⟩ := List.cons.inj found
    exact ⟨trail, rest, rfl⟩
  | finished trail => cases found
  | failed trail cause => cases found

theorem exists_eq_finished (none_left : c.entries = []) (clean : c.cause = none) :
    ∃ trail, c = .finished trail := by
  cases c with
  | entry trail e rest => cases none_left
  | finished trail => exact ⟨trail, rfl⟩
  | failed trail cause => cases clean

theorem exists_eq_failed (none_left : c.entries = []) (failed : c.cause = some cause) :
    ∃ trail, c = .failed trail cause := by
  cases c with
  | entry trail e rest => cases none_left
  | finished trail => cases failed
  | failed trail cause' =>
    obtain rfl := Option.some.inj failed
    exact ⟨trail, rfl⟩

end Course

namespace Table

variable {t : Table} {s : Selection} {e : Entry} {done : Summary}

/-! ## Scripts, item by item -/

/-- The actions that meeting an entry begins with: what the walk reported, and the entry's name if
it is listed. -/
def approach (s : Selection) (trail : List Event) (e : Entry) : List Action :=
  trail.map .report ++ (s.shown [e]).map fun e => .line e.name

theorem listing_eq (s : Selection) (e : Entry) (done : Summary) :
    listing s e { done with scanned := done.scanned + 1 } =
      ⟨(s.shown [e]).map fun e => .line e.name, .ok (s.meeting [e] done)⟩ := by
  rw [listing, Selection.meeting, Selection.shown]
  by_cases listed : s.list = true
  · by_cases considered : s.Considers e.record
    · simp only [listed, Selection.admits_iff.mpr considered, considered, Bool.and_self, if_true,
        decide_true, List.filter_cons_of_pos, List.filter_nil]
      rfl
    · simp only [listed, mt Selection.admits_iff.mp considered, considered, Bool.and_false,
        Bool.false_eq_true, if_true, if_false, decide_false, List.filter_cons_of_neg,
        List.filter_nil, not_false_eq_true]
      rfl
  · simp only [listed, Bool.false_and, Bool.false_eq_true, if_false]
    rfl

theorem extracting_of_ok {data : Bytes} (read : t.payload e = .ok data) :
    extracting t e done =
      ⟨[.report (.seekingPayload e.dataStart), .report .payloadBegins, .payload data,
          .report .payloadEnds],
        .ok { done with extracted := some (e.dataStart, e.record.len) }⟩ := by
  rw [extracting, read]
  rfl

theorem extracting_of_error {cause : Error} (refused : t.payload e = .error cause) :
    extracting t e done = ⟨[.report (.seekingPayload e.dataStart)], .error cause⟩ := by
  rw [extracting, refused]
  rfl

/-- After an extraction nothing can be missing. -/
theorem concluding_of_some {found : UInt64 × UInt32} (extracted : done.extracted = some found) :
    concluding s done = ⟨[.flush], .ok done⟩ := by
  rw [concluding, extracted]
  rcases s.read with _ | name <;> rfl

/-- Without an extraction a run fails if one was asked for, when the output has been passed on. -/
theorem concluding_of_none (unread : done.extracted = none) :
    concluding s done = ⟨[.flush], s.withoutTarget none done⟩ := by
  simp only [concluding, Selection.withoutTarget]
  rw [unread]
  rcases s.read with _ | name <;> rfl

/-- At the end of the walk a run concludes. -/
theorem scriptOver_finished (trail : List Event) (unread : done.extracted = none) :
    t.scriptOver s (.finished trail) done =
      ⟨trail.map .report ++ [.flush], s.withoutTarget none done⟩ := by
  rw [scriptOver, reporting, Traced.bind_of_ok rfl, concluding_of_none unread]
  rfl

/-- At an error of the walk a run fails at once. -/
theorem scriptOver_failed (trail : List Event) (cause : Error) :
    t.scriptOver s (.failed trail cause) done = ⟨trail.map .report, .error cause⟩ := by
  rw [scriptOver, reporting, Traced.bind_of_ok rfl]
  simp only [Traced.trail_logAll, Traced.trail_fail, Traced.outcome_fail, List.append_nil]

/-- At an entry a run lists it if asked for, and then extracts it or goes on. -/
theorem scriptOver_entry (trail : List Event) (rest : Course) :
    t.scriptOver s (.entry trail e rest) done =
      let next :=
        if s.targets e then extracting t e (s.meeting [e] done) >>= concluding s
        else t.scriptOver s rest (s.meeting [e] done)
      ⟨approach s trail e ++ next.trail, next.outcome⟩ := by
  rw [scriptOver, reporting, Traced.bind_of_ok rfl, listing_eq, Traced.bind_of_ok rfl]
  simp only [Traced.trail_logAll, approach, List.append_assoc]

/-- An entry that is not wanted is listed if asked for, and the run goes on. -/
theorem scriptOver_of_miss (unwanted : ¬ s.Wants e) (trail : List Event) (rest : Course) :
    t.scriptOver s (.entry trail e rest) done =
      ⟨approach s trail e ++ (t.scriptOver s rest (s.meeting [e] done)).trail,
        (t.scriptOver s rest (s.meeting [e] done)).outcome⟩ := by
  rw [scriptOver_entry, Selection.targets_of_not_wants unwanted]
  rfl

/-- An entry that is wanted is extracted after it was listed, and nothing comes after it. -/
theorem scriptOver_of_hit (wanted : s.Wants e) (trail : List Event) (rest : Course)
    {data : Bytes} (read : t.payload e = .ok data) :
    t.scriptOver s (.entry trail e rest) done =
      ⟨approach s trail e ++ [.report (.seekingPayload e.dataStart), .report .payloadBegins,
          .payload data, .report .payloadEnds, .flush],
        .ok { s.meeting [e] done with extracted := some (e.dataStart, e.record.len) }⟩ := by
  rw [scriptOver_entry, Selection.targets_iff.mpr wanted, if_pos rfl, extracting_of_ok read,
    Traced.bind_of_ok rfl, concluding_of_some rfl]
  rfl

/-- Where the payload of a wanted entry cannot be read, the run fails before it writes any of it. -/
theorem scriptOver_of_refused (wanted : s.Wants e) (trail : List Event) (rest : Course)
    {cause : Error} (refused : t.payload e = .error cause) :
    t.scriptOver s (.entry trail e rest) done =
      ⟨approach s trail e ++ [.report (.seekingPayload e.dataStart)], .error cause⟩ := by
  rw [scriptOver_entry, Selection.targets_iff.mpr wanted, if_pos rfl, extracting_of_error refused,
    Traced.bind_of_error rfl]

/-! ## Whole scripts -/

/-- Reports are not part of the output. -/
theorem output_reporting (trail : List Event) :
    (trail.map Action.report).flatMap Action.output = [] := by
  simp [List.flatMap_map, Action.output]

theorem reporting_ne_flush (trail : List Event) : ∀ a ∈ trail.map Action.report, a ≠ .flush := by
  intro a found
  obtain ⟨event, -, rfl⟩ := List.mem_map.mp found
  exact nofun

theorem append_ne_flush {first second : List Action} (h : ∀ a ∈ first, a ≠ .flush)
    (h' : ∀ a ∈ second, a ≠ .flush) : ∀ a ∈ first ++ second, a ≠ .flush := by
  intro a found
  rcases List.mem_append.mp found with found | found
  · exact h a found
  · exact h' a found

/-- All that is reported of meeting an entry is what the walk reported. -/
theorem events_approach (s : Selection) (trail : List Event) (e : Entry) :
    (approach s trail e).flatMap Action.events = trail := by
  simp [approach, List.flatMap_map, Action.events]

/-- Meeting an entry writes its name if it is listed, and nothing else. -/
theorem output_approach (s : Selection) (trail : List Event) (e : Entry) :
    (approach s trail e).flatMap Action.output = s.lines [e] := by
  rw [approach, List.flatMap_append, output_reporting, List.nil_append, List.flatMap_map]
  rfl

theorem approach_ne_flush (s : Selection) (trail : List Event) (e : Entry) :
    ∀ a ∈ approach s trail e, a ≠ .flush := by
  refine append_ne_flush (reporting_ne_flush trail) fun a found => ?_
  obtain ⟨e', -, rfl⟩ := List.mem_map.mp found
  exact nofun

/-- A run passes over the entries that are not wanted: the walk to them is reported, their names are
written, they are counted, and the rest of the course decides what happens. -/
theorem scriptOver_passing {before more : List Entry} (unwanted : ∀ b ∈ before, ¬ s.Wants b)
    (c : Course) (found : c.entries = before ++ more) (done : Summary) :
    ∃ (c' : Course) (actions : List Action), c'.entries = more ∧ c'.cause = c.cause ∧
      c.blocks = c.blocks.take before.length ++ c'.blocks ∧
      actions.flatMap Action.events = (c.blocks.take before.length).flatten ∧
      actions.flatMap Action.output = s.lines before ∧ (∀ a ∈ actions, a ≠ .flush) ∧
      t.scriptOver s c done =
        ⟨actions ++ (t.scriptOver s c' (s.meeting before done)).trail,
          (t.scriptOver s c' (s.meeting before done)).outcome⟩ := by
  induction before generalizing c done with
  | nil =>
    refine ⟨c, [], found, rfl, rfl, rfl, (s.lines_nil).symm,
      fun a none => absurd none List.not_mem_nil, ?_⟩
    rw [s.meeting_nil]
    rfl
  | cons b before ih =>
    -- the first entry of the course is passed over, and leaves what `scriptOver_of_miss` says
    obtain ⟨trail, rest, rfl⟩ := Course.exists_eq_entry found
    obtain ⟨-, found'⟩ := List.cons.inj found
    have later : ∀ b ∈ before, ¬ s.Wants b :=
      fun b mem => unwanted b (List.mem_cons_of_mem _ mem)
    obtain ⟨c', actions, entries_eq, cause_eq, blocks_eq, events_eq, output_eq, no_flush,
      script_eq⟩ := ih later rest found' (s.meeting [b] done)
    have split : b :: before = [b] ++ before := rfl
    refine ⟨c', approach s trail b ++ actions, entries_eq, cause_eq,
      congrArg (trail :: ·) blocks_eq, ?_, ?_,
      append_ne_flush (approach_ne_flush s trail b) no_flush, ?_⟩
    · rw [List.flatMap_append, events_approach, events_eq]
      rfl
    · rw [List.flatMap_append, output_approach, output_eq, split, s.lines_append [b]]
    · rw [scriptOver_of_miss (unwanted b List.mem_cons_self), script_eq, split,
        s.meeting_append [b], List.append_assoc]

section Whole

variable {before after : List Entry}

/-- A run with a wanted entry writes the names up to it and its payload. -/
theorem script_extracts (found : t.course.entries = before ++ e :: after)
    (unwanted : ∀ b ∈ before, ¬ s.Wants b) (wanted : s.Wants e) {data : Bytes}
    (read : t.payload e = .ok data) :
    (t.script s).Closes (s.lines (before ++ [e]) ++ data) ∧
      (t.script s).outcome =
        .ok ⟨before.length + 1, (s.shown (before ++ [e])).length,
          some (e.dataStart, e.record.len)⟩ := by
  obtain ⟨c, actions, entries_eq, -, -, -, output_eq, no_flush, script_eq⟩ :=
    scriptOver_passing (t := t) unwanted t.course found .empty
  obtain ⟨trail, rest, rfl⟩ := Course.exists_eq_entry entries_eq
  rw [scriptOver_of_hit wanted trail rest read, ← s.meeting_append] at script_eq
  rw [script, script_eq]
  constructor
  · refine ⟨actions ++ (approach s trail e ++ [.report (.seekingPayload e.dataStart),
      .report .payloadBegins, .payload data, .report .payloadEnds]), ?_, ?_, ?_⟩
    · refine append_ne_flush no_flush (append_ne_flush (approach_ne_flush s trail e) ?_)
      simp
    · simp only [List.append_assoc, List.cons_append, List.nil_append]
    · rw [List.flatMap_append, List.flatMap_append, output_eq, output_approach, s.lines_append]
      simp [Action.output]
  · simp [Selection.meeting, Summary.empty]

/-- A run with a wanted entry whose payload is refused writes the names up to it and breaks off. -/
theorem script_refuses (found : t.course.entries = before ++ e :: after)
    (unwanted : ∀ b ∈ before, ¬ s.Wants b) (wanted : s.Wants e) {cause : Error}
    (refused : t.payload e = .error cause) :
    (t.script s).Breaks (s.lines (before ++ [e])) ∧ (t.script s).outcome = .error cause := by
  obtain ⟨c, actions, entries_eq, -, -, -, output_eq, no_flush, script_eq⟩ :=
    scriptOver_passing (t := t) unwanted t.course found .empty
  obtain ⟨trail, rest, rfl⟩ := Course.exists_eq_entry entries_eq
  rw [scriptOver_of_refused wanted trail rest refused] at script_eq
  rw [script, script_eq]
  refine ⟨⟨?_, ?_⟩, rfl⟩
  · refine append_ne_flush no_flush (append_ne_flush (approach_ne_flush s trail e) ?_)
    simp
  · rw [Script.output, List.flatMap_append, List.flatMap_append, output_eq, output_approach,
      s.lines_append]
    simp [Action.output]

/-- A run without a wanted entry writes all the names, and concludes if the walk ended well. -/
theorem script_finishes (unwanted : ∀ e ∈ t.course.entries, ¬ s.Wants e)
    (clean : t.course.cause = none) :
    (t.script s).Closes (s.lines t.course.entries) ∧
      (t.script s).outcome =
        s.withoutTarget none
          ⟨t.course.entries.length, (s.shown t.course.entries).length, none⟩ := by
  obtain ⟨c, actions, entries_eq, cause_eq, -, -, output_eq, no_flush, script_eq⟩ :=
    scriptOver_passing (t := t) unwanted t.course (List.append_nil _).symm .empty
  obtain ⟨trail, rfl⟩ := Course.exists_eq_finished entries_eq (cause_eq.trans clean)
  rw [scriptOver_finished trail rfl] at script_eq
  rw [script, script_eq]
  constructor
  · refine ⟨actions ++ trail.map .report, append_ne_flush no_flush (reporting_ne_flush trail),
      (List.append_assoc ..).symm, ?_⟩
    rw [List.flatMap_append, output_eq, output_reporting, List.append_nil]
  · simp [Selection.meeting, Summary.empty]

/-- A run without a wanted entry writes all the names, and breaks off if the walk did. -/
theorem script_fails (unwanted : ∀ e ∈ t.course.entries, ¬ s.Wants e) {cause : Error}
    (failed : t.course.cause = some cause) :
    (t.script s).Breaks (s.lines t.course.entries) ∧ (t.script s).outcome = .error cause := by
  obtain ⟨c, actions, entries_eq, cause_eq, -, -, output_eq, no_flush, script_eq⟩ :=
    scriptOver_passing (t := t) unwanted t.course (List.append_nil _).symm .empty
  obtain ⟨trail, rfl⟩ := Course.exists_eq_failed entries_eq (cause_eq.trans failed)
  rw [scriptOver_failed] at script_eq
  rw [script, script_eq]
  refine ⟨⟨append_ne_flush no_flush (reporting_ne_flush trail), ?_⟩, rfl⟩
  rw [Script.output, List.flatMap_append, output_eq, output_reporting, List.append_nil]

end Whole

end Table

end BootRom

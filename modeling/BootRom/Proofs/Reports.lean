import BootRom.Proofs.Scripts
import BootRom.Proofs.Wording

/-!
# What a walk and a run report

Reports come from three places: a walk makes a block of them for each entry that it
finds, a run adds a few when it extracts a payload, and a performance passes on
what its script reports for as long as its writer goes along.

* `Event.tried` is the place that a report names as tried; `Event.linesWith_place` finds these places
  in the log.
* `block` is the account of an entry, and `Chain.blocks_eq` says that the walk of an open table
  gives exactly this account of each of its entries, in order.
* `play_events`: a performance that is not cut short reports all that its actions do.
* `tried_script`: a run with a wanted entry has tried the places of the entries up to that
  one, in order, and no others. This is how far it has scanned, however it ends.
-/

namespace BootRom

open Format Memory Output

/-- The address that was tried for a record, in the report of such an attempt. -/
def Event.tried : Event → Option UInt64
  | .candidate address => some address
  | _ => none

theorem Event.candidate_kind_eq_iff {e : Event} :
    (candidate 0).kind = e.kind ↔ ∃ address, e = .candidate address := by
  cases e <;> simp [kind, level, label]

/-- The lines of a log that begin as those of places do are the lines of the places tried. -/
theorem Event.linesWith_place (events : List Event) :
    linesWith "Potential CBFS File Offset: " (events.map logged) =
      (events.filterMap tried).map placeLine := by
  refine (linesWith_logged (candidate 0) events).trans ?_
  induction events with
  | nil => rfl
  | cons e events ih =>
    by_cases place : (candidate 0).kind = e.kind
    · obtain ⟨address, rfl⟩ := candidate_kind_eq_iff.mp place
      rw [List.filter_cons_of_pos (by exact decide_eq_true place), List.map_cons,
        logged_candidate, ih]
      rfl
    · have untried : e.tried = none := by
        cases e with
        | candidate address => exact absurd rfl place
        | _ => rfl
      rw [List.filter_cons_of_neg (by simpa using place), ih, List.filterMap_cons_none untried]

/-! ## Reports of the walk -/

namespace Table

variable {t : Table} {i : Nat} {c next : Cursor} {e : Entry} {ending : Option Error}
  {es : List Entry}

/-- A step that finds an entry reports the place, the magic, the record, its name and the way to
the next place, in this order. -/
theorem trail_step_of_found (found : (t.step c).outcome = .ok (some (e, next))) :
    ∃ distance, alignUp e.record.extent t.align = .ok distance ∧ next = c.advance distance ∧
      (t.step c).trail = .candidate e.address :: .recordMagic Record.magicBytes ::
        (recordReports e.record ++ .recordName e.name ::
          t.strideReports e.record distance next) := by
  obtain ⟨below, marked, read⟩ := step_eq_some_iff.mp found
  obtain ⟨record, name, distance, recorded, named, rounded, rfl, rfl⟩ := readEntry_eq_ok_iff.mp read
  refine ⟨distance, rounded, rfl, ?_⟩
  have reports : (t.readEntry c).trail = recordReports record ++ .recordName name ::
      t.strideReports record distance (c.advance distance) := by
    rw [readEntry, recorded]
    simp only [Traced.ofExcept_ok_bind, named, rounded]
    rfl
  rw [step, if_neg (UInt64.not_le.mpr below), marked]
  simp only [Traced.log_bind, if_true]
  rw [Traced.bind_of_ok read, reports]
  simp only [Traced.trail_pure, List.append_nil]

/-- The magic of an entry's record is the one that marks records. -/
theorem EntryAt.magic_eq (here : t.EntryAt i e) : e.record.magic = Record.magicBytes := by
  rw [here.record_eq, headerAt, Record.decode, List.take_take]
  exact here.marked

/-- The account that a walk gives of an entry: where it was tried, what was read there, and where
the next one is looked for. -/
def block (t : Table) (e : Entry) : List Event :=
  let distance := UInt64.ofNat (t.stride e.record)
  .candidate e.address :: .recordMagic e.record.magic ::
    (recordReports e.record ++
      [.recordName e.name, .recordExtent e.record.extent, .alignment t.align, .stride distance,
        .nextCandidate (Address.saturatingAdd e.address distance)])

theorem trail_step_of_entry (sound : t.Sound) (here : t.EntryAt i e) :
    (t.step (t.cursorAt i)).trail = t.block e := by
  obtain ⟨distance, rounded, -, trail_eq⟩ := trail_step_of_found (step_of_entry sound here)
  have distance_eq : distance.toNat = t.stride e.record := by
    rw [toNat_of_alignUp rounded, Record.toNat_extent, stride]
  have inside := here.header_inside
  obtain ⟨address_eq, -⟩ := sound.toNat_cursorAt_of_inside (i := i) (by omega)
  have same : (t.cursorAt i).address = e.address :=
    UInt64.toNat_inj.mp (address_eq.trans here.address_eq.symm)
  have onward : (t.cursorAt (i + distance.toNat)).address =
      Address.saturatingAdd e.address distance := by
    rw [← t.advance_cursorAt i distance, Cursor.advance, same]
  rw [trail_eq, block, ← distance_eq, UInt64.ofNat_toNat, here.magic_eq, strideReports, onward]

/-- The walk gives its account of each entry, in order. -/
theorem Chain.blocks_eq (sound : t.Sound) (chain : t.Chain i es ending) :
    (t.courseFrom (t.walkAt i)).blocks = es.map t.block := by
  induction chain with
  | finished unmarked =>
    rw [courseFrom_of_none (next_of_unmarked sound unmarked)]
    rfl
  | failed corrupt =>
    rw [courseFrom_of_error (next_of_corrupt sound corrupt)]
    rfl
  | @entry i e rest ending here beyond ih =>
    rw [courseFrom_of_entry (next_of_entry sound here), trail_step_of_entry sound here]
    exact congrArg (t.block e :: ·) ih

theorem Sound.blocks_course (sound : t.Sound) :
    t.course.blocks = t.course.entries.map t.block := by
  have blocks_eq := (chain_course sound).blocks_eq sound
  rwa [← course_eq_courseFrom] at blocks_eq

/-- Each account names one place that was tried. -/
theorem tried_blocks (es : List Entry) :
    ((es.map t.block).flatten).filterMap Event.tried = es.map (·.address) := by
  induction es with
  | nil => rfl
  | cons e es ih =>
    rw [List.map_cons, List.flatten_cons, List.filterMap_append, ih]
    rfl

end Table

/-! ## Reports of a performance -/

namespace Output

variable {σ α : Type} [Writer σ]

/-- All that a script reports. -/
def Script.reports (script : Script α) : List Event := script.trail.flatMap Action.events

/-- A performance that is not cut short reports what its actions do. -/
theorem play_events {w : σ} {actions : List Action} (through : (play w actions).fault = none) :
    (play w actions).events = actions.flatMap Action.events := by
  induction actions generalizing w with
  | nil => rfl
  | cons action rest ih =>
    rcases stopped : (action.deliver w).fault with _ | fault
    · rw [play_cons_of_none stopped] at through ⊢
      dsimp only at through ⊢
      rw [ih through, List.flatMap_cons]
    · rw [play_cons_of_some stopped] at through
      cases through

end Output

/-! ## Reports of a run -/

namespace Table

variable {t : Table} {s : Selection} {before after : List Entry} {e : Entry}

/-- An extraction tries no further place. -/
theorem tried_extracting (t : Table) (s : Selection) (e : Entry) (done : Summary) :
    ((extracting t e done >>= concluding s).trail.flatMap Action.events).filterMap Event.tried =
      [] := by
  rcases read : t.payload e with cause | data
  · rw [extracting_of_error read, Traced.bind_of_error rfl]
    rfl
  · rw [extracting_of_ok read, Traced.bind_of_ok rfl, concluding_of_some rfl]
    rfl

/-- A run with a wanted entry has tried the entries up to it, and nothing else. -/
theorem tried_script (sound : t.Sound) (found : t.course.entries = before ++ e :: after)
    (unwanted : ∀ b ∈ before, ¬ s.Wants b) (wanted : s.Wants e) :
    (t.script s).reports.filterMap Event.tried = (before ++ [e]).map (·.address) := by
  obtain ⟨c, actions, entries_eq, -, blocks_eq, events_eq, -, -, script_eq⟩ :=
    scriptOver_passing (t := t) unwanted t.course found .empty
  obtain ⟨trail, rest, rfl⟩ := Course.exists_eq_entry entries_eq
  -- the accounts of the walk, split where the run stops
  have accounts : (before ++ e :: after).map t.block =
      t.course.blocks.take before.length ++ trail :: rest.blocks := by
    rw [← found, ← sound.blocks_course]
    exact blocks_eq
  rw [List.map_append, List.map_cons] at accounts
  have lengths : (before.map t.block).length = (t.course.blocks.take before.length).length := by
    rw [sound.blocks_course, found, List.length_take, List.length_map, List.length_map,
      List.length_append]
    omega
  obtain ⟨passed, here⟩ := List.append_inj accounts lengths
  obtain ⟨rfl, -⟩ := List.cons.inj here
  rw [scriptOver_entry, Selection.targets_iff.mpr wanted, if_pos rfl] at script_eq
  rw [Script.reports, script, script_eq]
  dsimp only
  rw [List.flatMap_append, List.flatMap_append, events_eq, events_approach, ← passed,
    List.filterMap_append, List.filterMap_append, tried_extracting, tried_blocks, List.map_append]
  rfl

end Table

end BootRom

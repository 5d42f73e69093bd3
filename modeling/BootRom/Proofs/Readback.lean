import BootRom.Proofs.Names
import BootRom.Proofs.Reports
import BootRom.Proofs.Spacing

/-!
# What is listed can be read

Listing cuts a name at its first zero; reading compares a target with as much of a name as
its buffer holds. A name that was listed is always found again when it is asked for, but not
always in the entry that it was listed for: an earlier entry may accept it too, and comes first.

* `Selection.first_wanted_of_wants`: where an entry is wanted, the first one that is wanted is
  that entry or comes before it.
* `Selection.bytes_eq_of_wants`: a name that ends in its buffer is wanted only by its own bytes.
* `run_of_first_wanted`: what a run comes to from the first entry that is wanted on.
* `run_reads_listed` puts this together.
-/

namespace BootRom

open Format Output

namespace Selection

variable {s : Selection} {e : Entry} {name : String}

/-- An entry is wanted by its own name, if its type is considered. -/
theorem wants_of_spelled (considered : s.Considers e.record) (asked : s.read = some name)
    (spelled : Text.encode name = e.name.bytes) : s.Wants e :=
  ⟨considered, name, asked, by rw [spelled]; exact e.name.accepts_bytes⟩

/-- A name that ends in its buffer is wanted only where it is spelled out. -/
theorem bytes_eq_of_wants (wanted : s.Wants e) (asked : s.read = some name)
    (no_zero : 0 ∉ Text.encode name) (closed : 0 ∈ e.name.buffer) :
    e.name.bytes = Text.encode name := by
  obtain ⟨-, target, same, accepted⟩ := wanted
  rw [asked] at same
  obtain rfl := Option.some.inj same
  rw [Name.bytes_eq_of_accepts closed accepted, beforeZero_of_notMem no_zero]

/-- Where an entry is wanted, the first wanted one is before it, or is that entry. -/
theorem first_wanted_of_wants (wanted : s.Wants e) (before after : List Entry) :
    ∃ passed d later, before ++ e :: after = passed ++ d :: later ∧
      (∀ b ∈ passed, ¬ s.Wants b) ∧ s.Wants d ∧
      ((d ∈ before ∧ passed.length < before.length) ∨
        passed = before ∧ d = e ∧ later = after) := by
  rcases s.first_wanted before with ⟨passed, d, between, rfl, unwanted, wanted'⟩ | unwanted
  · refine ⟨passed, d, between ++ e :: after, by simp, unwanted, wanted', .inl ⟨by simp, ?_⟩⟩
    rw [List.length_append, List.length_cons]
    omega
  · exact ⟨before, e, after, rfl, unwanted, wanted, .inr ⟨rfl, rfl, rfl⟩⟩

end Selection

namespace Table

variable {σ : Type} [Writer σ] {t : Table} {s : Selection}

/-- A run on a writer that never fails tries the entries up to the first wanted one, and no
further place. It extracts that entry, or finds its payload truncated, and that only if no entry
follows. -/
theorem run_of_first_wanted {passed later : List Entry} {d : Entry} {w : σ} (sound : t.Sound)
    (found : t.course.entries = passed ++ d :: later) (unwanted : ∀ b ∈ passed, ¬ s.Wants b)
    (wanted : s.Wants d) (unfailing : Unfailing w) :
    (t.run s w).events.filterMap Event.tried = (passed ++ [d]).map (·.address) ∧
      (((t.run s w).outcome =
            .ok ⟨passed.length + 1, (s.shown (passed ++ [d])).length,
              some (d.dataStart, d.record.len)⟩ ∧
          t.payload d = .ok (t.payloadBytes d) ∧
          accepted (t.run s w).calls = s.lines (passed ++ [d]) ++ t.payloadBytes d) ∨
        ((t.run s w).outcome =
            .error (.truncatedFile d.name.display d.dataStart d.record.len t.limit) ∧
          accepted (t.run s w).calls = s.lines (passed ++ [d]) ∧ later = [])) := by
  obtain ⟨through, -⟩ := play_of_unfailing unfailing (t.script s).trail
  obtain ⟨outcome_eq, output_eq⟩ := Script.perform_of_unfailing unfailing (t.script s)
  have mem : d ∈ t.course.entries := by
    rw [found]
    exact List.mem_append_right _ List.mem_cons_self
  obtain ⟨-, read, refused⟩ := sound.payload_cases mem
  constructor
  · rw [← tried_script sound found unwanted wanted]
    exact congrArg (List.filterMap Event.tried) (play_events through)
  · rcases Nat.lt_or_ge t.limit.toNat d.reach with outside | inside
    · refine .inr ?_
      obtain ⟨breaks, ends⟩ := script_refuses found unwanted wanted (refused outside)
      refine ⟨outcome_eq.trans ends, output_eq.trans breaks.2, ?_⟩
      -- an entry that another one follows ends within the table
      by_contra some_later
      have followed : d ∈ t.course.entries.dropLast := by
        rw [found, List.dropLast_append_of_ne_nil (List.cons_ne_nil d later),
          List.dropLast_cons_of_ne_nil some_later]
        exact List.mem_append_right _ List.mem_cons_self
      have inside := sound.reach_le_limit_of_dropLast followed
      omega
    · refine .inl ?_
      obtain ⟨closes, ends⟩ := script_extracts found unwanted wanted (read inside)
      exact ⟨outcome_eq.trans ends, read inside, output_eq.trans closes.output_eq⟩

/-- **What is listed can be read.** Let `e` be an entry of an open table whose name, cut at its first
zero, spells a text, and let a run ask for that text, of any type or of the type of `e`, on a
writer that never fails, and list names or not. Then there is an entry `d`, at `e` or before it,
that is the first one wanted, and:

* the run tries the entries up to `d` and no further place, and it extracts `d` or finds its payload
  truncated; the latter only if `d` is the last entry of the walk;
* if all entries before `e` that are considered have names that end in their buffers, the name of
  `d` is the one that was asked for; and if none of them has that name, then `d` is `e`. -/
theorem run_reads_listed {t : Table} (opened : t.Opened) {before after : List Entry} {e : Entry}
    (found : t.course.entries = before ++ e :: after) {name : String}
    (spelled : Text.encode name = e.name.bytes) {filter : Option UInt32}
    (filtered : filter = none ∨ filter = some e.record.fileType) (list : Bool) {w : σ}
    (unfailing : Unfailing w) :
    let s : Selection := ⟨list, some name, filter⟩
    ∃ passed d later, t.course.entries = passed ++ d :: later ∧ passed.length ≤ before.length ∧
      (∀ b ∈ passed, ¬ s.Wants b) ∧ s.Wants d ∧
      (t.run s w).events.filterMap Event.tried = (passed ++ [d]).map (·.address) ∧
      (((t.run s w).outcome =
            .ok ⟨passed.length + 1, (s.shown (passed ++ [d])).length,
              some (d.dataStart, d.record.len)⟩ ∧
          t.payload d = .ok (t.payloadBytes d) ∧
          accepted (t.run s w).calls = s.lines (passed ++ [d]) ++ t.payloadBytes d) ∨
        ((t.run s w).outcome =
            .error (.truncatedFile d.name.display d.dataStart d.record.len t.limit) ∧
          accepted (t.run s w).calls = s.lines (passed ++ [d]) ∧ later = [])) ∧
      ((∀ b ∈ before, s.Considers b.record → 0 ∈ b.name.buffer) →
        d.name.bytes = Text.encode name ∧
          ((∀ b ∈ before, s.Considers b.record → b.name.bytes ≠ Text.encode name) →
            passed = before ∧ d = e ∧ later = after)) := by
  intro s
  have wanted : s.Wants e := Selection.wants_of_spelled filtered rfl spelled
  obtain ⟨passed, d, later, split, unwanted, wanted', place⟩ :=
    Selection.first_wanted_of_wants wanted before after
  obtain ⟨tried, ends⟩ :=
    run_of_first_wanted opened.sound (found.trans split) unwanted wanted' unfailing
  refine ⟨passed, d, later, found.trans split, ?_, unwanted, wanted', tried, ends, fun closed => ?_⟩
  · rcases place with ⟨-, shorter⟩ | ⟨rfl, -, -⟩
    · exact Nat.le_of_lt shorter
    · exact Nat.le_refl _
  · have no_zero : 0 ∉ Text.encode name := spelled ▸ e.name.zero_notMem_bytes
    rcases place with ⟨mem, -⟩ | ⟨rfl, rfl, rfl⟩
    · have named : d.name.bytes = Text.encode name :=
        Selection.bytes_eq_of_wants wanted' rfl no_zero (closed d mem wanted'.1)
      exact ⟨named, fun unshared => absurd named (unshared d mem wanted'.1)⟩
    · exact ⟨spelled.symm, fun _ => ⟨rfl, rfl, rfl⟩⟩

/-- Both names of the small table are listed, and asking for the second one, of its own type, leads
to its file. -/
theorem run_reads_listed_smallTable :
    smallTable.Opened ∧ Unfailing (⟨[], [], some 2⟩ : ScriptedWriter) ∧
      accepted (smallTable.run .listing (⟨[], [], some 2⟩ : ScriptedWriter)).calls =
        [0x61, newline] ++ Text.encode "b" ++ [newline] ∧
      (smallTable.run ((Selection.reading "b").ofType 0x10)
          (⟨[], [], some 2⟩ : ScriptedWriter)).events.filterMap Event.tried =
        [0xffffff94, 0xffffffb4] ∧
      accepted (smallTable.run ((Selection.reading "b").ofType 0x10)
          (⟨[], [], some 2⟩ : ScriptedWriter)).calls = Record.magicBytes := by
  let a : Entry := ⟨0xffffff94, ⟨Record.magicBytes, 3, 0x50, 0, 26⟩, ⟨[0x61, 0]⟩⟩
  let b : Entry := ⟨0xffffffb4, ⟨Record.magicBytes, 8, 0x10, 0, 26⟩, ⟨[0x62, 0]⟩⟩
  have found : smallTable.course.entries = [a] ++ b :: [] := by decide +kernel
  have spelled : Text.encode "b" = b.name.bytes := by decide +kernel
  have filtered : (some 0x10 : Option UInt32) = none ∨ some 0x10 = some b.record.fileType :=
    .inr rfl
  obtain ⟨passed, d, later, -, -, -, -, tried, ends, known⟩ :=
    run_reads_listed opened_smallTable found spelled filtered false unfailing_twoByTwo
  obtain ⟨-, alone⟩ := known (by decide +kernel)
  obtain ⟨rfl, rfl, rfl⟩ := alone (by decide +kernel)
  have succeeded : (smallTable.run ((Selection.reading "b").ofType 0x10)
      (⟨[], [], some 2⟩ : ScriptedWriter)).outcome = .ok ⟨2, 0, some (0xffffffce, 8)⟩ := by
    decide +kernel
  obtain ⟨-, -, output⟩ :=
    ends.resolve_right fun truncated => nomatch succeeded.symm.trans truncated.1
  exact ⟨opened_smallTable, unfailing_twoByTwo, by decide +kernel, tried,
    output.trans (by decide +kernel)⟩

end Table

end BootRom

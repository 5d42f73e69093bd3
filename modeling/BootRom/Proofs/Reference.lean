import BootRom.Proofs.Scripts

/-!
# What a run comes to

A run goes over a table record by record, and lists, compares and extracts as it
goes. What it comes to can be said from the entries of the table alone, and
`run_eq_reference` says it, for every open table and every writer that never fails:
the first wanted entry, if there is one, decides everything, and what follows it does
not matter; otherwise the way in which the walk ends does.
-/

namespace BootRom

open Output

namespace Table

variable {σ : Type} [Writer σ]

/-- **A run is its reference.** On a writer that never fails, a run over an open table comes to
what the entries of the table and the end of its walk say:

* at the first wanted entry, names up to it and its payload are written, if the payload ends
  within the table; if it does not, the names alone are, and the run fails with what was truncated;
* without a wanted entry all names are written, and the run ends with the error of the walk, or
  fails for want of its target, or ends well if there was none. -/
theorem run_eq_reference {t : Table} (opened : t.Opened) (s : Selection) {w : σ}
    (unfailing : Unfailing w) :
    (∀ before e after, t.course.entries = before ++ e :: after →
      (∀ b ∈ before, ¬ s.Wants b) → s.Wants e →
      (e.address.toNat + e.record.offset.toNat + e.record.len.toNat ≤ t.limit.toNat →
        (t.run s w).outcome =
            .ok ⟨before.length + 1, (s.shown (before ++ [e])).length,
              some (e.dataStart, e.record.len)⟩ ∧
          e.dataStart.toNat = e.address.toNat + e.record.offset.toNat ∧
          accepted (t.run s w).calls = s.lines (before ++ [e]) ++ t.payloadBytes e) ∧
      (t.limit.toNat < e.address.toNat + e.record.offset.toNat + e.record.len.toNat →
        (t.run s w).outcome =
            .error (.truncatedFile e.name.display e.dataStart e.record.len t.limit) ∧
          e.dataStart.toNat = e.address.toNat + e.record.offset.toNat ∧
          accepted (t.run s w).calls = s.lines (before ++ [e]))) ∧
    ((∀ e ∈ t.course.entries, ¬ s.Wants e) →
      accepted (t.run s w).calls = s.lines t.course.entries ∧
        (t.run s w).outcome =
          match t.course.cause, s.read with
          | some cause, _ => .error cause
          | none, some target => .error (.targetNotFound target)
          | none, none =>
            .ok ⟨t.course.entries.length, (s.shown t.course.entries).length, none⟩) := by
  obtain ⟨outcome_eq, output_eq⟩ := Script.perform_of_unfailing unfailing (t.script s)
  constructor
  · intro before e after found unwanted wanted
    have mem : e ∈ t.course.entries := by
      rw [found]
      exact List.mem_append_right _ List.mem_cons_self
    obtain ⟨data_eq, read, refused⟩ := opened.sound.payload_cases mem
    -- what follows the wanted entry is `after`, and does not occur in either script
    constructor
    · intro inside
      obtain ⟨closes, ends⟩ := script_extracts found unwanted wanted (read inside)
      exact ⟨outcome_eq.trans ends, data_eq, output_eq.trans closes.output_eq⟩
    · intro outside
      obtain ⟨breaks, ends⟩ := script_refuses found unwanted wanted (refused outside)
      exact ⟨outcome_eq.trans ends, data_eq, output_eq.trans breaks.2⟩
  · intro unwanted
    -- the walk ends before any target is asked about, so its error comes first
    rcases cause_eq : t.course.cause with _ | cause
    · obtain ⟨closes, ends⟩ := script_finishes unwanted cause_eq
      exact ⟨output_eq.trans closes.output_eq, outcome_eq.trans ends⟩
    · obtain ⟨breaks, ends⟩ := script_fails unwanted cause_eq
      exact ⟨output_eq.trans breaks.2, outcome_eq.trans ends⟩

/-- Listing the files of one type in the small table and extracting the second one: the first file
is of another type, and is neither listed nor wanted. -/
theorem run_smallTable :
    smallTable.Opened ∧ Unfailing (⟨[], [], some 2⟩ : ScriptedWriter) ∧
      (smallTable.run ⟨true, some "b", some 0x10⟩ (⟨[], [], some 2⟩ : ScriptedWriter)).outcome =
        .ok ⟨2, 1, some (0xffffffce, 8)⟩ ∧
      accepted
          (smallTable.run ⟨true, some "b", some 0x10⟩ (⟨[], [], some 2⟩ : ScriptedWriter)).calls =
        [0x62, newline] ++ Format.Record.magicBytes := by
  let a : Entry := ⟨0xffffff94, ⟨Format.Record.magicBytes, 3, 0x50, 0, 26⟩, ⟨[0x61, 0]⟩⟩
  let b : Entry := ⟨0xffffffb4, ⟨Format.Record.magicBytes, 8, 0x10, 0, 26⟩, ⟨[0x62, 0]⟩⟩
  obtain ⟨outcome_eq, -, output_eq⟩ :=
    ((run_eq_reference opened_smallTable ⟨true, some "b", some 0x10⟩ unfailing_twoByTwo).1
      [a] b [] (by decide +kernel) (by decide +kernel) (by decide +kernel)).1 (by decide +kernel)
  exact ⟨opened_smallTable, unfailing_twoByTwo, outcome_eq.trans (by decide +kernel),
    output_eq.trans (by decide +kernel)⟩

end Table

end BootRom

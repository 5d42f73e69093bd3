import BootRom.Proofs.Guarded
import BootRom.Proofs.Reachable

/-!
# Reading a table never leaves a range

A table is read with plain sums, differences and positions, which would go wrong at the end of
the address space and at the end of the window. None of them ever gets there, whatever memory the
table was opened in and whatever its header and its records say.

* A `Backend` is physical memory of any kind. All that is known of it is that a buffer which it
  filled is as long as it was, and what is opened there is `Table.Sound` (`sound_of_ofHeader`).
* `Table.StaysInRange` says of a table what was promised: with a guard on every operation, its
  parts are read as they are without. By `Sound.staysInRange` it follows from the invariant, once
  the window of the table is the whole region of its header.
* `ofHeader_staysInRange`: every table that was opened stays in range.
-/

namespace BootRom

open Format Memory

/-! ## Tables -/

namespace Table

variable {t : Table} {top : UInt64}

/-- Reading a table that ends at a top never leaves a range. -/
structure StaysInRange (t : Table) (top : UInt64) : Prop where
  /-- the region that the header places is taken apart without passing below zero -/
  placed : t.located.header.region top = .ok ⟨t.start, top⟩ ∧
    Address.checkedSub top t.start = some t.window.size
  /-- the sum of start and size is the top, so the limit and the last report name it -/
  ended : Guarded.limit t.window = some top ∧ t.limit = top ∧ t.releasing = .released t.start top
  /-- every step that a walk takes stays in range -/
  steps : ∀ {a : Nat} {w : Walk}, t.Reaches a w →
    (Guarded.step t w.cursor).run = some (t.step w.cursor).outcome
  /-- and reports no range that leaves the address space -/
  reports : ∀ {a : Nat} {w : Walk}, t.Reaches a w →
    (t.step w.cursor).outcome ≠ .error .addressOverflow
  /-- the extent of every record is rounded up -/
  rounds : ∀ r : Record, ∃ distance, alignUp r.extent t.align = .ok distance
  /-- the payload of an entry that was found starts where its record says, not beyond the top -/
  starts : ∀ {e : Entry}, e ∈ t.course.entries →
    Address.checkedAdd e.address e.record.offset.toUInt64 = some e.dataStart ∧ e.dataStart ≤ top
  /-- reading it stays in range -/
  payloads : ∀ {e : Entry}, e ∈ t.course.entries →
    (Guarded.payload t e).run = some (t.payload e)
  /-- and fails only for being truncated -/
  truncates : ∀ {e : Entry} {cause : Error}, e ∈ t.course.entries → t.payload e = .error cause →
    cause = .truncatedFile e.name.display e.dataStart e.record.len top

/-- Why a record cannot be read is never that a range leaves the address space. -/
theorem CorruptAt.ne_addressOverflow {i : Nat} {cause : Error} (corrupt : t.CorruptAt i cause) :
    cause ≠ .addressOverflow := by
  cases corrupt <;> exact nofun

theorem Sound.step_ne_addressOverflow (sound : t.Sound) (i : Nat) :
    (t.step (t.cursorAt i)).outcome ≠ .error .addressOverflow := by
  rcases chain_cases sound i with unmarked | ⟨cause, corrupt⟩ | ⟨e, here⟩
  · rw [step_of_unmarked sound unmarked]
    exact nofun
  · rw [step_of_corrupt sound corrupt]
    intro overflown
    exact corrupt.ne_addressOverflow (Except.error.inj overflown)
  · rw [step_of_entry sound here]
    exact nofun

/-- Beyond `Sound`, a table stays in range once the region of its header is its window. -/
theorem Sound.staysInRange (sound : t.Sound)
    (placed : t.located.header.region top = .ok ⟨t.start, top⟩) (limit_eq : t.limit = top) :
    t.StaysInRange top := by
  have size_eq := sound.toNat_size
  have toNat_limit := sound.toNat_limit
  subst limit_eq
  refine ⟨⟨placed, ?_⟩, ⟨Guarded.limit_eq sound, rfl, rfl⟩, ?_, ?_, ?_, ?_, ?_, ?_⟩
  · exact Address.checkedSub_eq_some_iff.mpr ⟨by omega, by omega⟩
  · intro a w reached
    obtain ⟨i, -, rfl⟩ := reached.exists_walkAt sound
    exact Guarded.step_eq sound i
  · intro a w reached
    obtain ⟨i, -, rfl⟩ := reached.exists_walkAt sound
    exact sound.step_ne_addressOverflow i
  · intro r
    obtain ⟨distance, rounded, -⟩ := sound.alignUp_extent r
    exact ⟨distance, rounded⟩
  · intro e found
    obtain ⟨above, below⟩ := sound.entry_bounds found
    obtain ⟨data_eq, -, -⟩ := sound.payload_cases found
    have limit_lt := t.limit.toNat_lt
    refine ⟨?_, UInt64.le_iff_toNat_le.mpr (by omega)⟩
    rw [Address.checkedAdd_eq_some_iff, UInt32.toNat_toUInt64]
    exact ⟨by omega, data_eq⟩
  · intro e found
    exact Guarded.payload_eq sound found
  · intro e cause found refused
    obtain ⟨-, inside, outside⟩ := sound.payload_cases found
    rcases Nat.lt_or_ge t.limit.toNat
        (e.address.toNat + e.record.offset.toNat + e.record.len.toNat) with beyond | within
    · rw [outside beyond] at refused
      exact (Except.error.inj refused).symm
    · rw [inside within] at refused
      cases refused

end Table

/-! ## Opened tables -/

/-- **Reading never leaves a range.** Take physical memory of any kind, any header and any top. If
a table opens, then no sum in reading it wraps around, no difference passes below zero, and no run
or word is taken out of too few bytes, in any step of its walk and for the payload of any entry
that is found. Nor is a word taken out of too few in decoding a header that memory answers with. -/
theorem Backend.ofHeader_staysInRange {b : Backend} {located : LocatedHeader} {top : UInt64}
    {t : Table} (opened : (b.ofHeader located top).outcome = .ok t) :
    t.StaysInRange top ∧
      ∀ address run, (b.fetch address (UInt64.ofNat Header.size)).outcome = .ok run →
        Guarded.header (Bytes.contents run) = some (Header.decode (Bytes.contents run)) := by
  have sound := Table.sound_of_ofHeader opened
  obtain ⟨-, region, bytes, placed, answer, rfl⟩ := Table.ofHeader_eq_ok_iff.mp opened
  have size_eq := size_of_read answer
  obtain ⟨rom_le, offset_le, start_eq, limit_eq⟩ := Header.region_eq_ok_iff.mp placed
  obtain ⟨start, limit⟩ := region
  dsimp only at start_eq limit_eq size_eq
  subst limit_eq
  constructor
  · have start_le : start ≤ limit := by
      rw [UInt64.le_iff_toNat_le]
      omega
    rw [UInt64.toNat_sub_of_le _ _ start_le] at size_eq
    apply sound.staysInRange placed
    -- start and size together are the top that the size was counted from
    apply UInt64.toNat_inj.mp
    rw [sound.toNat_limit, Window.length_contents]
    dsimp only [Table.start]
    omega
  · intro address run answer
    apply Guarded.header_eq
    rw [Bytes.length_contents, b.size_of_fetch answer]
    rfl

/-- The small ROM as a memory of some kind, the table that its header describes, and the guarded
payload of its first file. -/
theorem Backend.smallTable_staysInRange :
    ((Memory.image 0xffffff94 smallImage).backend.ofHeader ⟨0xffffffdc, smallHeader⟩
        topOfSpace).outcome = .ok smallTable ∧
      smallTable.StaysInRange topOfSpace ∧
      (Guarded.payload smallTable
          ⟨0xffffff94, ⟨Record.magicBytes, 3, 0x50, 0, 26⟩, ⟨[0x61, 0]⟩⟩).run =
        some (.ok [1, 2, 3]) := by
  have opened : ((Memory.image 0xffffff94 smallImage).backend.ofHeader ⟨0xffffffdc, smallHeader⟩
      topOfSpace).outcome = .ok smallTable := by
    decide +kernel
  obtain ⟨stays, -⟩ := Backend.ofHeader_staysInRange opened
  have found : (⟨0xffffff94, ⟨Record.magicBytes, 3, 0x50, 0, 26⟩, ⟨[0x61, 0]⟩⟩ : Entry) ∈
      smallTable.course.entries := by
    decide +kernel
  refine ⟨opened, stays, ?_⟩
  rw [stays.payloads found]
  exact congrArg some (by decide +kernel)

end BootRom

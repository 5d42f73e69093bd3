import BootRom.Proofs.Chain

/-!
# Where the records of a table lie

* `Chain.entryAt`, `Chain.bounds`: every entry starts at or above the first index of its chain,
  and its payload starts at or below the limit of the table.
* `payload_of_inside`, `payload_of_outside`: the payload of an entry is the run of
  bytes at its place, or it is refused as truncated; `Sound.payload_cases` says that
  nothing else happens to an entry that the walk found.
-/

namespace BootRom.Table

open Format Memory

variable {t : Table} {i : Nat} {e : Entry} {ending : Option Error} {es : List Entry}

/-! ## Entries -/

/-- Every entry of a chain is at some index of the table, from where the chain starts on. -/
theorem Chain.entryAt (chain : t.Chain i es ending) :
    ∀ e ∈ es, ∃ j, i ≤ j ∧ t.EntryAt j e := by
  induction chain with
  | finished unmarked => exact fun e found => absurd found List.not_mem_nil
  | failed corrupt => exact fun e found => absurd found List.not_mem_nil
  | @entry i e rest ending here beyond ih =>
    intro d found
    rcases List.mem_cons.mp found with rfl | later
    · exact ⟨i, Nat.le_refl i, here⟩
    · obtain ⟨j, above, there⟩ := ih d later
      exact ⟨j, Nat.le_trans (Nat.le_add_right _ _) above, there⟩

theorem Chain.bounds (chain : t.Chain i es ending) (found : e ∈ es) :
    t.start.toNat + i ≤ e.address.toNat ∧
      e.address.toNat + e.record.offset.toNat ≤ t.start.toNat + t.window.contents.length := by
  obtain ⟨j, above, there⟩ := chain.entryAt e found
  have address_eq := there.address_eq
  have name_inside := there.name_inside
  omega

/-- An entry of an open table lies in the table, up to the first byte of its payload. -/
theorem Sound.entry_bounds (sound : t.Sound) (found : e ∈ t.course.entries) :
    t.start.toNat ≤ e.address.toNat ∧
      e.address.toNat + e.record.offset.toNat ≤ t.limit.toNat := by
  rw [sound.toNat_limit]
  exact (chain_course sound).bounds found

/-- A payload starts beyond the first byte of its record, and not beyond the next one. -/
theorem Sound.onward (sound : t.Sound) (found : e ∈ t.course.entries) :
    0 < e.record.offset.toNat ∧ e.record.offset.toNat ≤ t.stride e.record := by
  obtain ⟨j, -, there⟩ := (chain_course sound).entryAt e found
  have room := there.room
  have extent := sound.extent_le_stride e.record
  have some_room : 0 < Record.size := by decide
  omega

/-! ## Payloads -/

/-- The bytes of an entry's payload, as far as the table has them. -/
def payloadBytes (t : Table) (e : Entry) : Bytes :=
  (t.window.contents.drop (e.address.toNat + e.record.offset.toNat - t.start.toNat)).take
    e.record.len.toNat

theorem toNat_dataStart (inSpace : e.address.toNat + e.record.offset.toNat < 0x10000000000000000) :
    e.dataStart.toNat = e.address.toNat + e.record.offset.toNat := by
  rw [Entry.dataStart, Address.toNat_add_of_lt (by rw [UInt32.toNat_toUInt64]; exact inSpace),
    UInt32.toNat_toUInt64]

theorem payload_of_inside (sound : t.Sound)
    (above : t.start.toNat ≤ e.address.toNat + e.record.offset.toNat)
    (inside : e.address.toNat + e.record.offset.toNat + e.record.len.toNat ≤ t.limit.toNat) :
    t.payload e = .ok (t.payloadBytes e) := by
  have limit_lt := t.limit.toNat_lt
  have limit_eq := sound.toNat_limit
  have data_eq : e.dataStart.toNat = _ := toNat_dataStart (by omega)
  -- the end of the payload is in the address space, since it is not beyond the limit
  rcases added : Address.checkedAdd e.dataStart e.record.len.toUInt64 with _ | stop
  · have beyond := Address.checkedAdd_eq_none_iff.mp added
    rw [UInt32.toNat_toUInt64] at beyond
    omega
  · obtain ⟨-, stop_eq⟩ := Address.checkedAdd_eq_some_iff.mp added
    rw [UInt32.toNat_toUInt64] at stop_eq
    have stop_le : stop ≤ t.limit := UInt64.le_iff_toNat_le.mpr (by omega)
    have index_eq : (e.dataStart - t.start).toNat =
        e.address.toNat + e.record.offset.toNat - t.start.toNat := by
      rw [UInt64.toNat_sub_of_le _ _ (UInt64.le_iff_toNat_le.mpr (by omega)), data_eq]
    have cut : t.window.slice (e.dataStart - t.start) e.record.len.toUInt64 = _ :=
      Window.slice_of_inside (by
        rw [index_eq, UInt32.toNat_toUInt64, sound.toNat_size]
        omega)
    simp only [payload, added, if_pos stop_le, cut, index_eq, UInt32.toNat_toUInt64, payloadBytes]

theorem payload_of_outside
    (inSpace : e.address.toNat + e.record.offset.toNat < 0x10000000000000000)
    (outside : t.limit.toNat < e.address.toNat + e.record.offset.toNat + e.record.len.toNat) :
    t.payload e =
      .error (.truncatedFile e.name.display e.dataStart e.record.len t.limit) := by
  have data_eq := toNat_dataStart inSpace
  rcases added : Address.checkedAdd e.dataStart e.record.len.toUInt64 with _ | stop
  · simp only [payload, added]
  · obtain ⟨-, stop_eq⟩ := Address.checkedAdd_eq_some_iff.mp added
    rw [UInt32.toNat_toUInt64] at stop_eq
    have past : ¬ stop ≤ t.limit := fun le => by
      have := UInt64.le_iff_toNat_le.mp le
      omega
    simp only [payload, added, if_neg past]

/-- The payload of an entry that was found either ends within the table and is read, or is refused
as truncated. -/
theorem Sound.payload_cases (sound : t.Sound) (found : e ∈ t.course.entries) :
    e.dataStart.toNat = e.address.toNat + e.record.offset.toNat ∧
      (e.address.toNat + e.record.offset.toNat + e.record.len.toNat ≤ t.limit.toNat →
        t.payload e = .ok (t.payloadBytes e)) ∧
      (t.limit.toNat < e.address.toNat + e.record.offset.toNat + e.record.len.toNat →
        t.payload e =
          .error (.truncatedFile e.name.display e.dataStart e.record.len t.limit)) := by
  obtain ⟨above, below⟩ := sound.entry_bounds found
  have limit_lt := t.limit.toNat_lt
  exact ⟨toNat_dataStart (by omega), payload_of_inside sound (by omega),
    payload_of_outside (by omega)⟩

end BootRom.Table

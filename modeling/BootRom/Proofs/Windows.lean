import BootRom.Memory.Window

/-!
# What is read through a window

Each way of reading from a window either answers with the bytes that stand at
an index, or says why it does not. The lemmas here give both sides in natural
numbers, so that nothing after them has to open a read again.

* `slice_of_inside`, `slice_of_outside`: what `slice` answers within the address space, and
  `slice_of_beyond`: what it answers beyond.
* `magicAt_eq_some_iff`, `recordAt_of_inside` and `recordAt_of_outside`: the two fixed-size reads.
* `nameAt_of_short`, `nameAt_of_inside`, `nameAt_of_outside`: a name is refused
  when its record leaves no room for it, then when its buffer passes the end.
-/

namespace BootRom.Memory.Window

open Format

variable {w : Window} {index len : UInt64} {r : Record}

/-! ## Runs of bytes -/

/-- The size of a window is the number of its bytes, as long as that is a 64-bit number. -/
theorem toNat_size (short : w.contents.length < 0x10000000000000000) :
    w.size.toNat = w.contents.length := by
  rw [size, ← length_contents, UInt64.toNat_ofNat', Nat.mod_eq_of_lt short]

theorem slice_of_inside (inside : index.toNat + len.toNat ≤ w.size.toNat) :
    w.slice index len = .ok ((w.contents.drop index.toNat).take len.toNat) :=
  slice_eq_ok_iff.mpr ⟨inside, rfl⟩

theorem slice_of_outside (inSpace : index.toNat + len.toNat < 0x10000000000000000)
    (outside : w.size.toNat < index.toNat + len.toNat) :
    w.slice index len = .error (.outOfBounds index len w.size) := by
  rw [slice, checkRange_of_outside inSpace outside]

theorem slice_of_beyond (beyond : 0x10000000000000000 ≤ index.toNat + len.toNat) :
    w.slice index len = .error .addressOverflow := by
  rw [slice, checkRange_eq_overflow_iff.mpr beyond]

/-! ## Magic and record header -/

/-- A magic is found wherever eight bytes are left. -/
theorem magicAt_eq_some_iff {magic : Bytes} :
    w.magicAt index = some magic ↔
      index.toNat + Record.magicSize ≤ w.size.toNat ∧
        magic = (w.contents.drop index.toNat).take Record.magicSize := by
  have bridge := @slice_eq_ok_iff w index (UInt64.ofNat Record.magicSize) magic
  rw [magicAt]
  rcases run : w.slice index (UInt64.ofNat Record.magicSize) with e | found
  · -- `magicAt` drops the error, so both sides say that there is no magic
    rw [run] at bridge
    exact ⟨fun h => (nomatch h), fun h => (nomatch bridge.mpr h)⟩
  · rw [run, Except.ok.injEq] at bridge
    rw [Option.some.injEq, bridge]
    rfl

theorem recordAt_of_inside (inside : index.toNat + Record.size ≤ w.size.toNat) :
    w.recordAt index =
      .ok (Record.decode ((w.contents.drop index.toNat).take Record.size)) := by
  have run : w.slice index (UInt64.ofNat Record.size) = _ := slice_of_inside inside
  rw [recordAt, run]
  rfl

theorem recordAt_of_outside (inSpace : index.toNat + Record.size < 0x10000000000000000)
    (outside : w.size.toNat < index.toNat + Record.size) :
    w.recordAt index = .error (.outOfBounds index (UInt64.ofNat Record.size) w.size) := by
  have run : w.slice index (UInt64.ofNat Record.size) = _ := slice_of_outside inSpace outside
  rw [recordAt, run]

/-! ## Names -/

theorem nameAt_of_short (short : r.offset.toNat < Record.size) :
    w.nameAt index r = .error (.invalidRecordOffset (w.base + index) r.offset) := by
  rw [nameAt, Record.nameCapacity, if_neg (Nat.not_le.mpr short)]

/-- With room for a name, reading it is reading the bytes from the record header to the payload. -/
theorem nameAt_of_room (room : Record.size ≤ r.offset.toNat)
    (inSpace : index.toNat + Record.size < 0x10000000000000000) :
    w.nameAt index r =
      (w.slice (index + UInt64.ofNat Record.size)
        (UInt64.ofNat (r.offset.toNat - Record.size))).map Name.mk := by
  have start : Address.checkedAdd index (UInt64.ofNat Record.size) =
      some (index + UInt64.ofNat Record.size) := if_pos inSpace
  rw [nameAt, Record.nameCapacity, if_pos room]
  simp only [start]
  rcases w.slice (index + UInt64.ofNat Record.size)
    (UInt64.ofNat (r.offset.toNat - Record.size)) with e | buffer <;> rfl

/-- The two numbers that a name is read with. -/
theorem toNat_name_range (r : Record)
    (inSpace : index.toNat + Record.size < 0x10000000000000000) :
    (index + UInt64.ofNat Record.size).toNat = index.toNat + Record.size ∧
      (UInt64.ofNat (r.offset.toNat - Record.size)).toNat = r.offset.toNat - Record.size := by
  have bound := r.offset.toNat_lt
  refine ⟨Address.toNat_add_of_lt inSpace, ?_⟩
  rw [UInt64.toNat_ofNat']
  omega

theorem nameAt_of_inside (room : Record.size ≤ r.offset.toNat)
    (inside : index.toNat + r.offset.toNat ≤ w.size.toNat) :
    w.nameAt index r =
      .ok ⟨(w.contents.drop (index.toNat + Record.size)).take
        (r.offset.toNat - Record.size)⟩ := by
  have bound := w.size.toNat_lt
  have inSpace : index.toNat + Record.size < 0x10000000000000000 := by omega
  obtain ⟨start_eq, capacity_eq⟩ := toNat_name_range r inSpace
  rw [nameAt_of_room room inSpace, slice_of_inside (by rw [start_eq, capacity_eq]; omega),
    start_eq, capacity_eq]
  rfl

theorem nameAt_of_outside (room : Record.size ≤ r.offset.toNat)
    (inSpace : index.toNat + r.offset.toNat < 0x10000000000000000)
    (outside : w.size.toNat < index.toNat + r.offset.toNat) :
    w.nameAt index r =
      .error (.outOfBounds (index + UInt64.ofNat Record.size)
        (UInt64.ofNat (r.offset.toNat - Record.size)) w.size) := by
  have inSpace' : index.toNat + Record.size < 0x10000000000000000 := by omega
  obtain ⟨start_eq, capacity_eq⟩ := toNat_name_range r inSpace'
  rw [nameAt_of_room room inSpace', slice_of_outside (by rw [start_eq, capacity_eq]; omega)
    (by rw [start_eq, capacity_eq]; omega)]
  rfl

end BootRom.Memory.Window

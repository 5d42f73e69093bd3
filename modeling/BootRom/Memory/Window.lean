import BootRom.Event
import BootRom.Memory.Range

/-!
# Windows: owned copies of a range of memory

A `Window` is a copy of a range of physical memory together with the address
it was read from. Reads from it name an index, not an address, and never pass
its end.

* `Window.slice` is the one way to read; `slice_eq_ok_iff` says that it answers
  exactly for the ranges within the window, with the bytes stored there.
* `magicAt`, `recordAt` and `nameAt` read the parts of a record, and `arrayAt` a run with its length
  in the type.
-/

namespace BootRom.Memory

open Format

/-- A copy of a range of memory. -/
structure Window where
  /-- the address of the first byte -/
  base : UInt64
  /-- the bytes of the range -/
  bytes : ByteArray

namespace Window

/-! ## Extent -/

/-- How many bytes the window has. -/
def size (w : Window) : UInt64 := UInt64.ofNat w.bytes.size

/-- The address after the last byte. -/
def limit (w : Window) : UInt64 := w.base + w.size

/-- The bytes of the window, in order. -/
def contents (w : Window) : Bytes := Bytes.contents w.bytes

/-- Windows with the same place and the same contents are the same window. -/
theorem ext_contents {v w : Window} (base : v.base = w.base) (contents : v.contents = w.contents) :
    v = w := by
  cases v; cases w
  obtain rfl : _ = _ := base
  obtain rfl := Bytes.contents_injective contents
  rfl

instance : DecidableEq Window := fun v w =>
  decidable_of_iff (v.base = w.base ∧ v.contents = w.contents)
    ⟨fun h => ext_contents h.1 h.2, fun h => h ▸ ⟨rfl, rfl⟩⟩

/-- The report that the window is given back. -/
def releasing (w : Window) : Event := .released w.base w.limit

/-! ## Reading -/

/-- The `len` bytes from `index`. -/
def slice (w : Window) (index len : UInt64) : Except Error Bytes :=
  match checkRange index len w.size with
  | .ok () => .ok (Bytes.window w.bytes index.toNat len.toNat)
  | .error e => .error e

/-- The bytes at `index` that may mark a record, unless too few are left. -/
def magicAt (w : Window) (index : UInt64) : Option Bytes :=
  match w.slice index (UInt64.ofNat Record.magicSize) with
  | .ok magic => some magic
  | .error _ => none

/-- The record header at `index`. -/
def recordAt (w : Window) (index : UInt64) : Except Error Record :=
  match w.slice index (UInt64.ofNat Record.size) with
  | .ok raw => .ok (Record.decode raw)
  | .error e => .error e

/-- The name buffer that follows the record header at `index`. -/
def nameAt (w : Window) (index : UInt64) (record : Record) : Except Error Name :=
  match record.nameCapacity with
  | none => .error (.invalidRecordOffset (w.base + index) record.offset)
  | some capacity =>
    match Address.checkedAdd index (UInt64.ofNat Record.size) with
    | none => .error .addressOverflow
    | some start =>
      match w.slice start (UInt64.ofNat capacity) with
      | .ok buffer => .ok ⟨buffer⟩
      | .error e => .error e

/-! ## What reading answers -/

theorem slice_eq_ok_iff {w : Window} {index len : UInt64} {bytes : Bytes} :
    w.slice index len = .ok bytes ↔
      index.toNat + len.toNat ≤ w.size.toNat ∧
        bytes = (w.contents.drop index.toNat).take len.toNat := by
  unfold slice
  rcases h : checkRange index len w.size with e | u
  · have outside : ¬ index.toNat + len.toNat ≤ w.size.toNat := fun within => by
      rw [checkRange_eq_ok_iff.mpr within] at h
      cases h
    simp [outside]
  · have within := checkRange_eq_ok_iff.mp h
    simp only [Except.ok.injEq, Bytes.window_eq_take_drop, contents]
    constructor
    · intro eq
      exact ⟨within, eq.symm⟩
    · rintro ⟨-, eq⟩
      exact eq.symm

@[simp] theorem length_contents (w : Window) : w.contents.length = w.bytes.size :=
  Bytes.length_contents w.bytes

/-- A run that was read from a window is as long as was asked for. -/
theorem length_of_slice {w : Window} {index len : UInt64} {run : Bytes}
    (answer : w.slice index len = .ok run) : run.length = len.toNat := by
  obtain ⟨inside, rfl⟩ := slice_eq_ok_iff.mp answer
  have size_le : w.size.toNat ≤ w.bytes.size := by
    rw [size, UInt64.toNat_ofNat']
    exact Nat.mod_le _ _
  rw [List.length_take, List.length_drop, length_contents]
  omega

/-! ## Arrays -/

/-- The `count` bytes from an index, with their number in the type. -/
def arrayAt (w : Window) (count index : UInt64) : Except Error (Vector UInt8 count.toNat) :=
  match answer : w.slice index count with
  | .ok run => .ok ⟨run.toArray, List.size_toArray.trans (length_of_slice answer)⟩
  | .error e => .error e

end Window

end BootRom.Memory

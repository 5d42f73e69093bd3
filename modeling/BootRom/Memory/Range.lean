import BootRom.Address
import BootRom.Error

/-!
# Ranges within a store

Every read names a range: where it starts and how long it is. `checkRange`
refuses a range whose end leaves the address space, and one whose end lies
beyond the store; `checkRange_eq_ok_iff` says that it refuses no other.
-/

namespace BootRom.Memory

/-- Succeeds when `len` bytes from `index` lie within `size` bytes. -/
def checkRange (index len size : UInt64) : Except Error Unit :=
  match Address.checkedAdd index len with
  | none => .error .addressOverflow
  | some stop => if stop ≤ size then .ok () else .error (.outOfBounds index len size)

theorem checkRange_eq_ok_iff {index len size : UInt64} :
    checkRange index len size = .ok () ↔ index.toNat + len.toNat ≤ size.toNat := by
  have bound := size.toNat_lt
  unfold checkRange
  split
  · rename_i beyond
    have := Address.checkedAdd_eq_none_iff.mp beyond
    simp; omega
  · rename_i stop added
    obtain ⟨-, stop_eq⟩ := Address.checkedAdd_eq_some_iff.mp added
    split
    · rename_i within
      have := UInt64.le_iff_toNat_le.mp within
      simp; omega
    · rename_i outside
      have : ¬ stop.toNat ≤ size.toNat := fun h => outside (UInt64.le_iff_toNat_le.mpr h)
      simp; omega

theorem checkRange_eq_overflow_iff {index len size : UInt64} :
    checkRange index len size = .error .addressOverflow ↔
      0x10000000000000000 ≤ index.toNat + len.toNat := by
  unfold checkRange
  split
  · rename_i beyond
    exact ⟨fun _ => Address.checkedAdd_eq_none_iff.mp beyond, fun _ => rfl⟩
  · rename_i stop added
    obtain ⟨fits, -⟩ := Address.checkedAdd_eq_some_iff.mp added
    split <;> simp <;> omega

/-- A range that lies in the address space and reaches beyond the store is out of bounds. -/
theorem checkRange_of_outside {index len size : UInt64}
    (inSpace : index.toNat + len.toNat < 0x10000000000000000)
    (outside : size.toNat < index.toNat + len.toNat) :
    checkRange index len size = .error (.outOfBounds index len size) := by
  rcases h : Address.checkedAdd index len with _ | stop
  · have := Address.checkedAdd_eq_none_iff.mp h
    omega
  · obtain ⟨-, stop_eq⟩ := Address.checkedAdd_eq_some_iff.mp h
    have : ¬ stop ≤ size := fun le => by
      have := UInt64.le_iff_toNat_le.mp le
      omega
    simp [checkRange, h, this]

end BootRom.Memory

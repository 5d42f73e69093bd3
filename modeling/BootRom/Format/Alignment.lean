import BootRom.Address
import BootRom.Error

/-!
# Alignment: rounding up to a boundary

Records start on multiples of a power of two. `alignUp value align` is the
least multiple of `align` that is not below `value`, computed on 64-bit words
by adding `align - 1` and clearing the low bits.

* `isPowerOfTwo` is the bit test: a power of two shares no bit with its
  predecessor.
* `alignUp` refuses an alignment that is no power of two, and a value whose
  boundary lies beyond the address space.
* `le_alignUp`: rounding never goes down, which is what makes a walk over
  records move forward.
-/

namespace BootRom.Format

/-! ## Rounding -/

/-- Whether exactly one bit of a word is set. -/
def isPowerOfTwo (word : UInt64) : Bool := word != 0 && word &&& (word - 1) == 0

/-- The word with the bits of `mask` cleared. -/
def clearBits (word mask : UInt64) : UInt64 := word &&& ~~~mask

/-- An alignment as an error names it: at most the largest 32-bit word. -/
def reportedAlign (align : UInt64) : UInt32 :=
  if align.toNat < 0x100000000 then align.toUInt32 else 0xffffffff

/-- The least multiple of `align`, a power of two, that is not below `value`. -/
def alignUp (value align : UInt64) : Except Error UInt64 :=
  if isPowerOfTwo align then
    match Address.checkedAdd value (align - 1) with
    | some sum => .ok (clearBits sum (align - 1))
    | none => .error .addressOverflow
  else
    .error (.invalidAlignment (reportedAlign align))

/-! ## Rounding does not go down -/

/-- Clearing the bits of a mask takes away what the mask selects. -/
theorem clearBits_add_and (word mask : UInt64) :
    clearBits word mask + (word &&& mask) = word := by
  apply UInt64.toBitVec_inj.mp
  simp only [clearBits, UInt64.toBitVec_add, UInt64.toBitVec_and, UInt64.toBitVec_not]
  rw [BitVec.add_eq_or_of_and_eq_zero]
  · ext i hi
    simp only [BitVec.getElem_or, BitVec.getElem_and, BitVec.getElem_not]
    cases word.toBitVec[i] <;> cases mask.toBitVec[i] <;> rfl
  · ext i hi
    simp only [BitVec.getElem_and, BitVec.getElem_not, BitVec.getElem_zero]
    cases word.toBitVec[i] <;> cases mask.toBitVec[i] <;> rfl

/-- Clearing the bits of a mask lowers a word by the masked part exactly. -/
theorem toNat_clearBits (word mask : UInt64) :
    (clearBits word mask).toNat = word.toNat - (word &&& mask).toNat := by
  have whole := congrArg UInt64.toNat (clearBits_add_and word mask)
  have low : (clearBits word mask).toNat ≤ word.toNat := by
    rw [clearBits, UInt64.toNat_and]
    exact Nat.and_le_left
  have part : (word &&& mask).toNat ≤ word.toNat := by
    rw [UInt64.toNat_and]
    exact Nat.and_le_left
  have bound := word.toNat_lt
  rw [UInt64.toNat_add] at whole
  omega

/-- What `alignUp` answers: the alignment is a power of two, the sum fits, and its low bits are
cleared. -/
theorem alignUp_eq_ok_iff {value align result : UInt64} :
    alignUp value align = .ok result ↔
      isPowerOfTwo align = true ∧ ∃ sum, Address.checkedAdd value (align - 1) = some sum ∧
        clearBits sum (align - 1) = result := by
  unfold alignUp
  split
  · rename_i pow
    cases Address.checkedAdd value (align - 1) <;> simp [pow]
  · rename_i pow
    simp [pow]

/-- Rounding up never goes down. -/
theorem le_alignUp {value align result : UInt64} (rounded : alignUp value align = .ok result) :
    value.toNat ≤ result.toNat := by
  obtain ⟨-, sum, added, rfl⟩ := alignUp_eq_ok_iff.mp rounded
  obtain ⟨-, sum_eq⟩ := Address.checkedAdd_eq_some_iff.mp added
  have masked : (sum &&& (align - 1)).toNat ≤ (align - 1).toNat := by
    rw [UInt64.toNat_and]
    exact Nat.and_le_right
  rw [toNat_clearBits]
  omega

end BootRom.Format

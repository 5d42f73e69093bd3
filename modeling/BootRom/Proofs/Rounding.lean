import BootRom.Format.Alignment

/-!
# Rounding up is rounding up

`alignUp` works on 64-bit words and clears bits. Here it is compared with
`roundUp`, which says in natural numbers what is meant: the least multiple of
the alignment that is not below the value.

* `dvd_roundUp`, `le_roundUp`, `roundUp_le` and `roundUp_lt` say that `roundUp`
  is that multiple, and that it is less than one step away.
* `isPowerOfTwo_iff`: the bit test finds exactly the powers of two.
* `toNat_of_alignUp` and `exists_alignUp`: what `alignUp` answers is `roundUp`,
  and it does answer where the sum stays in the address space.
-/

namespace BootRom.Format

/-- The least multiple of `align` that is not below `value`. -/
def roundUp (value align : Nat) : Nat := (value + (align - 1)) / align * align

/-! ## The least multiple above -/

theorem dvd_roundUp (value align : Nat) : align ∣ roundUp value align := Nat.dvd_mul_left _ _

/-- The sum that is cut down to a multiple exceeds it by a remainder. -/
theorem roundUp_add_mod (value align : Nat) :
    roundUp value align + (value + (align - 1)) % align = value + (align - 1) := by
  rw [roundUp, Nat.mul_comm]
  exact Nat.div_add_mod _ _

theorem le_roundUp {value align : Nat} (pos : 0 < align) : value ≤ roundUp value align := by
  have parts := roundUp_add_mod value align
  have small := Nat.mod_lt (value + (align - 1)) pos
  omega

theorem roundUp_lt {value align : Nat} (pos : 0 < align) :
    roundUp value align < value + align := by
  have parts := roundUp_add_mod value align
  omega

/-- No multiple of the alignment lies between a value and its rounding. -/
theorem roundUp_le {value align multiple : Nat} (mult : align ∣ multiple)
    (above : value ≤ multiple) : roundUp value align ≤ multiple := by
  obtain ⟨k, rfl⟩ := mult
  rcases Nat.eq_zero_or_pos align with rfl | pos
  · simp [roundUp]
  · -- less than one step is added, so the quotient stays below that of the next multiple
    have steps : (value + (align - 1)) / align < k + 1 := by
      rw [Nat.div_lt_iff_lt_mul pos, Nat.add_mul, Nat.mul_comm k, Nat.one_mul]
      omega
    rw [roundUp, Nat.mul_comm]
    exact Nat.mul_le_mul_left align (Nat.lt_succ_iff.mp steps)

/-! ## The bit test and the rounding of words -/

/-- A word shares no bit with its predecessor exactly if it is a power of two. -/
theorem isPowerOfTwo_iff {word : UInt64} :
    isPowerOfTwo word = true ↔ word.toNat.isPowerOfTwo := by
  rw [← Nat.ne_zero_and_sub_one_eq_zero_iff_isPowerOfTwo, isPowerOfTwo, Bool.and_eq_true,
    bne_iff_ne, beq_iff_eq, ← UInt64.toNat_inj, Ne, ← UInt64.toNat_inj, UInt64.toNat_and]
  refine and_congr_right fun nonzero => ?_
  have one_le : (1 : UInt64) ≤ word := by
    rw [UInt64.le_iff_toNat_le]
    exact Nat.one_le_iff_ne_zero.mpr nonzero
  rw [UInt64.toNat_sub_of_le _ _ one_le]
  rfl

/-- A power of two is not zero, and its predecessor is the word below it. -/
theorem toNat_sub_one_of_isPowerOfTwo {align : UInt64} (pow : isPowerOfTwo align = true) :
    0 < align.toNat ∧ (align - 1).toNat = align.toNat - 1 := by
  have pos := Nat.pos_of_isPowerOfTwo (isPowerOfTwo_iff.mp pow)
  have one_le : (1 : UInt64) ≤ align := UInt64.le_iff_toNat_le.mpr pos
  exact ⟨pos, UInt64.toNat_sub_of_le _ _ one_le⟩

/-- Clearing the bits below a power of two leaves the multiple of it at or below a word. -/
theorem toNat_clearBits_of_isPowerOfTwo {word align : UInt64} (pow : isPowerOfTwo align = true) :
    (clearBits word (align - 1)).toNat = word.toNat / align.toNat * align.toNat := by
  obtain ⟨-, pred⟩ := toNat_sub_one_of_isPowerOfTwo pow
  obtain ⟨k, hk⟩ := isPowerOfTwo_iff.mp pow
  have parts := Nat.div_add_mod word.toNat align.toNat
  rw [toNat_clearBits, UInt64.toNat_and, pred, hk, Nat.and_two_pow_sub_one_eq_mod, ← hk,
    Nat.mul_comm]
  omega

/-- What `alignUp` answers is the least multiple above. -/
theorem toNat_of_alignUp {value align result : UInt64}
    (rounded : alignUp value align = .ok result) :
    result.toNat = roundUp value.toNat align.toNat := by
  obtain ⟨pow, sum, added, rfl⟩ := alignUp_eq_ok_iff.mp rounded
  obtain ⟨-, sum_eq⟩ := Address.checkedAdd_eq_some_iff.mp added
  obtain ⟨-, pred⟩ := toNat_sub_one_of_isPowerOfTwo pow
  rw [toNat_clearBits_of_isPowerOfTwo pow, sum_eq, pred, roundUp]

/-- `alignUp` answers wherever value and alignment together stay in the address space. -/
theorem exists_alignUp {value align : UInt64} (pow : isPowerOfTwo align = true)
    (fits : value.toNat + align.toNat ≤ 0x10000000000000000) :
    ∃ result, alignUp value align = .ok result := by
  obtain ⟨pos, pred⟩ := toNat_sub_one_of_isPowerOfTwo pow
  have added : Address.checkedAdd value (align - 1) = some (value + (align - 1)) :=
    if_pos (by rw [pred]; omega)
  exact ⟨_, alignUp_eq_ok_iff.mpr ⟨pow, _, added, rfl⟩⟩

end BootRom.Format

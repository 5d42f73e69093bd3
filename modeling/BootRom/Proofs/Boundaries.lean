import BootRom.Proofs.Rounding
import BootRom.Traced
import Mathlib.Order.Bounds.Basic

/-!
# Boundaries, up to the end of the address space

Rounding a word up starts from a sum that may leave the address space, and refuses then. The
refusal looks cautious, since the boundary that is looked for lies below the sum. It is not: the
space ends at a boundary of every alignment, so that a sum beyond its end has passed that boundary.

* `boundaries` are the multiples of an alignment that are not below a value, and `isLeast_roundUp`
  says that `roundUp` is the least of them. `roundUp_mono` and `roundUp_roundUp` follow: rounding
  keeps the order, and a finer rounding before a coarser one makes no difference.
* `roundUp_lt_space_iff`: the sum stays in the space exactly if the least boundary does.
* `alignUp_of_lt_space`, `alignUp_of_eq_space` and `alignUp_of_odd` round by this, `Unrounded` are
  the reasons not to round, and `alignUp_classifies` says that there are no others.
-/

namespace BootRom.Format

/-! ## The least boundary -/

/-- The multiples of an alignment that are not below a value. -/
def boundaries (value align : Nat) : Set Nat := {boundary | align ∣ boundary ∧ value ≤ boundary}

section Numbers

variable {value value' align coarser boundary : Nat}

theorem isLeast_roundUp (pos : 0 < align) :
    IsLeast (boundaries value align) (roundUp value align) :=
  ⟨⟨dvd_roundUp value align, le_roundUp pos⟩, fun _ found => roundUp_le found.1 found.2⟩

theorem isLeast_boundaries_iff (pos : 0 < align) :
    IsLeast (boundaries value align) boundary ↔ boundary = roundUp value align := by
  constructor
  · intro least
    exact least.unique (isLeast_roundUp pos)
  · rintro rfl
    exact isLeast_roundUp pos

/-- A boundary that the sum has reached is not above the one that is found. -/
theorem le_roundUp_of_dvd (pos : 0 < align) (mult : align ∣ boundary)
    (reached : boundary ≤ value + (align - 1)) : boundary ≤ roundUp value align := by
  obtain ⟨k, rfl⟩ := mult
  have steps : k ≤ (value + (align - 1)) / align := by
    rw [Nat.le_div_iff_mul_le pos, Nat.mul_comm]
    exact reached
  rw [roundUp, Nat.mul_comm align k]
  exact Nat.mul_le_mul_right align steps

theorem roundUp_mono (pos : 0 < align) (le : value ≤ value') :
    roundUp value align ≤ roundUp value' align :=
  roundUp_le (dvd_roundUp value' align) (Nat.le_trans le (le_roundUp pos))

/-- A finer rounding does not pass the boundary of a coarser one. -/
theorem roundUp_le_roundUp (value : Nat) (pos : 0 < coarser) (mult : align ∣ coarser) :
    roundUp value align ≤ roundUp value coarser :=
  roundUp_le (Nat.dvd_trans mult (dvd_roundUp value coarser)) (le_roundUp pos)

/-- A finer rounding before a coarser one makes no difference. -/
theorem roundUp_roundUp (pos : 0 < align) (pos' : 0 < coarser) (mult : align ∣ coarser) :
    roundUp (roundUp value align) coarser = roundUp value coarser := by
  apply Nat.le_antisymm
  · exact roundUp_le (dvd_roundUp value coarser) (roundUp_le_roundUp value pos' mult)
  · exact roundUp_mono pos' (le_roundUp pos)

/-- Of two powers of two, the smaller divides the larger. -/
theorem dvd_of_isPowerOfTwo_of_le (pow : align.isPowerOfTwo) (pow' : coarser.isPowerOfTwo)
    (le : align ≤ coarser) : align ∣ coarser := by
  obtain ⟨j, rfl⟩ := pow
  obtain ⟨k, rfl⟩ := pow'
  exact Nat.pow_dvd_pow 2 ((Nat.pow_le_pow_iff_right (by decide)).mp le)

end Numbers

/-! ## The end of the space -/

variable {value value' align coarser result : UInt64} {cause : Error}

/-- The space ends at a boundary of every alignment. -/
theorem dvd_space (pow : align.toNat.isPowerOfTwo) : align.toNat ∣ 0x10000000000000000 :=
  dvd_of_isPowerOfTwo_of_le pow ⟨64, rfl⟩ (Nat.le_of_lt align.toNat_lt)

/-- So the least boundary is never beyond it. -/
theorem roundUp_le_space (value : UInt64) (pow : align.toNat.isPowerOfTwo) :
    roundUp value.toNat align.toNat ≤ 0x10000000000000000 :=
  roundUp_le (dvd_space pow) (Nat.le_of_lt value.toNat_lt)

/-- The sum stays in the space exactly if the least boundary does. -/
theorem roundUp_lt_space_iff (value : UInt64) (pow : align.toNat.isPowerOfTwo) :
    roundUp value.toNat align.toNat < 0x10000000000000000 ↔
      value.toNat + (align.toNat - 1) < 0x10000000000000000 := by
  have pos := Nat.pos_of_isPowerOfTwo pow
  constructor
  · intro before
    by_contra beyond
    have passed := le_roundUp_of_dvd pos (dvd_space pow) (Nat.not_lt.mp beyond)
    omega
  · intro fits
    have parts := roundUp_add_mod value.toNat align.toNat
    omega

/-! ## What rounding a word comes to -/

/-- A word is rounded to its least boundary, if that is an address. -/
theorem alignUp_of_lt_space (pow : align.toNat.isPowerOfTwo)
    (result_eq : result.toNat = roundUp value.toNat align.toNat) :
    alignUp value align = .ok result := by
  have bound := result.toNat_lt
  have fits := (roundUp_lt_space_iff value pow).mp (result_eq ▸ bound)
  obtain ⟨found, rounded⟩ := exists_alignUp (isPowerOfTwo_iff.mpr pow)
    (show value.toNat + align.toNat ≤ 0x10000000000000000 by omega)
  have same : found = result :=
    UInt64.toNat_inj.mp ((toNat_of_alignUp rounded).trans result_eq.symm)
  rw [rounded, same]

/-- The sum leaves the space exactly if the least boundary is the end of it. -/
theorem checkedAdd_eq_none_iff_roundUp (pow : align.toNat.isPowerOfTwo) :
    Address.checkedAdd value (align - 1) = none ↔
      roundUp value.toNat align.toNat = 0x10000000000000000 := by
  have within := roundUp_le_space value pow
  have inside := roundUp_lt_space_iff value pow
  obtain ⟨-, pred⟩ := toNat_sub_one_of_isPowerOfTwo (isPowerOfTwo_iff.mpr pow)
  rw [Address.checkedAdd_eq_none_iff, pred]
  omega

theorem alignUp_of_eq_space (pow : align.toNat.isPowerOfTwo)
    (last : roundUp value.toNat align.toNat = 0x10000000000000000) :
    alignUp value align = .error .addressOverflow := by
  rw [alignUp, if_pos (isPowerOfTwo_iff.mpr pow), (checkedAdd_eq_none_iff_roundUp pow).mpr last]

theorem alignUp_of_odd (odd : ¬ align.toNat.isPowerOfTwo) :
    alignUp value align = .error (.invalidAlignment (reportedAlign align)) := by
  rw [alignUp, if_neg (mt isPowerOfTwo_iff.mp odd)]

/-- An error names an alignment as it is, or as the largest 32-bit number. -/
theorem toNat_reportedAlign (align : UInt64) :
    (reportedAlign align).toNat = min align.toNat 0xffffffff := by
  rw [reportedAlign]
  split
  · rename_i short
    rw [UInt64.toNat_toUInt32, Nat.mod_eq_of_lt short]
    omega
  · rename_i long
    have largest : UInt32.toNat 0xffffffff = 0xffffffff := rfl
    omega

/-- Words with the same least boundary are rounded alike. -/
theorem alignUp_congr (pow : align.toNat.isPowerOfTwo)
    (same : roundUp value.toNat align.toNat = roundUp value'.toNat align.toNat) :
    alignUp value align = alignUp value' align := by
  rcases Nat.lt_or_eq_of_le (roundUp_le_space value pow) with before | last
  · have result_eq := UInt64.toNat_ofNat_of_lt' before
    rw [alignUp_of_lt_space pow result_eq, alignUp_of_lt_space pow (result_eq.trans same)]
  · rw [alignUp_of_eq_space pow last, alignUp_of_eq_space pow (same ▸ last)]

/-- A finer rounding before a coarser one makes no difference to a word either, not even where one
of them is refused. -/
theorem alignUp_bind_alignUp (pow : align.toNat.isPowerOfTwo)
    (pow' : coarser.toNat.isPowerOfTwo) (le : align ≤ coarser) :
    (alignUp value align >>= fun finer => alignUp finer coarser) = alignUp value coarser := by
  have pos := Nat.pos_of_isPowerOfTwo pow
  have pos' := Nat.pos_of_isPowerOfTwo pow'
  have mult := dvd_of_isPowerOfTwo_of_le pow pow' (UInt64.le_iff_toNat_le.mp le)
  rcases Nat.lt_or_eq_of_le (roundUp_le_space value pow) with before | last
  · have finer_eq := UInt64.toNat_ofNat_of_lt' before
    rw [alignUp_of_lt_space pow finer_eq]
    exact alignUp_congr pow' (by rw [finer_eq, roundUp_roundUp pos pos' mult])
  · -- the coarser boundary lies no lower, and the space ends there
    have finer_le := roundUp_le_roundUp value.toNat pos' mult
    have within := roundUp_le_space value pow'
    rw [alignUp_of_eq_space pow last, alignUp_of_eq_space pow' (by omega)]
    rfl

/-! ## Rounding goes by the rules -/

/-- Why a word is not rounded up to an alignment. -/
inductive Unrounded (value align : UInt64) : Error → Prop
  /-- the alignment is no power of two, and is named as far as a 32-bit number can name it -/
  | odd {shown : UInt32} (odd : ¬ align.toNat.isPowerOfTwo)
    (shown_eq : shown.toNat = min align.toNat 0xffffffff) :
    Unrounded value align (.invalidAlignment shown)
  /-- the least boundary is the end of the space -/
  | last (pow : align.toNat.isPowerOfTwo)
    (last : IsLeast (boundaries value.toNat align.toNat) 0x10000000000000000) :
    Unrounded value align .addressOverflow

/-- Of every word it is settled whether it is rounded. -/
theorem rounded_or_unrounded (value align : UInt64) :
    (∃ result : UInt64, align.toNat.isPowerOfTwo ∧
      IsLeast (boundaries value.toNat align.toNat) result.toNat) ∨
      ∃ cause, Unrounded value align cause := by
  by_cases pow : align.toNat.isPowerOfTwo
  · have least : IsLeast (boundaries value.toNat align.toNat) _ :=
      isLeast_roundUp (Nat.pos_of_isPowerOfTwo pow)
    rcases Nat.lt_or_eq_of_le (roundUp_le_space value pow) with before | last
    · rw [← UInt64.toNat_ofNat_of_lt' before] at least
      exact .inl ⟨_, pow, least⟩
    · exact .inr ⟨_, .last pow (last ▸ least)⟩
  · exact .inr ⟨_, .odd pow (toNat_reportedAlign align)⟩

theorem alignUp_of_unrounded (unrounded : Unrounded value align cause) :
    alignUp value align = .error cause := by
  cases unrounded with
  | odd odd shown_eq =>
    rw [alignUp_of_odd odd,
      UInt32.toNat_inj.mp ((toNat_reportedAlign align).trans shown_eq.symm)]
  | last pow last =>
    have last_eq := (isLeast_boundaries_iff (Nat.pos_of_isPowerOfTwo pow)).mp last
    exact alignUp_of_eq_space pow last_eq.symm

/-- **Rounding finds the least boundary, wherever there is one.** For all 64-bit values and
alignments:

* a value is rounded exactly if the alignment is a power of two and the least boundary is an
  address, and to that boundary;
* otherwise the error names the alignment, if that is no power of two, or says that the boundary is
  the end of the space; the sum that rounding starts from leaves the space in no other case.

So a rounded value stays as it is when it is rounded again, a smaller value is rounded no higher,
also in that it is rounded at all, and a finer rounding before a coarser one makes no difference. -/
theorem alignUp_classifies (value align : UInt64) :
    (∀ result, alignUp value align = .ok result ↔
      align.toNat.isPowerOfTwo ∧ IsLeast (boundaries value.toNat align.toNat) result.toNat) ∧
    (∀ cause, alignUp value align = .error cause ↔ Unrounded value align cause) ∧
    (align.toNat.isPowerOfTwo → (Address.checkedAdd value (align - 1) = none ↔
      IsLeast (boundaries value.toNat align.toNat) 0x10000000000000000)) ∧
    (alignUp value align >>= fun rounded => alignUp rounded align) = alignUp value align ∧
    (∀ value' result', value ≤ value' → alignUp value' align = .ok result' →
      ∃ result, alignUp value align = .ok result ∧ result ≤ result') ∧
    ∀ coarser : UInt64, align.toNat.isPowerOfTwo → coarser.toNat.isPowerOfTwo → align ≤ coarser →
      (alignUp value align >>= fun finer => alignUp finer coarser) = alignUp value coarser := by
  obtain ⟨answers, fails⟩ := Traced.outcome_iff_of_settled (rounded_or_unrounded value align)
    (fun result ⟨pow, least⟩ => alignUp_of_lt_space pow
      ((isLeast_boundaries_iff (Nat.pos_of_isPowerOfTwo pow)).mp least))
    (fun cause => alignUp_of_unrounded)
  refine ⟨answers, fails, fun pow => ?_, ?_, fun value' result' le rounded' => ?_,
    fun coarser => alignUp_bind_alignUp⟩
  · rw [checkedAdd_eq_none_iff_roundUp pow, isLeast_boundaries_iff (Nat.pos_of_isPowerOfTwo pow)]
    exact eq_comm
  · by_cases pow : align.toNat.isPowerOfTwo
    · exact alignUp_bind_alignUp pow pow (UInt64.le_refl align)
    · rw [alignUp_of_odd pow]
      rfl
  · -- the boundary of the larger value is an address, and that of the smaller is no higher
    have pow := isPowerOfTwo_iff.mp (alignUp_eq_ok_iff.mp rounded').1
    have lower := roundUp_mono (Nat.pos_of_isPowerOfTwo pow) (UInt64.le_iff_toNat_le.mp le)
    rw [← toNat_of_alignUp rounded'] at lower
    have result_eq := UInt64.toNat_ofNat_of_lt' (Nat.lt_of_le_of_lt lower result'.toNat_lt)
    refine ⟨_, alignUp_of_lt_space pow result_eq, ?_⟩
    rw [UInt64.le_iff_toNat_le, result_eq]
    exact lower

/-- The last boundary of 64 bytes is its own; one byte further there is none left, and a boundary of
4096 bytes is found by way of one of 64. An alignment of 41 bits that is no power of two is named
by the largest number of 32 bits. -/
theorem alignUp_classifies_atEnd :
    alignUp 0xffffffffffffffc0 0x40 = .ok 0xffffffffffffffc0 ∧
      Address.checkedAdd 0xffffffffffffffc1 (0x40 - 1) = none ∧
      alignUp 0xffffffffffffffc1 0x40 = .error .addressOverflow ∧
      alignUp 1 0x10000000001 = .error (.invalidAlignment 0xffffffff) ∧
      (∃ result, alignUp 0xffffffffffffff81 0x40 = .ok result ∧
        result ≤ 0xffffffffffffffc0) ∧
      (alignUp 0x41 0x40 >>= fun finer => alignUp finer 0x1000) = alignUp 0x41 0x1000 := by
  have pow : (UInt64.toNat 0x40).isPowerOfTwo := ⟨6, rfl⟩
  obtain ⟨answers, -, -, -, -, -⟩ := alignUp_classifies 0xffffffffffffffc0 0x40
  obtain ⟨-, fails, overflows, -, -, -⟩ := alignUp_classifies 0xffffffffffffffc1 0x40
  obtain ⟨-, fails_odd, -, -, -, -⟩ := alignUp_classifies 1 0x10000000001
  obtain ⟨-, -, -, -, lower, -⟩ := alignUp_classifies 0xffffffffffffff81 0x40
  obtain ⟨-, -, -, -, -, finer⟩ := alignUp_classifies 0x41 0x40
  have exact_end : alignUp 0xffffffffffffffc0 0x40 = .ok 0xffffffffffffffc0 :=
    (answers _).mpr ⟨pow, ⟨by decide, by decide⟩, fun _ found => found.2⟩
  have last : IsLeast (boundaries (UInt64.toNat 0xffffffffffffffc1) (UInt64.toNat 0x40))
      0x10000000000000000 := by
    refine ⟨⟨by decide, by decide⟩, ?_⟩
    rintro boundary ⟨⟨k, rfl⟩, above⟩
    change 0xffffffffffffffc1 ≤ 64 * k at above
    change 0x10000000000000000 ≤ 64 * k
    omega
  have odd : ¬ (UInt64.toNat 0x10000000001).isPowerOfTwo := by
    rw [← isPowerOfTwo_iff]
    decide
  exact ⟨exact_end, (overflows pow).mpr last, (fails _).mpr (.last pow last),
    (fails_odd _).mpr (.odd odd rfl), lower _ _ (by decide) exact_end,
    finer 0x1000 pow ⟨12, rfl⟩ (by decide)⟩

end BootRom.Format

/-!
# Addresses: arithmetic on the 64-bit physical address space

Addresses, indices and lengths are 64-bit words. Four ways of adding to one
occur, and each is named for what it does at the end of the space:

* `checkedAdd`, `checkedSub` refuse to leave the space;
* `saturatingAdd` stops at the last address;
* `displace` follows a signed pointer and wraps around;
* plain `+` wraps as well, and is used only where the sum is known to fit.

The lemmas say in natural numbers when a checked operation answers and with
what; the space has `0x10000000000000000` addresses.
-/

namespace BootRom.Address

/-! ## Operations -/

/-- The last address of the space. -/
def last : UInt64 := 0xffffffffffffffff

/-- The sum, if it lies in the address space. -/
def checkedAdd (a b : UInt64) : Option UInt64 :=
  if a.toNat + b.toNat < 0x10000000000000000 then some (a + b) else none

/-- The difference, if it is not negative. -/
def checkedSub (a b : UInt64) : Option UInt64 :=
  if b ≤ a then some (a - b) else none

/-- The sum, or the last address where the sum lies beyond it. -/
def saturatingAdd (a b : UInt64) : UInt64 := (checkedAdd a b).getD last

/-- The address `delta` bytes away, around the end of the space if need be. -/
def displace (a : UInt64) (delta : Int32) : UInt64 := UInt64.ofInt (a.toNat + delta.toInt)

/-! ## What the operations answer -/

theorem toNat_add_of_lt {a b : UInt64} (fits : a.toNat + b.toNat < 0x10000000000000000) :
    (a + b).toNat = a.toNat + b.toNat := by
  rw [UInt64.toNat_add, Nat.mod_eq_of_lt fits]

theorem checkedAdd_eq_some_iff {a b c : UInt64} :
    checkedAdd a b = some c ↔ a.toNat + b.toNat < 0x10000000000000000 ∧ c.toNat = a.toNat + b.toNat := by
  unfold checkedAdd
  split
  · rename_i fits
    constructor
    · intro h
      obtain rfl := Option.some.inj h
      exact ⟨fits, toNat_add_of_lt fits⟩
    · rintro ⟨-, h⟩
      exact congrArg some (UInt64.toNat_inj.mp (by rw [toNat_add_of_lt fits, h]))
  · rename_i beyond
    exact ⟨fun h => (nomatch h), fun h => absurd h.1 beyond⟩

theorem checkedAdd_eq_none_iff {a b : UInt64} :
    checkedAdd a b = none ↔ 0x10000000000000000 ≤ a.toNat + b.toNat := by
  unfold checkedAdd
  split
  · rename_i fits
    exact ⟨fun h => (nomatch h), fun h => absurd fits (Nat.not_lt.mpr h)⟩
  · rename_i beyond
    exact ⟨fun _ => Nat.not_lt.mp beyond, fun _ => rfl⟩

theorem checkedSub_eq_some_iff {a b c : UInt64} :
    checkedSub a b = some c ↔ b.toNat ≤ a.toNat ∧ c.toNat = a.toNat - b.toNat := by
  unfold checkedSub
  split
  · rename_i fits
    have fits' := UInt64.le_iff_toNat_le.mp fits
    constructor
    · intro h
      obtain rfl := Option.some.inj h
      exact ⟨fits', UInt64.toNat_sub_of_le _ _ fits⟩
    · rintro ⟨-, h⟩
      exact congrArg some (UInt64.toNat_inj.mp (by rw [UInt64.toNat_sub_of_le _ _ fits, h]))
  · rename_i below
    exact ⟨fun h => (nomatch h), fun h => absurd (UInt64.le_iff_toNat_le.mpr h.1) below⟩

theorem checkedSub_eq_none_iff {a b : UInt64} :
    checkedSub a b = none ↔ a.toNat < b.toNat := by
  unfold checkedSub
  split
  · rename_i fits
    have := UInt64.le_iff_toNat_le.mp fits
    simp; omega
  · rename_i fits
    have : ¬ b.toNat ≤ a.toNat := fun h => fits (UInt64.le_iff_toNat_le.mpr h)
    simp; omega

/-- Saturating addition is addition cut off at the last address. -/
theorem toNat_saturatingAdd (a b : UInt64) :
    (saturatingAdd a b).toNat = min (a.toNat + b.toNat) (0xffffffffffffffff) := by
  unfold saturatingAdd checkedAdd
  split
  · rename_i fits
    rw [Option.getD_some, toNat_add_of_lt fits]
    omega
  · rename_i fits
    rw [Option.getD_none]
    have : last.toNat = 0xffffffffffffffff := rfl
    omega

end BootRom.Address

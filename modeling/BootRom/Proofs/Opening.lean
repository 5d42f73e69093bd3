import BootRom.Format.Footer
import BootRom.Proofs.Rounding
import BootRom.Proofs.Windows
import BootRom.Table.Basic

/-!
# What an open table is

A table can only come out of `Backend.ofHeader`, and what opening checks holds of
it from then on. `Table.Opened` says that a table was opened, in some memory
and below some top; `Table.Sound` says what that is good for:

* its alignment is a power of two;
* its window has fewer bytes than a 32-bit number counts;
* its limit lies in the address space, so that addresses in the table are
  plain sums (`Sound.toNat_limit`).

`sound_of_ofHeader` says so of memory of any kind, by `Sound.of_region`: a window on the region of
a header is enough. `Opened.sound` is the case of a `Memory`.
`smallTable` is a table of two files that was opened.
-/

namespace BootRom

open Format Memory

/-! ## Regions -/

/-- A header places its table exactly if the ROM ends where it says and the first record lies
within the ROM. -/
theorem Format.Header.region_eq_ok_iff {h : Header} {top : UInt64} {r : Region} :
    h.region top = .ok r ↔
      h.romSize.toNat ≤ top.toNat ∧ h.offset.toNat ≤ h.romSize.toNat ∧
        r.start.toNat = top.toNat - h.romSize.toNat + h.offset.toNat ∧ r.limit = top := by
  have bound := top.toNat_lt
  rw [Header.region]
  rcases below : Address.checkedSub top h.romSize.toUInt64 with _ | bottom
  · have beyond := Address.checkedSub_eq_none_iff.mp below
    rw [UInt32.toNat_toUInt64] at beyond
    simp
    omega
  · obtain ⟨within, bottom_eq⟩ := Address.checkedSub_eq_some_iff.mp below
    rw [UInt32.toNat_toUInt64] at within bottom_eq
    rcases added : Address.checkedAdd bottom h.offset.toUInt64 with _ | start
    · have beyond := Address.checkedAdd_eq_none_iff.mp added
      rw [UInt32.toNat_toUInt64] at beyond
      simp [added]
      omega
    · obtain ⟨-, start_eq⟩ := Address.checkedAdd_eq_some_iff.mp added
      rw [UInt32.toNat_toUInt64] at start_eq
      simp only [Option.bind_eq_bind, Option.bind_some, added]
      split
      · -- a start that is not above the top is an offset within the ROM
        rename_i le_top
        have le_top' := UInt64.le_iff_toNat_le.mp le_top
        constructor
        · intro answer
          obtain rfl := Except.ok.inj answer
          exact ⟨within, by omega, by dsimp only; omega, rfl⟩
        · rintro ⟨-, -, start_eq', limit_eq⟩
          have same : start = r.start := UInt64.toNat_inj.mp (by omega)
          rw [same, ← limit_eq]
      · rename_i past_top
        have past_top' : ¬ start.toNat ≤ top.toNat :=
          fun le => past_top (UInt64.le_iff_toNat_le.mpr le)
        exact ⟨fun answer => (nomatch answer), fun answer => by omega⟩

/-- A table that is not placed is refused for the two numbers that place it. -/
theorem Format.Header.eq_invalidRegion {h : Header} {top : UInt64} {cause : Error}
    (refused : h.region top = .error cause) : cause = .invalidRegion h.romSize h.offset := by
  rw [Header.region] at refused
  split at refused
  · split at refused
    · cases refused
    · exact (Except.error.inj refused).symm
  · exact (Except.error.inj refused).symm

/-! ## Open tables -/

namespace Table

/-- That a table was opened. -/
def Opened (t : Table) : Prop :=
  ∃ (memory : Memory) (located : LocatedHeader) (top : UInt64),
    (ofHeader memory located top).outcome = .ok t

/-- What opening checks, and what follows from it for addresses. -/
structure Sound (t : Table) : Prop where
  /-- records can be stepped over -/
  aligned : isPowerOfTwo t.align = true
  /-- the table is part of a ROM, whose size is a 32-bit number -/
  short : t.window.contents.length < 0x100000000
  /-- the table ends in the address space -/
  fits : t.start.toNat + t.window.contents.length < 0x10000000000000000

variable {t : Table} {memory : Memory} {b : Backend} {located : LocatedHeader} {top : UInt64}

/-- What it takes to open a table, and what the table then is. -/
theorem ofHeader_eq_ok_iff :
    (b.ofHeader located top).outcome = .ok t ↔
      isPowerOfTwo located.header.align.toUInt64 = true ∧
        ∃ region bytes, located.header.region top = .ok region ∧
          (b.read region.start (region.limit - region.start)).outcome = .ok bytes ∧
          t = ⟨located, ⟨region.start, bytes⟩⟩ := by
  rw [Backend.ofHeader]
  split
  · rename_i pow
    simp only [pow, true_and, Backend.map, Traced.outcome_bind_eq_ok, Traced.outcome_ofExcept,
      Traced.outcome_pure, Except.ok.injEq]
    constructor
    · rintro ⟨region, placed, _, ⟨bytes, answer, rfl⟩, rfl⟩
      exact ⟨region, bytes, placed, answer, rfl⟩
    · rintro ⟨region, bytes, placed, answer, rfl⟩
      exact ⟨region, placed, _, ⟨bytes, answer, rfl⟩, rfl⟩
  · rename_i odd
    simp [odd]

/-- A table that was located was opened. -/
theorem opened_of_locate (h : (locate memory top).outcome = .ok t) : t.Opened := by
  obtain ⟨located, -, opened⟩ := Traced.outcome_bind_eq_ok.mp h
  exact ⟨memory, located, top, opened⟩

/-- A window on the region of a header is a table that ends in the address space. -/
theorem Sound.of_region {region : Region} {bytes : ByteArray}
    (pow : isPowerOfTwo located.header.align.toUInt64 = true)
    (placed : located.header.region top = .ok region)
    (size_eq : bytes.size = (region.limit - region.start).toNat) :
    Sound ⟨located, ⟨region.start, bytes⟩⟩ := by
  obtain ⟨rom_le, offset_le, start_eq, limit_eq⟩ := Header.region_eq_ok_iff.mp placed
  have rom_lt := located.header.romSize.toNat_lt
  have top_lt := top.toNat_lt
  have start_le : region.start ≤ region.limit := by
    rw [UInt64.le_iff_toNat_le, start_eq, limit_eq]
    omega
  rw [UInt64.toNat_sub_of_le _ _ start_le, limit_eq] at size_eq
  -- the region is part of the ROM, and ends at the top
  refine ⟨pow, ?_, ?_⟩
  · rw [Window.length_contents]
    dsimp only
    omega
  · rw [Window.length_contents]
    dsimp only [start]
    omega

theorem sound_of_ofHeader (opened : (b.ofHeader located top).outcome = .ok t) : t.Sound := by
  obtain ⟨pow, region, bytes, placed, answer, rfl⟩ := ofHeader_eq_ok_iff.mp opened
  exact .of_region pow placed (Backend.size_of_read answer)

theorem Opened.sound (opened : t.Opened) : t.Sound := by
  obtain ⟨memory, located, top, h⟩ := opened
  exact sound_of_ofHeader h

/-! ## Addresses of an open table -/

theorem align_lt (t : Table) : t.align.toNat < 0x100000000 := by
  rw [align, UInt32.toNat_toUInt64]
  exact t.located.header.align.toNat_lt

/-- A table that ends in the address space ends at the sum of its start and its length. -/
theorem toNat_limit_of_fits
    (fits : t.start.toNat + t.window.contents.length < 0x10000000000000000) :
    t.limit.toNat = t.start.toNat + t.window.contents.length := by
  have size_eq : t.window.size.toNat = _ := Window.toNat_size (by omega)
  rw [← size_eq] at fits ⊢
  exact Address.toNat_add_of_lt fits

namespace Sound

theorem align_pos (sound : t.Sound) : 0 < t.align.toNat :=
  (toNat_sub_one_of_isPowerOfTwo sound.aligned).1

theorem toNat_size (sound : t.Sound) : t.window.size.toNat = t.window.contents.length :=
  Window.toNat_size (by have := sound.short; omega)

theorem toNat_limit (sound : t.Sound) :
    t.limit.toNat = t.start.toNat + t.window.contents.length :=
  toNat_limit_of_fits sound.fits

end Sound

end Table

/-! ## A small table -/

/-- Whether an outcome is a given answer can be decided, whatever it fails with. -/
instance decidableEqOk {ε α : Type} [DecidableEq α] (outcome : Except ε α) (a : α) :
    Decidable (outcome = .ok a) :=
  match outcome with
  | .ok b => decidable_of_iff (b = a) ⟨fun same => congrArg Except.ok same, Except.ok.inj⟩
  | .error _ => isFalse fun h => nomatch h

/-- The header of a small ROM, whose records are aligned to eight bytes. -/
def smallHeader : Header := ⟨Header.magicWord, 0x31313132, 108, 0, 8, 0, 0, 0⟩

/-- A small ROM: a file `a` of three bytes, a file `b` that holds the magic of a record, then
header and footer. -/
def smallImage : ByteArray :=
  ⟨(Record.encode ⟨Record.magicBytes, 3, 0x50, 0, 26⟩ ++ [0x61, 0] ++ [1, 2, 3] ++
    [0xff, 0xff, 0xff] ++
    Record.encode ⟨Record.magicBytes, 8, 0x10, 0, 26⟩ ++ [0x62, 0] ++ Record.magicBytes ++
    [0xff, 0xff, 0xff, 0xff, 0xff, 0xff] ++
    smallHeader.encode ++ Footer.encode (-36)).toArray⟩

/-- The table of the small ROM, below the end of the 32-bit address space. -/
def smallTable : Table := ⟨⟨0xffffffdc, smallHeader⟩, ⟨0xffffff94, smallImage⟩⟩

theorem opened_smallTable : smallTable.Opened := by
  have located : (Table.locate (.image 0xffffff94 smallImage) topOfSpace).outcome =
      .ok smallTable := by
    decide +kernel
  exact Table.opened_of_locate located

end BootRom

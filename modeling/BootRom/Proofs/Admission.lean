import BootRom.Proofs.Images

/-!
# Which headers open a table

The words of a header are whatever was found on flash. Whether they describe a table that an
image can be asked for is settled by comparing them, the top and the ends of the image as plain
numbers:

* `Admits`: the header makes sense, and the image covers the region it describes;
* `Covers`: the table that is opened then, a window on exactly that region;
* `Declines`: why none is opened, in the order in which it is looked for.

`ofHeader_of_odd`, `ofHeader_of_misplaced`, `ofHeader_of_unbacked` and `ofHeader_of_admitted` open a
header by these rules, and `ofHeader_classifies` says that there are no others. A ROM that is
as long as its image is the case `ofHeader_of_image`.
-/

namespace BootRom

open Format

/-- Where the first record of a ROM lies that ends at `top`, as a plain number. -/
def Format.Header.firstRecord (h : Header) (top : UInt64) : Nat :=
  top.toNat - h.romSize.toNat + h.offset.toNat

namespace Table

open Memory

variable {memory : Memory} {bytes : ByteArray} {base limit top : UInt64} {located : LocatedHeader}
  {h : Header} {t : Table} {cause : Error}

/-! ## The rules -/

/-- Below `top`, a header describes a table that an image from `base` up to `limit` covers. -/
structure Admits (base limit top : UInt64) (h : Header) : Prop where
  /-- records can be stepped over -/
  aligned : h.align.toNat.isPowerOfTwo
  /-- the ROM does not begin below address zero -/
  rom_le : h.romSize.toNat ≤ top.toNat
  /-- the first record lies in the ROM, or is its end -/
  offset_le : h.offset.toNat ≤ h.romSize.toNat
  /-- the image has begun there -/
  above : base.toNat ≤ h.firstRecord top
  /-- it has not ended before the ROM does -/
  below : top.toNat ≤ limit.toNat

/-- A table is a window on what an image from `base` on has from the first record up to `top`. -/
structure Covers (base top : UInt64) (bytes : ByteArray) (located : LocatedHeader) (t : Table) :
    Prop where
  /-- the header and its address are those that were given -/
  located_eq : t.located = located
  /-- the table starts at the first record -/
  start_eq : t.start.toNat = located.header.firstRecord top
  /-- it ends at the top -/
  limit_eq : t.limit = top
  /-- its bytes are those of the image in between -/
  contents_eq : t.window.contents =
    ((Bytes.contents bytes).drop (located.header.firstRecord top - base.toNat)).take
      (top.toNat - located.header.firstRecord top)
  /-- they are fewer than a 32-bit number can count -/
  short : t.window.bytes.size < 0x100000000

/-- Why a header opens no table below `top`, in an image from `base` up to `limit`. What is asked of
it is asked in this order, and only of what was not declined before. -/
inductive Declines (base limit top : UInt64) (h : Header) : Error → Prop
  /-- records cannot be stepped over -/
  | odd (odd : ¬ h.align.toNat.isPowerOfTwo) : Declines base limit top h (.invalidAlignment h.align)
  /-- the ROM begins below address zero, or the first record lies beyond it -/
  | misplaced (aligned : h.align.toNat.isPowerOfTwo)
    (misplaced : top.toNat < h.romSize.toNat ∨ h.romSize.toNat < h.offset.toNat) :
    Declines base limit top h (.invalidRegion h.romSize h.offset)
  /-- the image has not begun, or has ended before -/
  | unbacked (aligned : h.align.toNat.isPowerOfTwo) (rom_le : h.romSize.toNat ≤ top.toNat)
    (offset_le : h.offset.toNat ≤ h.romSize.toNat)
    (outside : h.firstRecord top < base.toNat ∨ limit.toNat < top.toNat) :
    Declines base limit top h
      (.unbackedRange (UInt64.ofNat (h.firstRecord top))
        (UInt64.ofNat (top.toNat - h.firstRecord top)))

/-! ## Headers that make no sense -/

theorem aligned_iff (located : LocatedHeader) :
    isPowerOfTwo located.header.align.toUInt64 = true ↔
      located.header.align.toNat.isPowerOfTwo := by
  rw [isPowerOfTwo_iff, UInt32.toNat_toUInt64]

theorem ofHeader_of_odd (odd : ¬ located.header.align.toNat.isPowerOfTwo) :
    (ofHeader memory located top).outcome =
      .error (.invalidAlignment located.header.align) := by
  rw [ofHeader, Backend.ofHeader, if_neg (mt (aligned_iff located).mp odd), Traced.outcome_fail]

/-- A table is misplaced for one of two reasons, also where its start would lie beyond the end of
the address space. -/
theorem ofHeader_of_misplaced (aligned : located.header.align.toNat.isPowerOfTwo)
    (misplaced : top.toNat < located.header.romSize.toNat ∨
      located.header.romSize.toNat < located.header.offset.toNat) :
    (ofHeader memory located top).outcome =
      .error (.invalidRegion located.header.romSize located.header.offset) := by
  rw [ofHeader, Backend.ofHeader, if_pos ((aligned_iff located).mpr aligned)]
  rcases placed : located.header.region top with cause | region
  · rw [Header.eq_invalidRegion placed, Traced.ofExcept_error_bind, Traced.outcome_fail]
  · obtain ⟨rom_le, offset_le, -⟩ := Header.region_eq_ok_iff.mp placed
    omega

/-! ## Headers that describe a region -/

/-- The first record of a ROM does not lie beyond its end, and is less than a 32-bit number away. -/
theorem firstRecord_bounds (rom_le : h.romSize.toNat ≤ top.toNat)
    (offset_le : h.offset.toNat ≤ h.romSize.toNat) :
    (UInt64.ofNat (h.firstRecord top)).toNat = h.firstRecord top ∧
      top - UInt64.ofNat (h.firstRecord top) = UInt64.ofNat (top.toNat - h.firstRecord top) ∧
      (UInt64.ofNat (top.toNat - h.firstRecord top)).toNat = top.toNat - h.firstRecord top ∧
      h.firstRecord top ≤ top.toNat ∧ top.toNat - h.firstRecord top < 0x100000000 := by
  have rom_lt := h.romSize.toNat_lt
  have top_lt := top.toNat_lt
  have first_le : h.firstRecord top ≤ top.toNat := by
    rw [Header.firstRecord]
    omega
  have near : top.toNat - h.firstRecord top < 0x100000000 := by
    rw [Header.firstRecord]
    omega
  have first_eq : (UInt64.ofNat (h.firstRecord top)).toNat = h.firstRecord top :=
    UInt64.toNat_ofNat_of_lt' (Nat.lt_of_le_of_lt first_le top_lt)
  have size_eq : (UInt64.ofNat (top.toNat - h.firstRecord top)).toNat =
      top.toNat - h.firstRecord top :=
    UInt64.toNat_ofNat_of_lt' (Nat.lt_of_le_of_lt (Nat.sub_le _ _) top_lt)
  refine ⟨first_eq, UInt64.toNat_inj.mp ?_, size_eq, first_le, near⟩
  rw [size_eq, UInt64.toNat_sub_of_le _ _ (UInt64.le_iff_toNat_le.mpr (by omega)), first_eq]

/-- A header that describes a region opens a table exactly if memory answers for that region. -/
theorem ofHeader_of_placed (aligned : located.header.align.toNat.isPowerOfTwo)
    (rom_le : located.header.romSize.toNat ≤ top.toNat)
    (offset_le : located.header.offset.toNat ≤ located.header.romSize.toNat) :
    (ofHeader memory located top).outcome =
      (memory.fetch (UInt64.ofNat (located.header.firstRecord top))
        (UInt64.ofNat (top.toNat - located.header.firstRecord top))).outcome.map
          fun run => ⟨located, ⟨UInt64.ofNat (located.header.firstRecord top), run⟩⟩ := by
  obtain ⟨first_eq, sub_eq, size_eq, first_le, near⟩ := firstRecord_bounds rom_le offset_le
  have region_eq : located.header.region top =
      .ok ⟨UInt64.ofNat (located.header.firstRecord top), top⟩ :=
    Header.region_eq_ok_iff.mpr ⟨rom_le, offset_le, first_eq, rfl⟩
  -- the table is part of a ROM, and so never too long for a buffer
  have short : (UInt64.ofNat (top.toNat - located.header.firstRecord top)).toNat < 0x100000000 := by
    rw [size_eq]
    exact near
  rw [ofHeader, Backend.ofHeader, if_pos ((aligned_iff located).mpr aligned), region_eq,
    Traced.ofExcept_ok_bind, sub_eq, Backend.map, Backend.read_eq_fetch short, Memory.backend_fetch]
  simp only [Traced.outcome_bind, Traced.outcome_pure]
  rcases (memory.fetch (UInt64.ofNat (located.header.firstRecord top))
    (UInt64.ofNat (top.toNat - located.header.firstRecord top))).outcome with cause | run <;> rfl

theorem ofHeader_of_unbacked (backed : base.toNat + bytes.size = limit.toNat)
    (aligned : located.header.align.toNat.isPowerOfTwo)
    (rom_le : located.header.romSize.toNat ≤ top.toNat)
    (offset_le : located.header.offset.toNat ≤ located.header.romSize.toNat)
    (outside : located.header.firstRecord top < base.toNat ∨ limit.toNat < top.toNat) :
    (ofHeader (.image base bytes) located top).outcome =
      .error (.unbackedRange (UInt64.ofNat (located.header.firstRecord top))
        (UInt64.ofNat (top.toNat - located.header.firstRecord top))) := by
  have limit_lt := limit.toNat_lt
  obtain ⟨first_eq, -, size_eq, first_le, -⟩ := firstRecord_bounds rom_le offset_le
  have refused : ((Memory.image base bytes).fetch (UInt64.ofNat (located.header.firstRecord top))
      (UInt64.ofNat (top.toNat - located.header.firstRecord top))).outcome = _ :=
    fetch_image_of_outside (by omega) (by omega)
  rw [ofHeader_of_placed aligned rom_le offset_le, refused]
  rfl

theorem ofHeader_of_admitted (backed : base.toNat + bytes.size = limit.toNat)
    (admits : Admits base limit top located.header) :
    ∃ t, (ofHeader (.image base bytes) located top).outcome = .ok t ∧
      Covers base top bytes located t := by
  have limit_lt := limit.toNat_lt
  have above := admits.above
  have below := admits.below
  obtain ⟨first_eq, -, size_eq, first_le, near⟩ :=
    firstRecord_bounds admits.rom_le admits.offset_le
  let run := bytes.extract (located.header.firstRecord top - base.toNat)
    (located.header.firstRecord top - base.toNat +
      (UInt64.ofNat (top.toNat - located.header.firstRecord top)).toNat)
  have read : ((Memory.image base bytes).fetch (UInt64.ofNat (located.header.firstRecord top))
      (UInt64.ofNat (top.toNat - located.header.firstRecord top))).outcome = .ok run :=
    fetch_image_of_inside (by omega) (by omega) (by omega)
  have opened : (ofHeader (.image base bytes) located top).outcome =
      .ok ⟨located, ⟨UInt64.ofNat (located.header.firstRecord top), run⟩⟩ := by
    rw [ofHeader_of_placed admits.aligned admits.rom_le admits.offset_le, read]
    rfl
  -- the run is as long as was asked, so that the table ends where the ROM does
  have whole : run.size = top.toNat - located.header.firstRecord top := by
    rw [ByteArray.size_extract, size_eq]
    omega
  have limit_eq := (Opened.sound ⟨_, _, _, opened⟩).toNat_limit
  rw [Window.length_contents] at limit_eq
  dsimp only [start] at limit_eq
  refine ⟨_, opened, rfl, first_eq, UInt64.toNat_inj.mp (by omega), ?_, whole ▸ near⟩
  rw [Window.contents, Bytes.contents_extract, size_eq]

/-- A ROM that is as long as the image it is in starts where the image does, and its table is what
lies from the header's offset to the end of the image. -/
theorem ofHeader_of_image (placed : base.toNat + bytes.size = top.toNat)
    (size_eq : located.header.romSize.toNat = bytes.size)
    (aligned : located.header.align.toNat.isPowerOfTwo)
    (offset_le : located.header.offset.toNat ≤ bytes.size) :
    ∃ t, (ofHeader (.image base bytes) located top).outcome = .ok t ∧ t.located = located ∧
      t.start.toNat = base.toNat + located.header.offset.toNat ∧ t.limit = top ∧
      t.window.contents = (Bytes.contents bytes).drop located.header.offset.toNat := by
  have first_eq : located.header.firstRecord top =
      base.toNat + located.header.offset.toNat := by
    rw [Header.firstRecord]
    omega
  have admits : Admits base top top located.header :=
    ⟨aligned, by omega, by omega, by omega, Nat.le_refl _⟩
  obtain ⟨t, opened, covers⟩ := ofHeader_of_admitted placed admits
  refine ⟨t, opened, covers.located_eq, covers.start_eq.trans first_eq, covers.limit_eq, ?_⟩
  rw [covers.contents_eq, first_eq, Nat.add_sub_cancel_left]
  apply List.take_of_length_le
  rw [List.length_drop, Bytes.length_contents]
  omega

/-! ## Opening goes by the rules -/

/-- Of every header it is settled whether it opens a table. -/
theorem admits_or_declines (base limit top : UInt64) (h : Header) :
    Admits base limit top h ∨ ∃ cause, Declines base limit top h cause := by
  by_cases aligned : h.align.toNat.isPowerOfTwo
  · rcases Nat.lt_or_ge top.toNat h.romSize.toNat with rom_gt | rom_le
    · exact .inr ⟨_, .misplaced aligned (.inl rom_gt)⟩
    · rcases Nat.lt_or_ge h.romSize.toNat h.offset.toNat with offset_gt | offset_le
      · exact .inr ⟨_, .misplaced aligned (.inr offset_gt)⟩
      · rcases Nat.lt_or_ge (h.firstRecord top) base.toNat with early | above
        · exact .inr ⟨_, .unbacked aligned rom_le offset_le (.inl early)⟩
        · rcases Nat.lt_or_ge limit.toNat top.toNat with late | below
          · exact .inr ⟨_, .unbacked aligned rom_le offset_le (.inr late)⟩
          · exact .inl ⟨aligned, rom_le, offset_le, above, below⟩
  · exact .inr ⟨_, .odd aligned⟩

/-- There is one table at most that is a window on what an image has. -/
theorem Covers.unique {t' : Table} (covers : Covers base top bytes located t)
    (covers' : Covers base top bytes located t') : t = t' := by
  obtain ⟨_, window⟩ := t
  obtain ⟨_, window'⟩ := t'
  obtain rfl := covers.located_eq
  obtain rfl := covers'.located_eq
  have start_eq : window.base = window'.base :=
    UInt64.toNat_inj.mp (covers.start_eq.trans covers'.start_eq.symm)
  obtain rfl := Window.ext_contents start_eq (covers.contents_eq.trans covers'.contents_eq.symm)
  rfl

theorem ofHeader_of_declined (backed : base.toNat + bytes.size = limit.toNat)
    (declines : Declines base limit top located.header cause) :
    (ofHeader (.image base bytes) located top).outcome = .error cause := by
  cases declines with
  | odd odd => exact ofHeader_of_odd odd
  | misplaced aligned misplaced => exact ofHeader_of_misplaced aligned misplaced
  | unbacked aligned rom_le offset_le outside =>
    exact ofHeader_of_unbacked backed aligned rom_le offset_le outside

/-- What opening a header in an image comes to. -/
theorem ofHeader_image_iff (backed : base.toNat + bytes.size = limit.toNat)
    (located : LocatedHeader) (top : UInt64) :
    (∀ t, (ofHeader (.image base bytes) located top).outcome = .ok t ↔
      Admits base limit top located.header ∧ Covers base top bytes located t) ∧
    ∀ cause, (ofHeader (.image base bytes) located top).outcome = .error cause ↔
      Declines base limit top located.header cause := by
  refine Traced.outcome_iff_of_settled ?_ ?_ fun cause => ofHeader_of_declined backed
  · rcases admits_or_declines base limit top located.header with admits | declines
    · obtain ⟨t, -, covers⟩ := ofHeader_of_admitted backed admits
      exact .inl ⟨t, admits, covers⟩
    · exact .inr declines
  · rintro t ⟨admits, covers⟩
    obtain ⟨t', opened, covers'⟩ := ofHeader_of_admitted backed admits
    rwa [covers.unique covers']

/-- **A header opens the table that it describes, or is declined for the first reason there is.**
Take an image that reaches from `base` up to `limit`, any header and any top. A table is opened
exactly if the alignment is a power of two, the ROM does not begin below address zero, the first
record does not lie beyond it, and the image covers all from there up to the top, be it nothing at
all. It is a window on exactly these bytes. Otherwise the error names what was wrong with the
alignment, or else with the region, or else the range that the image does not cover. -/
theorem ofHeader_classifies (backed : base.toNat + bytes.size = limit.toNat)
    (located : LocatedHeader) (top : UInt64) :
    ((∃ t, (ofHeader (.image base bytes) located top).outcome = .ok t) ↔
      Admits base limit top located.header) ∧
    (∀ t, (ofHeader (.image base bytes) located top).outcome = .ok t ↔
      Admits base limit top located.header ∧ Covers base top bytes located t) ∧
    ∀ cause, (ofHeader (.image base bytes) located top).outcome = .error cause ↔
      Declines base limit top located.header cause := by
  obtain ⟨answers, fails⟩ := ofHeader_image_iff backed located top
  refine ⟨⟨?_, ?_⟩, answers, fails⟩
  · rintro ⟨t, opened⟩
    exact ((answers t).mp opened).1
  · intro admits
    obtain ⟨t, opened, -⟩ := ofHeader_of_admitted backed admits
    exact ⟨t, opened⟩

/-- The header of the small ROM opens its table; below a top that is one higher, the image does not
cover all of the ROM. -/
theorem ofHeader_classifies_smallImage :
    UInt64.toNat 0xffffff94 + smallImage.size = topOfSpace.toNat ∧
      (ofHeader (.image 0xffffff94 smallImage) ⟨0xffffffdc, smallHeader⟩ topOfSpace).outcome =
        .ok smallTable ∧
      (ofHeader (.image 0xffffff94 smallImage) ⟨0xffffffdc, smallHeader⟩ 0x100000001).outcome =
        .error (.unbackedRange 0xffffff95 108) := by
  have backed : UInt64.toNat 0xffffff94 + smallImage.size = topOfSpace.toNat := by
    decide +kernel
  obtain ⟨-, answers, -⟩ := ofHeader_classifies backed ⟨0xffffffdc, smallHeader⟩ topOfSpace
  obtain ⟨-, -, fails⟩ := ofHeader_classifies backed ⟨0xffffffdc, smallHeader⟩ 0x100000001
  have aligned : smallHeader.align.toNat.isPowerOfTwo := ⟨3, rfl⟩
  have covers : Covers 0xffffff94 topOfSpace smallImage ⟨0xffffffdc, smallHeader⟩ smallTable :=
    ⟨rfl, by decide +kernel, by decide +kernel, by decide +kernel, by decide +kernel⟩
  refine ⟨backed, (answers _).mpr ⟨⟨aligned, by decide, by decide, by decide, by decide⟩, covers⟩,
    (fails _).mpr ?_⟩
  exact .unbacked aligned (by decide) (by decide) (.inr (by decide))

end Table

end BootRom

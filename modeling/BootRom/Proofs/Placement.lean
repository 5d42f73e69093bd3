import BootRom.Proofs.Images
import BootRom.Proofs.Moved

/-!
# An image at two places

An image ends at the top it is placed below, and everything in it is found from there:
the footer, the header it leads to, and the region of the table are so many bytes away from the
top. So it does not matter which top that is.

* `Address.away top d` is the address `d` bytes away from a top, around the end of the space.
* `fetch_away`: what an image answers for a range depends on how far away from the top the range
  is, and on nothing else. The address may well wrap; it does not fall back into the image, since
  image and displacement together are shorter than the address space.
* `region_away`: a table starts as far from the top as its header says.
* `locate_of_places`: the whole of locating, opening, walking and running.
-/

namespace BootRom

open Format Output

/-! ## Addresses, counted from the top -/

namespace Address

/-- The address `d` bytes away from `top`, around the end of the space if need be. -/
def away (top : UInt64) (d : Int) : UInt64 := UInt64.ofInt (top.toNat + d)

variable {top top' : UInt64} {d : Int}

theorem displace_eq_away (top : UInt64) (delta : Int32) :
    displace top delta = away top delta.toInt := rfl

theorem toNat_away (top : UInt64) (d : Int) :
    ((away top d).toNat : Int) = (top.toNat + d) % 0x10000000000000000 := by
  rw [away, UInt64.ofInt, UInt64.toNat_ofNat']
  omega

/-- What is so far away from one top is moved along to the other. -/
theorem away_add (top top' : UInt64) (d : Int) : away top d + (top' - top) = away top' d := by
  have away_eq := toNat_away top d
  have away_eq' := toNat_away top' d
  have top_lt := top.toNat_lt
  apply UInt64.toNat_inj.mp
  rw [UInt64.toNat_add, UInt64.toNat_sub]
  omega

/-- What is so far away from one top is as far below it as below the other. -/
theorem sub_away (top top' : UInt64) (d : Int) : top' - away top' d = top - away top d := by
  have away_eq := toNat_away top d
  have away_eq' := toNat_away top' d
  have top_lt := top.toNat_lt
  have top_lt' := top'.toNat_lt
  apply UInt64.toNat_inj.mp
  rw [UInt64.toNat_sub, UInt64.toNat_sub]
  omega

end Address

namespace Memory

open Address

variable {bytes : ByteArray} {base base' top top' len : UInt64} {d : Int}

/-! ## Ranges -/

/-- An image answers for a range exactly if it lies within the bytes below the top. -/
theorem fetch_away (placed : base.toNat + bytes.size = top.toNat)
    (low : -0x10000000000000000 < d) (high : d + bytes.size < 0x10000000000000000) :
    ((image base bytes).fetch (away top d) len).outcome =
      if -(bytes.size : Int) ≤ d ∧ d + len.toNat ≤ 0 then
        .ok (bytes.extract (bytes.size + d).toNat ((bytes.size + d).toNat + len.toNat))
      else .error (.unbackedRange (away top d) len) := by
  have top_lt := top.toNat_lt
  have away_eq := toNat_away top d
  split
  · exact fetch_image_of_inside (by omega) (by omega) (by omega)
  · exact fetch_image_of_outside (by omega) (by omega)

/-- Below another top, a range as far away from it is answered alike. -/
theorem fetch_of_places (placed : base.toNat + bytes.size = top.toNat)
    (placed' : base'.toNat + bytes.size = top'.toNat)
    (low : -0x10000000000000000 < d) (high : d + bytes.size < 0x10000000000000000) :
    ((image base' bytes).fetch (away top' d) len).outcome =
      ((image base bytes).fetch (away top d) len).outcome.mapError
        (Error.moved (top' - top)) := by
  rw [fetch_away placed low high, fetch_away placed' low high, ← away_add top top' d]
  split <;> rfl

/-! ## Footer and header -/

theorem footer_of_places (placed : base.toNat + bytes.size = top.toNat)
    (placed' : base'.toNat + bytes.size = top'.toNat) (roomy : Footer.size ≤ top.toNat)
    (roomy' : Footer.size ≤ top'.toNat) :
    ((image base' bytes).footer top').outcome =
      ((image base bytes).footer top).outcome.mapError (Error.moved (top' - top)) := by
  have top_lt := top.toNat_lt
  have four_below : ∀ {top : UInt64}, Footer.size ≤ top.toNat →
      Address.checkedSub top (UInt64.ofNat Footer.size) = some (away top (-4)) := by
    intro top roomy
    have four : (UInt64.ofNat Footer.size).toNat = 4 := rfl
    have small : Footer.size = 4 := rfl
    have top_lt := top.toNat_lt
    have away_eq := toNat_away top (-4)
    exact checkedSub_eq_some_iff.mpr ⟨by omega, by omega⟩
  rw [footer, footer, four_below roomy, four_below roomy']
  simp only [Traced.log_bind]
  exact Traced.outcome_bind_mapError (fetch_of_places placed placed' (by decide) (by omega))
    fun raw _ => rfl

theorem locateHeader_of_places (short : bytes.size < 0x8000000000000000)
    (placed : base.toNat + bytes.size = top.toNat)
    (placed' : base'.toNat + bytes.size = top'.toNat) (roomy : Footer.size ≤ top.toNat)
    (roomy' : Footer.size ≤ top'.toNat) :
    ((image base' bytes).locate top').outcome =
      (((image base bytes).locate top).outcome.mapError (Error.moved (top' - top))).map
        (LocatedHeader.moved (top' - top)) := by
  have footers := footer_of_places placed placed' roomy roomy'
  rw [locate, locate]
  apply Traced.outcome_bind_of_mapError footers
  intro delta _
  have delta_low := delta.le_toInt
  have delta_high := delta.toInt_lt
  simp only [Traced.log_bind, displace_eq_away]
  have answers : ((image base' bytes).fetch (away top' delta.toInt)
      (UInt64.ofNat Header.size)).outcome = _ :=
    fetch_of_places placed placed' (by omega) (by omega)
  apply Traced.outcome_bind_of_mapError answers
  intro raw _
  rw [Traced.bind_of_ok (Traced.outcome_logAll _), Traced.bind_of_ok (Traced.outcome_logAll _),
    ← away_add top top']
  dsimp only
  split <;> rfl

end Memory

/-! ## Tables -/

namespace Table

open Address Memory

variable {bytes : ByteArray} {base base' top top' : UInt64} {located : LocatedHeader}

/-- Below a top that leaves room for the ROM, a table starts as far away as its header says. -/
theorem region_away {h : Header} (roomy : h.romSize.toNat ≤ top.toNat) :
    h.region top =
      if h.offset.toNat ≤ h.romSize.toNat then
        .ok ⟨away top ((h.offset.toNat : Int) - h.romSize.toNat), top⟩
      else .error (.invalidRegion h.romSize h.offset) := by
  have top_lt := top.toNat_lt
  have away_eq := toNat_away top ((h.offset.toNat : Int) - h.romSize.toNat)
  split
  · exact Header.region_eq_ok_iff.mpr ⟨roomy, by assumption, by dsimp only; omega, rfl⟩
  · rename_i beyond
    rcases placed : h.region top with cause | region
    · rw [Header.eq_invalidRegion placed]
    · exact absurd (Header.region_eq_ok_iff.mp placed).2.1 beyond

/-- Below another top, the header that was moved along opens the table that was moved along. -/
theorem ofHeader_of_places (short : bytes.size < 0x8000000000000000)
    (placed : base.toNat + bytes.size = top.toNat)
    (placed' : base'.toNat + bytes.size = top'.toNat)
    (roomy : located.header.romSize.toNat ≤ top.toNat)
    (roomy' : located.header.romSize.toNat ≤ top'.toNat) :
    (ofHeader (.image base' bytes) (located.moved (top' - top)) top').outcome =
      ((ofHeader (.image base bytes) located top).outcome.mapError
        (Error.moved (top' - top))).map (Table.moved (top' - top)) := by
  have header_eq : (located.moved (top' - top)).header = located.header := rfl
  have rom_lt := located.header.romSize.toNat_lt
  have offset_lt := located.header.offset.toNat_lt
  rw [ofHeader, ofHeader, Backend.ofHeader, Backend.ofHeader, header_eq, region_away roomy, region_away roomy']
  split
  · split
    · rename_i offset_le
      let d : Int := (located.header.offset.toNat : Int) - located.header.romSize.toNat
      -- a table is shorter than its ROM, so it is never too long for a buffer
      have short : (top - away top d).toNat < 0x100000000 := by
        have away_eq := toNat_away top d
        rw [UInt64.toNat_sub]
        omega
      have answers : ((Memory.image base' bytes).read (away top' d) (top' - away top' d)).outcome =
          ((Memory.image base bytes).read (away top d) (top - away top d)).outcome.mapError
            (Error.moved (top' - top)) := by
        rw [sub_away top top', read_eq_fetch short, read_eq_fetch short]
        exact fetch_of_places placed placed' (by omega) (by omega)
      simp only [Traced.ofExcept_ok_bind]
      have windows : ((Memory.image base' bytes).map (away top' d) (top' - away top' d)).outcome =
          (((Memory.image base bytes).map (away top d) (top - away top d)).outcome.mapError
            (Error.moved (top' - top))).map (Window.moved (top' - top)) := by
        rw [Memory.map, Memory.map, Backend.map, Backend.map]
        apply Traced.outcome_bind_of_mapError answers
        intro run _
        rw [← away_add top top']
        rfl
      exact Traced.outcome_bind_map windows fun window _ => rfl
    · rfl
  · rfl

/-- **A ROM is read alike wherever it is placed.** Let an image be placed below two tops, neither of
them lower than the largest size that a header can give. Then the footer is read alike; the header
is located alike, with its address moved from the one top to the other; the table is; and from every
header the table that is opened is. The tables that are opened go alike: their walks, payloads and
runs differ in the addresses alone, and these by the distance between the tops. -/
theorem locate_of_places (short : bytes.size < 0x8000000000000000)
    (roomy : max bytes.size 0xffffffff ≤ top.toNat)
    (roomy' : max bytes.size 0xffffffff ≤ top'.toNat) :
    ∃ memory memory', place bytes top = .ok memory ∧ place bytes top' = .ok memory' ∧
      (memory'.footer top').outcome =
        (memory.footer top).outcome.mapError (Error.moved (top' - top)) ∧
      (memory'.locate top').outcome =
        ((memory.locate top).outcome.mapError (Error.moved (top' - top))).map
          (LocatedHeader.moved (top' - top)) ∧
      (locate memory' top').outcome =
        ((locate memory top).outcome.mapError (Error.moved (top' - top))).map
          (Table.moved (top' - top)) ∧
      (∀ located, (ofHeader memory' (located.moved (top' - top)) top').outcome =
        ((ofHeader memory located top).outcome.mapError (Error.moved (top' - top))).map
          (Table.moved (top' - top))) ∧
      ∀ located t, (ofHeader memory located top).outcome = .ok t →
        GoesAlike (top' - top) t (t.moved (top' - top)) := by
  have four : Footer.size = 4 := rfl
  have short' : bytes.size < 0x10000000000000000 := by omega
  obtain ⟨base, image_placed, placed⟩ : ∃ base, place bytes top = .ok (.image base bytes) ∧ _ :=
    exists_place short' (by omega)
  obtain ⟨base', image_placed', placed'⟩ :
      ∃ base, place bytes top' = .ok (.image base bytes) ∧ _ := exists_place short' (by omega)
  have headers := locateHeader_of_places short placed placed' (by omega) (by omega)
  have tables : ∀ located : LocatedHeader,
      (ofHeader (.image base' bytes) (located.moved (top' - top)) top').outcome =
        ((ofHeader (.image base bytes) located top).outcome.mapError
          (Error.moved (top' - top))).map (Table.moved (top' - top)) := fun located =>
    have rom_lt := located.header.romSize.toNat_lt
    ofHeader_of_places short placed placed' (by omega) (by omega)
  refine ⟨_, _, image_placed, image_placed', footer_of_places placed placed' (by omega) (by omega),
    headers, Traced.outcome_bind_map headers fun located _ => tables located, tables,
    fun located t opened => ?_⟩
  -- the moved table was opened as well, so it also ends in the address space
  have opened' : (ofHeader (.image base' bytes) (located.moved (top' - top)) top').outcome =
      .ok (t.moved (top' - top)) := by
    rw [tables located, opened]
    rfl
  exact Sound.goesAlike (Opened.sound ⟨_, _, _, opened⟩) (Opened.sound ⟨_, _, _, opened'⟩)

/-- The small ROM, placed so that it ends with the last address but one of the whole space: its
table is the moved one, and extracting its second file gives the moved address. -/
theorem locate_smallImage_atLast :
    smallImage.size < 0x8000000000000000 ∧ max smallImage.size 0xffffffff ≤ topOfSpace.toNat ∧
      max smallImage.size 0xffffffff ≤ last.toNat ∧
      ∃ memory', place smallImage last = .ok memory' ∧
        (locate memory' last).outcome = .ok (smallTable.moved (last - topOfSpace)) ∧
        ((smallTable.moved (last - topOfSpace)).run ⟨true, some "b", none⟩
            (⟨[], [], some 2⟩ : ScriptedWriter)).outcome =
          .ok ⟨2, 2, some (0xffffffffffffffcd, 8)⟩ := by
  have short : smallImage.size < 0x8000000000000000 := by decide +kernel
  have roomy : max smallImage.size 0xffffffff ≤ topOfSpace.toNat := by decide +kernel
  have roomy' : max smallImage.size 0xffffffff ≤ last.toNat := by decide +kernel
  obtain ⟨memory, memory', placed, placed', -, -, tables, -, alike⟩ :=
    locate_of_places short roomy roomy'
  obtain rfl : memory = .image 0xffffff94 smallImage := Except.ok.inj (placed.symm.trans rfl)
  have located : (locate (.image 0xffffff94 smallImage) topOfSpace).outcome = .ok smallTable := by
    decide +kernel
  have opened : (ofHeader (.image 0xffffff94 smallImage) smallTable.located topOfSpace).outcome =
      .ok smallTable := by
    decide +kernel
  have run_eq : (smallTable.run ⟨true, some "b", none⟩
      (⟨[], [], some 2⟩ : ScriptedWriter)).outcome = .ok ⟨2, 2, some (0xffffffce, 8)⟩ := by
    decide +kernel
  refine ⟨short, roomy, roomy', memory', placed', ?_, ?_⟩
  · rw [tables, located]
    rfl
  · rw [(alike _ _ opened).outcome_eq, run_eq]
    rfl

end Table

end BootRom

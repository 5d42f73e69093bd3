import BootRom.Proofs.Placement

/-!
# Where the footer of an image leads

The last four bytes of an image are a signed distance from its top, and anything may stand
there. What comes of following them is settled by the bytes of the image, and the rules are given
here in numbers and bytes alone:

* `lead` is the distance, and `LeadsInside` says that a whole header fits in where it leads;
* `LedTo`: the header that is located, which is spelled by the bytes there;
* `Astray`: why no header is located.

`locate_of_noRoom`, `locate_of_cut`, `locate_of_outside` and `locate_of_inside` locate by these
rules, and `locate_classifies` says that there are no others. An address that has wrapped around
the space is met by `locate_of_outside` only: nothing is ever located there.
-/

namespace BootRom

open Format

/-- The displacement that a footer spells, the least significant byte first, as a signed number. -/
theorem Format.Footer.toInt_decode (bytes : Bytes) :
    (Footer.decode bytes).toInt = Int.bmod (BigEndian.value bytes.reverse) 0x100000000 := by
  rw [Footer.decode, BigEndian.decode, UInt32.toInt32_ofNat', Int32.toInt_ofNat']

/-- The magic of a header is spelled by its first four bytes. -/
theorem Format.Header.magic_decode (bytes : Bytes) :
    (Header.decode bytes).magic = BigEndian.decode (bytes.take 4) := rfl

namespace Memory

open Address

variable {bytes : ByteArray} {base top : UInt64} {delta : Int32} {located : LocatedHeader}
  {cause : Error}

/-! ## The rules -/

/-- How far from the top of an image its last four bytes lead: the number that they spell, the
least significant byte first, as a signed one. -/
def lead (bytes : ByteArray) : Int :=
  Int.bmod (BigEndian.value ((Bytes.contents bytes).drop (bytes.size - Footer.size)).reverse)
    0x100000000

/-- The position in an image that its footer leads to, if it leads to any. -/
def landing (bytes : ByteArray) : Nat := (bytes.size + lead bytes).toNat

/-- The number that the first four bytes spell which the footer leads to. -/
def magicThere (bytes : ByteArray) : Nat :=
  BigEndian.value (((Bytes.contents bytes).drop (landing bytes)).take 4)

/-- The header that the bytes there spell. -/
def headerThere (bytes : ByteArray) : Header :=
  Header.decode (((Bytes.contents bytes).drop (landing bytes)).take Header.size)

/-- An image has a footer, and a whole header fits in where it leads. -/
structure LeadsInside (bytes : ByteArray) : Prop where
  /-- the image is as long as a footer -/
  footed : Footer.size ≤ bytes.size
  /-- the footer does not lead below the image -/
  above : -(bytes.size : Int) ≤ lead bytes
  /-- it leads down far enough for a header -/
  below : lead bytes ≤ -(Header.size : Int)

/-- A header is the one that the footer of an image below `top` leads to. -/
structure LedTo (bytes : ByteArray) (top : UInt64) (located : LocatedHeader) : Prop where
  /-- there is a place for it -/
  inside : LeadsInside bytes
  /-- the place is marked -/
  marked : magicThere bytes = Header.magicWord.toNat
  /-- its address is the top and the distance, a plain sum -/
  address_eq : (located.address.toNat : Int) = top.toNat + lead bytes
  /-- its eight words are written as the bytes there -/
  header_eq : located.header.encode =
    ((Bytes.contents bytes).drop (landing bytes)).take Header.size

/-- Why no header is located in an image below `top`. -/
inductive Astray (bytes : ByteArray) (top : UInt64) : Error → Prop
  /-- the footer would begin below address zero -/
  | noRoom (unfooted : bytes.size < Footer.size) (low : top.toNat < Footer.size) :
    Astray bytes top .addressOverflow
  /-- the footer would begin below the image -/
  | cut (unfooted : bytes.size < Footer.size) (room : Footer.size ≤ top.toNat) :
    Astray bytes top
      (.unbackedRange (UInt64.ofNat (top.toNat - Footer.size)) (UInt64.ofNat Footer.size))
  /-- it leads to where no whole header is, and around the end of the space if need be -/
  | outside (footed : Footer.size ≤ bytes.size) (outside : ¬ LeadsInside bytes) :
    Astray bytes top (.unbackedRange (away top (lead bytes)) (UInt64.ofNat Header.size))
  /-- it leads to bytes that are not marked as a header -/
  | foreign (inside : LeadsInside bytes) (unmarked : magicThere bytes ≠ Header.magicWord.toNat) :
    Astray bytes top (.headerNotFound (away top (lead bytes)) (UInt32.ofNat (magicThere bytes)))

/-! ## The footer -/

/-- An image that is as long as a footer has one, which says how far it leads. -/
theorem footer_of_footed (short : bytes.size < 0x8000000000000000)
    (placed : base.toNat + bytes.size = top.toNat) (footed : Footer.size ≤ bytes.size) :
    ∃ delta : Int32, ((image base bytes).footer top).outcome = .ok delta ∧
      delta.toInt = lead bytes := by
  have four : ((Bytes.contents bytes).drop (bytes.size - Footer.size)).length = Footer.size := by
    rw [List.length_drop, Bytes.length_contents, Nat.sub_sub_self footed]
  exact ⟨_, footer_of_image (by omega) placed (Footer.encode_decode four).symm,
    Footer.toInt_decode _⟩

/-- Below a top with room for a footer, an image that is shorter has none. -/
theorem locate_of_cut (placed : base.toNat + bytes.size = top.toNat)
    (unfooted : bytes.size < Footer.size) (room : Footer.size ≤ top.toNat) :
    ((image base bytes).locate top).outcome =
      .error (.unbackedRange (UInt64.ofNat (top.toNat - Footer.size))
        (UInt64.ofNat Footer.size)) := by
  have top_lt := top.toNat_lt
  have four : Footer.size = 4 := rfl
  have address_eq : (UInt64.ofNat (top.toNat - Footer.size)).toNat = top.toNat - Footer.size :=
    UInt64.toNat_ofNat_of_lt' (Nat.lt_of_le_of_lt (Nat.sub_le _ _) top_lt)
  have found : checkedSub top (UInt64.ofNat Footer.size) =
      some (UInt64.ofNat (top.toNat - Footer.size)) :=
    checkedSub_eq_some_iff.mpr ⟨room, address_eq⟩
  have refused : ((image base bytes).fetch (UInt64.ofNat (top.toNat - Footer.size))
      (UInt64.ofNat Footer.size)).outcome = _ :=
    fetch_image_of_outside (by omega) (.inl (by omega))
  simp only [locate, footer, found, Traced.outcome_bind, Traced.outcome_log, refused]
  rfl

/-- Below the lowest tops there is no room for a footer. -/
theorem locate_of_noRoom (low : top.toNat < Footer.size) :
    ((image base bytes).locate top).outcome = .error .addressOverflow := by
  have none_below : checkedSub top (UInt64.ofNat Footer.size) = none :=
    checkedSub_eq_none_iff.mpr low
  simp only [locate, footer, none_below, Traced.fail_bind, Traced.outcome_fail]

/-! ## The header -/

/-- Where the footer leads to a place without a whole header, the address is refused, wrapped or
not. -/
theorem locate_of_outside (short : bytes.size < 0x8000000000000000)
    (placed : base.toNat + bytes.size = top.toNat) (footed : Footer.size ≤ bytes.size)
    (outside : ¬ LeadsInside bytes) :
    ((image base bytes).locate top).outcome =
      .error (.unbackedRange (away top (lead bytes)) (UInt64.ofNat Header.size)) := by
  obtain ⟨delta, footer_eq, leads⟩ := footer_of_footed short placed footed
  have delta_low := delta.le_toInt
  have delta_high := delta.toInt_lt
  have header_size : (UInt64.ofNat Header.size).toNat = Header.size := rfl
  have refused : ((image base bytes).fetch (away top (lead bytes))
      (UInt64.ofNat Header.size)).outcome = _ :=
    fetch_away placed (by omega) (by omega)
  rw [if_neg fun inside => outside ⟨footed, inside.1, by omega⟩, ← leads, ← displace_eq_away]
    at refused
  rw [← leads, ← displace_eq_away]
  simp only [locate, Traced.bind_of_ok footer_eq, Traced.log_bind, Traced.bind_of_error refused]

/-- Where it leads to a whole header, that header is read, and its magic decides. -/
theorem locate_of_inside (short : bytes.size < 0x8000000000000000)
    (placed : base.toNat + bytes.size = top.toNat) (inside : LeadsInside bytes) :
    ((image base bytes).locate top).outcome =
      if (headerThere bytes).isMarked then .ok ⟨away top (lead bytes), headerThere bytes⟩
      else .error (.headerNotFound (away top (lead bytes)) (headerThere bytes).magic) := by
  obtain ⟨delta, footer_eq, leads⟩ := footer_of_footed short placed inside.footed
  have above := inside.above
  have below := inside.below
  have header_size : (UInt64.ofNat Header.size).toNat = Header.size := rfl
  have read : ((image base bytes).fetch (away top (lead bytes))
      (UInt64.ofNat Header.size)).outcome = _ :=
    fetch_away placed (by omega) (by omega)
  rw [if_pos ⟨above, by omega⟩, header_size, ← landing, ← leads, ← displace_eq_away] at read
  rw [locate_of_read footer_eq read, Bytes.contents_extract, ← headerThere, displace_eq_away,
    leads]

/-- As many bytes as a header has are left where it lies inside. -/
theorem LeadsInside.length_there (inside : LeadsInside bytes) :
    (((Bytes.contents bytes).drop (landing bytes)).take Header.size).length = Header.size := by
  have above := inside.above
  have below := inside.below
  rw [List.length_take, List.length_drop, Bytes.length_contents, landing]
  omega

/-- The magic of the header that is read is the number that its first four bytes spell. -/
theorem LeadsInside.magic_eq (inside : LeadsInside bytes) :
    (headerThere bytes).magic = UInt32.ofNat (magicThere bytes) ∧
      (headerThere bytes).magic.toNat = magicThere bytes := by
  have magic_first : 4 = min 4 Header.size := rfl
  have four : (((Bytes.contents bytes).drop (landing bytes)).take 4).length = 4 := by
    rw [magic_first, ← List.take_take, List.length_take, inside.length_there]
  have first_word : (headerThere bytes).magic =
      BigEndian.decode (((Bytes.contents bytes).drop (landing bytes)).take 4) := by
    rw [headerThere, Header.magic_decode, List.take_take, ← magic_first]
  rw [first_word, BigEndian.toNat_decode four, magicThere, BigEndian.decode]
  exact ⟨rfl, rfl⟩

theorem LeadsInside.isMarked_iff (inside : LeadsInside bytes) :
    (headerThere bytes).isMarked = true ↔ magicThere bytes = Header.magicWord.toNat := by
  rw [Header.isMarked, beq_iff_eq, ← UInt32.toNat_inj, inside.magic_eq.2]

/-- A header is the one that bytes spell exactly if it is written as they are. -/
theorem LeadsInside.header_eq_iff (inside : LeadsInside bytes) {header : Header} :
    header = headerThere bytes ↔
      header.encode = ((Bytes.contents bytes).drop (landing bytes)).take Header.size := by
  constructor
  · rintro rfl
    exact Header.encode_decode inside.length_there
  · intro written
    rw [headerThere, ← written, Header.decode_encode]

/-! ## Locating goes by the rules -/

/-- The address where a header lies inside is a plain sum. -/
theorem LeadsInside.toNat_away (inside : LeadsInside bytes)
    (below : bytes.size ≤ top.toNat) :
    ((away top (lead bytes)).toNat : Int) = top.toNat + lead bytes := by
  have above := inside.above
  have lead_low := inside.below
  have top_lt := top.toNat_lt
  rw [Address.toNat_away]
  omega

/-- Of every image it is settled whether a header is located in it. -/
theorem ledTo_or_astray (below : bytes.size ≤ top.toNat) :
    (∃ located, LedTo bytes top located) ∨ ∃ cause, Astray bytes top cause := by
  rcases Nat.lt_or_ge bytes.size Footer.size with unfooted | footed
  · rcases Nat.lt_or_ge top.toNat Footer.size with low | room
    · exact .inr ⟨_, .noRoom unfooted low⟩
    · exact .inr ⟨_, .cut unfooted room⟩
  · by_cases inside : LeadsInside bytes
    · by_cases marked : magicThere bytes = Header.magicWord.toNat
      · exact .inl ⟨⟨away top (lead bytes), headerThere bytes⟩, inside, marked,
          inside.toNat_away below, inside.header_eq_iff.mp rfl⟩
      · exact .inr ⟨_, .foreign inside marked⟩
    · exact .inr ⟨_, .outside footed inside⟩

theorem locate_of_ledTo (short : bytes.size < 0x8000000000000000)
    (placed : base.toNat + bytes.size = top.toNat) (led : LedTo bytes top located) :
    ((image base bytes).locate top).outcome = .ok located := by
  have inside := led.inside
  have address_eq : located.address = away top (lead bytes) := by
    apply UInt64.toNat_inj.mp
    have below : bytes.size ≤ top.toNat := by omega
    have plain := inside.toNat_away below
    have sum := led.address_eq
    omega
  rw [locate_of_inside short placed inside, if_pos (inside.isMarked_iff.mpr led.marked),
    ← address_eq, ← inside.header_eq_iff.mpr led.header_eq]

theorem locate_of_astray (short : bytes.size < 0x8000000000000000)
    (placed : base.toNat + bytes.size = top.toNat) (astray : Astray bytes top cause) :
    ((image base bytes).locate top).outcome = .error cause := by
  cases astray with
  | noRoom unfooted low => exact locate_of_noRoom low
  | cut unfooted room => exact locate_of_cut placed unfooted room
  | outside footed outside => exact locate_of_outside short placed footed outside
  | foreign inside unmarked =>
    rw [locate_of_inside short placed inside, if_neg (mt inside.isMarked_iff.mp unmarked),
      inside.magic_eq.1]

/-- **Locating goes where the footer leads, and nowhere else.** Let an image be placed below a top.
A header is located there exactly if the footer leads down far enough for a whole one, not below
the image, and the magic is there; its address is then the plain sum of top and distance, and its
words are those that the bytes spell. Otherwise the error says why: there is no footer, the footer
leads to where no whole header is, also if it wraps around the end of the space, or what it leads
to is not marked. -/
theorem locate_classifies (short : bytes.size < 0x8000000000000000)
    (below : bytes.size ≤ top.toNat) :
    ∃ memory, place bytes top = .ok memory ∧
      ((∃ located, (memory.locate top).outcome = .ok located) ↔
        LeadsInside bytes ∧ magicThere bytes = Header.magicWord.toNat) ∧
      (∀ located, (memory.locate top).outcome = .ok located ↔ LedTo bytes top located) ∧
      ∀ cause, (memory.locate top).outcome = .error cause ↔ Astray bytes top cause := by
  obtain ⟨base, image_placed, placed⟩ := exists_place (by omega) below
  obtain ⟨answers, fails⟩ := Traced.outcome_iff_of_settled (ledTo_or_astray below)
    (fun located => locate_of_ledTo short placed) (fun cause => locate_of_astray short placed)
  refine ⟨_, image_placed, ⟨?_, ?_⟩, answers, fails⟩
  · rintro ⟨located, found⟩
    have led := (answers located).mp found
    exact ⟨led.inside, led.marked⟩
  · rintro ⟨inside, marked⟩
    rw [locate_of_inside short placed inside, if_pos (inside.isMarked_iff.mpr marked)]
    exact ⟨_, rfl⟩

/-- The small ROM has its header 36 bytes below its end. -/
theorem locate_classifies_smallImage :
    smallImage.size < 0x8000000000000000 ∧ smallImage.size ≤ topOfSpace.toNat ∧
      lead smallImage = -36 ∧
      ∃ memory, place smallImage topOfSpace = .ok memory ∧
        (memory.locate topOfSpace).outcome = .ok ⟨0xffffffdc, smallHeader⟩ := by
  have short : smallImage.size < 0x8000000000000000 := by decide +kernel
  have below : smallImage.size ≤ topOfSpace.toNat := by decide +kernel
  have led : LedTo smallImage topOfSpace ⟨0xffffffdc, smallHeader⟩ :=
    ⟨⟨by decide +kernel, by decide +kernel, by decide +kernel⟩, by decide +kernel,
      by decide +kernel, by decide +kernel⟩
  obtain ⟨memory, placed, -, answers, -⟩ := locate_classifies short below
  exact ⟨short, below, by decide +kernel, memory, placed, (answers _).mpr led⟩

/-- A footer that leads one byte up from the last address has wrapped around to the first. -/
example : ((image (last - 4) ⟨#[1, 0, 0, 0]⟩).locate last).outcome =
    .error (.unbackedRange 0 32) := by
  rfl

end Memory

end BootRom

import BootRom.Proofs.Opening

/-!
# Reading an image

An image that is placed below a top address answers every read that lies within
it. So the footer and the header can be read off its bytes:

* `place_eq_ok_iff`, `exists_place`: where an image is placed;
* `fetch_image_of_inside`: what is read is the run of bytes at an index; `fetch_image_of_outside`:
  nothing else is read;
* `footer_of_image` and `locate_of_image`: the last four bytes lead to the header.
-/

namespace BootRom

open Format

/-- A displacement that lands in the address space lands at the sum. -/
theorem Address.toNat_displace {a : UInt64} {delta : Int32} {n : Nat}
    (lands : (a.toNat : Int) + delta.toInt = n) (inSpace : n < 0x10000000000000000) :
    (displace a delta).toNat = n := by
  rw [displace, lands, UInt64.ofInt, UInt64.toNat_ofNat']
  omega

namespace Memory

variable {memory : Memory} {bytes : ByteArray} {base top address len : UInt64} {i position : Nat} {delta : Int32}
  {header : Header}

/-! ## Reading an image -/

/-- What is placed below a top is an image that ends there. -/
theorem place_eq_ok_iff (short : bytes.size < 0x10000000000000000) :
    place bytes top = .ok memory ↔
      ∃ base, memory = .image base bytes ∧ base.toNat + bytes.size = top.toNat := by
  have size_eq : (UInt64.ofNat bytes.size).toNat = bytes.size := UInt64.toNat_ofNat_of_lt' short
  rw [place]
  rcases found : Address.checkedSub top (UInt64.ofNat bytes.size) with _ | below
  · have above := Address.checkedSub_eq_none_iff.mp found
    constructor
    · intro placed
      cases placed
    · rintro ⟨base, -, ends⟩
      omega
  · obtain ⟨fits, below_eq⟩ := Address.checkedSub_eq_some_iff.mp found
    constructor
    · intro placed
      obtain rfl := Except.ok.inj placed
      exact ⟨below, rfl, by omega⟩
    · rintro ⟨base, rfl, ends⟩
      obtain rfl : below = base := UInt64.toNat_inj.mp (by omega)
      rfl

/-- An image that is not longer than the space below the top can be placed there. -/
theorem exists_place (short : bytes.size < 0x10000000000000000)
    (below : bytes.size ≤ top.toNat) :
    ∃ base, place bytes top = .ok (.image base bytes) ∧
      base.toNat + bytes.size = top.toNat := by
  have base_eq : (UInt64.ofNat (top.toNat - bytes.size)).toNat = top.toNat - bytes.size :=
    UInt64.toNat_ofNat_of_lt' (Nat.lt_of_le_of_lt (Nat.sub_le _ _) top.toNat_lt)
  have ends : (UInt64.ofNat (top.toNat - bytes.size)).toNat + bytes.size = top.toNat := by
    rw [base_eq, Nat.sub_add_cancel below]
  exact ⟨_, (place_eq_ok_iff short).mpr ⟨_, rfl, ends⟩, ends⟩

/-- A range within an image is read from there. -/
theorem fetch_image_of_inside (short : bytes.size < 0x10000000000000000)
    (at_index : address.toNat = base.toNat + i) (inside : i + len.toNat ≤ bytes.size) :
    ((Memory.image base bytes).fetch address len).outcome =
      .ok (bytes.extract i (i + len.toNat)) := by
  have size_eq : (UInt64.ofNat bytes.size).toNat = bytes.size := UInt64.toNat_ofNat_of_lt' short
  rcases found : Address.checkedSub address base with _ | index
  · have below := Address.checkedSub_eq_none_iff.mp found
    omega
  · obtain ⟨-, index_eq⟩ := Address.checkedSub_eq_some_iff.mp found
    have index_eq' : index.toNat = i := by omega
    have answer : cut bytes index len = .ok (bytes.extract i (i + len.toNat)) :=
      cut_eq_ok_iff.mpr ⟨by omega, by rw [index_eq']⟩
    simp only [fetch, found, answer, Traced.outcome_ofExcept]

/-- A range that is not within an image is refused as unbacked. -/
theorem fetch_image_of_outside (short : bytes.size < 0x10000000000000000)
    (outside : address.toNat < base.toNat ∨
      base.toNat + bytes.size < address.toNat + len.toNat) :
    ((Memory.image base bytes).fetch address len).outcome =
      .error (.unbackedRange address len) := by
  have size_eq : (UInt64.ofNat bytes.size).toNat = bytes.size := UInt64.toNat_ofNat_of_lt' short
  rcases found : Address.checkedSub address base with _ | index
  · simp only [fetch, found, Traced.outcome_ofExcept]
  · obtain ⟨above, index_eq⟩ := Address.checkedSub_eq_some_iff.mp found
    rcases taken : cut bytes index len with e | run
    · simp only [fetch, found, taken, Traced.outcome_ofExcept]
    · have inside := (cut_eq_ok_iff.mp taken).1
      omega

/-! ## From the footer to the header -/

/-- The footer of an image is spelled by its last four bytes. -/
theorem footer_of_image (short : bytes.size < 0x10000000000000000)
    (placed : base.toNat + bytes.size = top.toNat)
    (spelled : (Bytes.contents bytes).drop (bytes.size - Footer.size) = Footer.encode delta) :
    ((Memory.image base bytes).footer top).outcome = .ok delta := by
  have four : Footer.size = 4 := rfl
  have four_left := congrArg List.length spelled
  rw [List.length_drop, Bytes.length_contents, show (Footer.encode delta).length = 4 from rfl]
    at four_left
  rcases found : Address.checkedSub top (UInt64.ofNat Footer.size) with _ | address
  · have below : top.toNat < 4 := Address.checkedSub_eq_none_iff.mp found
    omega
  · obtain ⟨-, address_eq⟩ := Address.checkedSub_eq_some_iff.mp found
    have address_eq' : address.toNat = top.toNat - 4 := address_eq
    have answer :
        ((Memory.image base bytes).fetch address (UInt64.ofNat Footer.size)).outcome = _ :=
      fetch_image_of_inside (i := bytes.size - Footer.size) short (by omega)
        (show bytes.size - Footer.size + 4 ≤ bytes.size by omega)
    have read : Bytes.contents (bytes.extract (bytes.size - Footer.size)
        (bytes.size - Footer.size + (UInt64.ofNat Footer.size).toNat)) = Footer.encode delta := by
      rw [Bytes.contents_extract, spelled]
      rfl
    simp only [footer, found, Traced.log_bind, Traced.bind_of_ok answer, read,
      Footer.decode_encode, Traced.outcome_pure]

/-- Once footer and header are read, it is the magic that decides. -/
theorem locate_of_read {run : ByteArray}
    (footer_eq : (memory.footer top).outcome = .ok delta)
    (read : (memory.fetch (Address.displace top delta) (UInt64.ofNat Header.size)).outcome =
      .ok run) :
    (memory.locate top).outcome =
      if (Header.decode (Bytes.contents run)).isMarked then
        .ok ⟨Address.displace top delta, Header.decode (Bytes.contents run)⟩
      else
        .error (.headerNotFound (Address.displace top delta)
          (Header.decode (Bytes.contents run)).magic) := by
  simp only [locate, Traced.bind_of_ok footer_eq, Traced.log_bind, Traced.bind_of_ok read,
    Traced.bind_of_ok (Traced.outcome_logAll _)]
  split <;> rfl

/-- The header of an image is found where its footer leads. -/
theorem locate_of_image (short : bytes.size < 0x10000000000000000)
    (placed : base.toNat + bytes.size = top.toNat)
    (footer_eq : ((Memory.image base bytes).footer top).outcome = .ok delta)
    (leads : delta.toInt = (position : Int) - bytes.size)
    (inside : position + Header.size ≤ bytes.size)
    (spelled : ((Bytes.contents bytes).drop position).take Header.size = header.encode)
    (marked : header.magic = Header.magicWord) :
    ∃ located, ((Memory.image base bytes).locate top).outcome = .ok located ∧
      located.address.toNat = base.toNat + position ∧ located.header = header := by
  have top_lt := top.toNat_lt
  have address_eq : (Address.displace top delta).toNat = base.toNat + position :=
    Address.toNat_displace (by omega) (by omega)
  have answer : ((Memory.image base bytes).fetch (Address.displace top delta)
      (UInt64.ofNat Header.size)).outcome = _ := fetch_image_of_inside short address_eq inside
  have read : Bytes.contents (bytes.extract position
      (position + (UInt64.ofNat Header.size).toNat)) = header.encode := by
    rw [Bytes.contents_extract]
    exact spelled
  refine ⟨⟨Address.displace top delta, header⟩, ?_, address_eq, rfl⟩
  have is_marked : header.isMarked = true := beq_iff_eq.mpr marked
  rw [locate_of_read footer_eq answer, read, Header.decode_encode, if_pos is_marked]

end Memory

end BootRom

import BootRom.Proofs.Opening

/-!
# A file in the place of an image

The bytes of a ROM can be read through a plain file, or held as an image whose first
byte is at address zero. The two are checked differently: a file lets an empty range be read
wherever it is, an image does not. And they name differently what they refuse. Neither
difference can be seen in what is located.

* `Error.ofFile`: what an error of an image is called where a file is read.
* `fetch_file`, `read_file`: ranges that are not empty are read alike.
* `le_of_locate`: a header that was located lies below a top that the image reaches, so the one
  empty range that a table can be mapped from, the one at the top, is in the image as well.
* `locate_file`: headers and tables are located alike.
-/

namespace BootRom

open Format Memory

/-- What an error of an image is called where a file is read: a range that nothing backs is the
end of the file, met while it was being mapped. -/
def Error.ofFile (path : String) : Error → Error
  | .unbackedRange address _ => .io (.mapping path address) (.plain .unexpectedEnd)
  | e => e

namespace Memory

variable {path : String} {bytes : ByteArray} {address len top : UInt64} {located : LocatedHeader}

/-! ## Ranges -/

theorem checkedSub_zero (address : UInt64) : Address.checkedSub address 0 = some address :=
  Address.checkedSub_eq_some_iff.mpr ⟨Nat.zero_le _, rfl⟩

/-- An image that starts at address zero reads what lies within it. -/
theorem fetch_image_zero (bytes : ByteArray) (address len : UInt64) :
    ((image 0 bytes).fetch address len).outcome =
      (cut bytes address len).mapError fun _ => .unbackedRange address len := by
  simp only [fetch, checkedSub_zero, Traced.outcome_ofExcept]
  rcases cut bytes address len with e | run <;> rfl

/-- File and image read alike what is not empty. -/
theorem fetch_file (some_asked : len ≠ 0) :
    ((file path bytes).fetch address len).outcome =
      ((image 0 bytes).fetch address len).outcome.mapError (Error.ofFile path) := by
  rw [fetch_image_zero]
  simp only [fetch, Traced.log_bind, Traced.outcome_ofExcept, if_neg some_asked]
  rcases cut bytes address len with e | run <;> rfl

theorem read_file (some_asked : len ≠ 0) :
    ((file path bytes).read address len).outcome =
      ((image 0 bytes).read address len).outcome.mapError (Error.ofFile path) := by
  rw [read, read, Backend.read, Backend.read]
  split
  · exact fetch_file some_asked
  · rfl

/-- Nothing is what file and image both read from any place up to their end. -/
theorem read_file_of_inside (inside : address.toNat + len.toNat ≤ (UInt64.ofNat bytes.size).toNat) :
    ((file path bytes).read address len).outcome =
      ((image 0 bytes).read address len).outcome.mapError (Error.ofFile path) := by
  by_cases some_asked : len ≠ 0
  · exact read_file some_asked
  · obtain rfl : len = 0 := Classical.not_not.mp some_asked
    have nothing : cut bytes address 0 = .ok ByteArray.empty := by
      refine cut_eq_ok_iff.mpr ⟨inside, ByteArray.ext ?_⟩
      simp
    have short : (0 : UInt64) ≤ maxBuffer := by decide
    rw [read, read, Backend.read, Backend.read, if_pos short, if_pos short, backend_fetch,
      backend_fetch, fetch_image_zero, nothing]
    rfl

/-! ## Headers -/

theorem footer_file (path : String) (bytes : ByteArray) (top : UInt64) :
    ((file path bytes).footer top).outcome =
      ((image 0 bytes).footer top).outcome.mapError (Error.ofFile path) := by
  rw [footer, footer]
  rcases Address.checkedSub top (UInt64.ofNat Footer.size) with _ | address
  · rfl
  · have four : UInt64.ofNat Footer.size ≠ 0 := by decide
    simp only [Traced.log_bind]
    exact Traced.outcome_bind_mapError (fetch_file four) fun raw _ => rfl

theorem locateHeader_file (path : String) (bytes : ByteArray) (top : UInt64) :
    ((file path bytes).locate top).outcome =
      ((image 0 bytes).locate top).outcome.mapError (Error.ofFile path) := by
  rw [locate, locate]
  refine Traced.outcome_bind_mapError (footer_file path bytes top) fun delta _ => ?_
  have some_asked : UInt64.ofNat Header.size ≠ 0 := by decide
  simp only [Traced.log_bind]
  refine Traced.outcome_bind_mapError (fetch_file some_asked) fun raw _ => ?_
  rw [Traced.bind_of_ok (Traced.outcome_logAll _)]
  dsimp only
  split <;> rfl

/-- Where a header was located, the image reaches up to the top, since the footer is read first. -/
theorem le_of_locate (found : ((image 0 bytes).locate top).outcome = .ok located) :
    top.toNat ≤ (UInt64.ofNat bytes.size).toNat := by
  obtain ⟨delta, read, -⟩ := Traced.outcome_bind_eq_ok.mp found
  rw [footer] at read
  rcases below : Address.checkedSub top (UInt64.ofNat Footer.size) with _ | address
  · rw [below] at read
    cases read
  · obtain ⟨four_le, address_eq⟩ := Address.checkedSub_eq_some_iff.mp below
    rw [below] at read
    simp only [Traced.log_bind] at read
    obtain ⟨raw, answer, -⟩ := Traced.outcome_bind_eq_ok.mp read
    rw [fetch_image_zero] at answer
    rcases taken : cut bytes address (UInt64.ofNat Footer.size) with e | run
    · rw [taken] at answer
      cases answer
    · have inside := (cut_eq_ok_iff.mp taken).1
      omega

end Memory

/-! ## Tables -/

namespace Table

variable {path : String} {bytes : ByteArray} {top : UInt64}

/-- From one header, file and image open the same table, or refuse it alike, up to their end. -/
theorem ofHeader_file (located : LocatedHeader)
    (within : top.toNat ≤ (UInt64.ofNat bytes.size).toNat) :
    (ofHeader (.file path bytes) located top).outcome =
      (ofHeader (.image 0 bytes) located top).outcome.mapError (Error.ofFile path) := by
  rw [ofHeader, ofHeader, Backend.ofHeader, Backend.ofHeader]
  split
  · rcases placed : located.header.region top with e | region
    · rw [Header.eq_invalidRegion placed]
      rfl
    · obtain ⟨rom_le, offset_le, start_eq, limit_eq⟩ := Header.region_eq_ok_iff.mp placed
      have start_le : region.start ≤ region.limit := by
        rw [UInt64.le_iff_toNat_le, start_eq, limit_eq]
        omega
      have len_eq := UInt64.toNat_sub_of_le _ _ start_le
      have inside : region.start.toNat + (region.limit - region.start).toNat ≤
          (UInt64.ofNat bytes.size).toNat := by
        rw [len_eq, limit_eq]
        omega
      simp only [Traced.ofExcept_ok_bind]
      refine Traced.outcome_bind_mapError ?_ fun window _ => rfl
      exact Traced.outcome_bind_mapError (read_file_of_inside inside) fun run _ => rfl
  · rfl

/-- **A file is as good as the image of its bytes.** The image that a file's bytes make starts at
address zero. Below every top, header and table are located through the one as through the other:
the same header, the same table, and so the same walk, the same payloads and the same runs, or else
the same error, up to what a range is called that nothing backs. Every range that is not empty is
read alike too. -/
theorem locate_file (path : String) (bytes : ByteArray) (top : UInt64) :
    place bytes (UInt64.ofNat bytes.size) = .ok (.image 0 bytes) ∧
    ((Memory.file path bytes).locate top).outcome =
      ((Memory.image 0 bytes).locate top).outcome.mapError (Error.ofFile path) ∧
    (locate (.file path bytes) top).outcome =
      (locate (.image 0 bytes) top).outcome.mapError (Error.ofFile path) ∧
    (∀ t, (locate (.file path bytes) top).outcome = .ok t ↔
      (locate (.image 0 bytes) top).outcome = .ok t) ∧
    ∀ address len, len ≠ 0 →
      ((Memory.file path bytes).read address len).outcome =
        ((Memory.image 0 bytes).read address len).outcome.mapError (Error.ofFile path) := by
  have tables : (locate (.file path bytes) top).outcome =
      (locate (.image 0 bytes) top).outcome.mapError (Error.ofFile path) :=
    Traced.outcome_bind_mapError (locateHeader_file path bytes top) fun located found =>
      ofHeader_file located (le_of_locate found)
  refine ⟨?_, locateHeader_file path bytes top, tables, fun t => ?_, fun _ _ => read_file⟩
  · have none_below : Address.checkedSub (UInt64.ofNat bytes.size) (UInt64.ofNat bytes.size) =
        some 0 := Address.checkedSub_eq_some_iff.mpr ⟨Nat.le_refl _, (Nat.sub_self _).symm⟩
    rw [place, none_below]
  · rw [tables]
    rcases (locate (.image 0 bytes) top).outcome with e | t'
    · exact ⟨nofun, nofun⟩
    · exact Iff.rfl

/-- The table of the small ROM is located through a file as well, and its end is refused as the end
of that file. -/
theorem locate_smallFile :
    (locate (.file "rom.bin" smallImage) 108).outcome =
        .ok ⟨⟨72, smallHeader⟩, ⟨0, smallImage⟩⟩ ∧
      (4 : UInt64) ≠ 0 ∧
      ((Memory.file "rom.bin" smallImage).read 106 4).outcome =
        .error (.io (.mapping "rom.bin" 106) (.plain .unexpectedEnd)) := by
  obtain ⟨-, -, -, tables, ranges⟩ := locate_file "rom.bin" smallImage 108
  have some_asked : (4 : UInt64) ≠ 0 := by decide
  exact ⟨(tables _).mpr (by decide +kernel), some_asked, (ranges 106 4 some_asked).trans rfl⟩

end Table

end BootRom

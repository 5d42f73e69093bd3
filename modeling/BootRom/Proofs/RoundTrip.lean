import BootRom.Proofs.Admission
import BootRom.Proofs.Geometry

/-!
# What was stored is what is found

An image stores files if its footer leads to a header, and the header to a row of
records at aligned distances with a place behind them where no magic stands; nothing
else about the image matters. Such an image is read back in full:

* `StoredFile` is a file with all that a record says about it, and `placed` puts files
  into their row;
* `Stores` says what the bytes of an image have to be;
* `chain_of_placed` is the induction over the row: it is the chain of the table;
* `locate_of_stores`: the table that is located lists the files, in order, at their places and
  with their payloads, and the walk ends well.
-/

namespace BootRom

open Format Memory

/-! ## Files in a row -/

/-- A file, as it is stored. -/
structure StoredFile where
  /-- the type of the file -/
  fileType : UInt32
  /-- where its attributes start -/
  attributesOffset : UInt32
  /-- the name buffer, zeros included -/
  name : Bytes
  /-- the contents of the file -/
  payload : Bytes
  /-- where the payload starts is a 32-bit number -/
  name_fits : Record.size + name.length < 0x100000000
  /-- the length of the payload is a 32-bit number -/
  payload_fits : payload.length < 0x100000000

namespace StoredFile

/-- The header of the record that stores a file. -/
def record (f : StoredFile) : Record :=
  ⟨Record.magicBytes, UInt32.ofNat f.payload.length, f.fileType, f.attributesOffset,
    UInt32.ofNat (Record.size + f.name.length)⟩

/-- The whole record of a file. -/
def bytes (f : StoredFile) : Bytes := f.record.encode ++ f.name ++ f.payload

variable {f : StoredFile} {data : Bytes}

theorem toNat_offset (f : StoredFile) :
    f.record.offset.toNat = Record.size + f.name.length := by
  have fits := f.name_fits
  rw [record, UInt32.toNat_ofNat']
  omega

theorem toNat_len (f : StoredFile) : f.record.len.toNat = f.payload.length := by
  have fits := f.payload_fits
  rw [record, UInt32.toNat_ofNat']
  omega

@[simp] theorem length_encode_record (f : StoredFile) :
    f.record.encode.length = Record.size := rfl

theorem length_bytes (f : StoredFile) :
    f.bytes.length = f.record.offset.toNat + f.record.len.toNat := by
  rw [toNat_offset, toNat_len, bytes, List.length_append, List.length_append,
    length_encode_record]

/-- Bytes that begin with a record have its header, name and payload at their places. -/
theorem parts_of_prefix (there : f.bytes <+: data) :
    data.take Record.size = f.record.encode ∧
      (data.drop Record.size).take f.name.length = f.name ∧
      (data.drop (Record.size + f.name.length)).take f.payload.length = f.payload := by
  obtain ⟨rest, rfl⟩ := there
  have head : (f.bytes ++ rest).drop Record.size = f.name ++ (f.payload ++ rest) := by
    rw [bytes, List.append_assoc, List.append_assoc]
    exact List.drop_left' f.length_encode_record
  refine ⟨?_, ?_, ?_⟩
  · rw [bytes, List.append_assoc, List.append_assoc]
    exact List.take_left' f.length_encode_record
  · rw [head]
    exact List.take_left' rfl
  · rw [← List.drop_drop, head, List.drop_left' rfl]
    exact List.take_left' rfl

end StoredFile

/-- Files with the positions that they are stored at: from one to the next it is the length of the
record, rounded up to the alignment. -/
def placed (align : Nat) : Nat → List StoredFile → List (Nat × StoredFile)
  | _, [] => []
  | position, f :: rest =>
    (position, f) :: placed align (position + roundUp f.bytes.length align) rest

/-- The position after the last of some files. -/
def positionAfter (align : Nat) : Nat → List StoredFile → Nat
  | position, [] => position
  | position, f :: rest => positionAfter align (position + roundUp f.bytes.length align) rest

/-! ## Reading a row -/

namespace Table

variable {t : Table} {i bottom offset : Nat} {e : Entry} {f : StoredFile} {data : Bytes}

/-- Bytes that begin with a record are not shorter than it. -/
theorem length_of_stored (there : f.bytes <+: t.window.contents.drop i) :
    i + (f.record.offset.toNat + f.record.len.toNat) ≤ t.window.contents.length := by
  have length_le := there.length_le
  have room : Record.size ≤ f.record.offset.toNat := by
    rw [f.toNat_offset]
    exact Nat.le_add_right _ _
  have some_room : 0 < Record.size := by decide
  rw [f.length_bytes, List.length_drop] at length_le
  omega

/-- A file that is stored at an index is an entry there. -/
theorem entryAt_of_stored (there : f.bytes <+: t.window.contents.drop i)
    (address_eq : e.address.toNat = t.start.toNat + i) (record_eq : e.record = f.record)
    (name_eq : e.name.buffer = f.name) : t.EntryAt i e := by
  have inside := length_of_stored there
  have offset_eq := f.toNat_offset
  obtain ⟨header_there, name_there, -⟩ := f.parts_of_prefix there
  refine ⟨?_, by omega, ?_, ?_, ?_, ?_, address_eq⟩
  · have magic_first : Record.magicSize = min Record.magicSize Record.size := rfl
    rw [MarkedAt, magic_first, ← List.take_take, header_there]
    rfl
  · rw [record_eq, headerAt, header_there]
    exact (Record.decode_encode rfl).symm
  · rw [record_eq, offset_eq]
    exact Nat.le_add_right _ _
  · rw [record_eq]
    omega
  · rw [name_eq, record_eq, offset_eq, Nat.add_sub_cancel_left, ← List.drop_drop]
    exact name_there.symm

/-- The payload of a file that is stored at an index is read from there. -/
theorem payload_of_stored (sound : t.Sound) (there : f.bytes <+: t.window.contents.drop i)
    (address_eq : e.address.toNat = t.start.toNat + i) (record_eq : e.record = f.record) :
    t.payload e = .ok f.payload := by
  have inside := length_of_stored there
  have limit_eq := sound.toNat_limit
  obtain ⟨-, -, payload_there⟩ := f.parts_of_prefix there
  rw [payload_of_inside sound (by omega) (by rw [record_eq]; omega)]
  have index_eq : e.address.toNat + e.record.offset.toNat - t.start.toNat =
      i + (Record.size + f.name.length) := by
    rw [record_eq, f.toNat_offset]
    omega
  rw [payloadBytes, index_eq, record_eq, f.toNat_len, ← List.drop_drop, payload_there]

/-- A row of files is the chain of the table that it is stored in. The induction is on the row; what
is left of it starts at position `offset + i` of the image, which is index `i` of the table. -/
theorem chain_of_placed (sound : t.Sound) (start_eq : t.start.toNat = bottom + offset)
    (contents_eq : t.window.contents = data.drop offset) {files : List StoredFile}
    (there : ∀ p ∈ placed t.align.toNat (offset + i) files, p.2.bytes <+: data.drop p.1)
    (ended : (data.drop (positionAfter t.align.toNat (offset + i) files)).take Record.magicSize ≠
      Record.magicBytes) :
    ∃ es, t.Chain i es none ∧
      (es.map fun e => (e.address.toNat, e.record, e.name.buffer)) =
        (placed t.align.toNat (offset + i) files).map
          (fun p => (bottom + p.1, p.2.record, p.2.name)) ∧
      es.map t.payload = files.map fun f => .ok f.payload := by
  induction files generalizing i with
  | nil =>
    have unmarked : ¬ t.MarkedAt i := by
      rw [MarkedAt, contents_eq, List.drop_drop]
      exact ended
    exact ⟨[], .finished unmarked, rfl, rfl⟩
  | cons f rest ih =>
    have here : f.bytes <+: t.window.contents.drop i := by
      rw [contents_eq, List.drop_drop]
      exact there (offset + i, f) List.mem_cons_self
    have inside := length_of_stored here
    have fits := sound.fits
    -- the address of a record is a plain sum, since the record lies in the table
    have address_eq : (UInt64.ofNat (t.start.toNat + i)).toNat = t.start.toNat + i := by
      rw [UInt64.toNat_ofNat', Nat.mod_eq_of_lt (by omega)]
    have stride_eq : t.stride f.record = roundUp f.bytes.length t.align.toNat := by
      rw [f.length_bytes, stride]
    have next_eq : offset + i + roundUp f.bytes.length t.align.toNat =
        offset + (i + t.stride f.record) := by
      rw [stride_eq, Nat.add_assoc]
    simp only [placed, positionAfter, next_eq] at there ended ⊢
    obtain ⟨es, beyond, listed, payloads⟩ :=
      ih (fun p found => there p (List.mem_cons_of_mem _ found)) ended
    refine ⟨⟨UInt64.ofNat (t.start.toNat + i), f.record, ⟨f.name⟩⟩ :: es,
      .entry (entryAt_of_stored here address_eq rfl rfl) beyond, ?_, ?_⟩
    · rw [List.map_cons, List.map_cons, listed, address_eq, start_eq, Nat.add_assoc]
    · rw [List.map_cons, List.map_cons, payloads, payload_of_stored sound here address_eq rfl]

end Table

/-! ## Whole images -/

/-- What the bytes of an image have to be for it to store files: footer, header and records are
where they belong, and no further record follows. Everything else is left open, the order in which
these parts lie, and whether they share bytes, included. -/
structure Stores (image : ByteArray) (header : Header) (position : Nat)
    (files : List StoredFile) : Prop where
  /-- the last four bytes say how far the header is below the top -/
  footer_there : ∃ delta : Int32, delta.toInt = (position : Int) - image.size ∧
    (Bytes.contents image).drop (image.size - Footer.size) = Footer.encode delta
  /-- the header lies within the image -/
  header_inside : position + Header.size ≤ image.size
  /-- the header is there -/
  header_there : ((Bytes.contents image).drop position).take Header.size = header.encode
  /-- it is marked as a header -/
  marked : header.magic = Header.magicWord
  /-- it gives the size of the image -/
  size_eq : header.romSize.toNat = image.size
  /-- records can be aligned as it says -/
  aligned : header.align.toNat.isPowerOfTwo
  /-- the first record does not lie beyond the image -/
  offset_le : header.offset.toNat ≤ image.size
  /-- the record of every file is there -/
  files_there : ∀ p ∈ placed header.align.toNat header.offset.toNat files,
    p.2.bytes <+: (Bytes.contents image).drop p.1
  /-- after the last file there is no magic, or no room for one -/
  ended : ((Bytes.contents image).drop
    (positionAfter header.align.toNat header.offset.toNat files)).take Record.magicSize ≠
      Record.magicBytes

/-- **What was stored is what is found.** An image that stores files can be placed below every top
that leaves room for it, and its table be located there. The header is found at its place, the table
extends from its offset up to the top, the walk finds the files, in order, each at its position
with its record and name, and comes to a clean end, and the payload of each is what was stored. -/
theorem locate_of_stores {image : ByteArray} {header : Header} {position : Nat}
    {files : List StoredFile} (stores : Stores image header position files) {top : UInt64}
    (below : image.size ≤ top.toNat) :
    ∃ memory t, place image top = .ok memory ∧ (Table.locate memory top).outcome = .ok t ∧
      t.located.address.toNat = top.toNat - image.size + position ∧ t.located.header = header ∧
      t.start.toNat = top.toNat - image.size + header.offset.toNat ∧ t.limit = top ∧
      (t.course.entries.map fun e => (e.address.toNat, e.record, e.name.buffer)) =
        (placed header.align.toNat header.offset.toNat files).map
          (fun p => (top.toNat - image.size + p.1, p.2.record, p.2.name)) ∧
      t.course.cause = none ∧
      t.course.entries.map t.payload = files.map fun f => .ok f.payload := by
  have size_lt := header.romSize.toNat_lt
  have size_eq := stores.size_eq
  obtain ⟨delta, leads, spelled⟩ := stores.footer_there
  -- from the footer to the header
  obtain ⟨base, image_placed, base_eq⟩ := exists_place (by omega) below
  obtain ⟨located, located_eq, address_eq, rfl⟩ :=
    locate_of_image (by omega) base_eq (footer_of_image (by omega) base_eq spelled) leads
      stores.header_inside stores.header_there stores.marked
  -- from the header to the table
  obtain ⟨t, opened, rfl, start_eq, limit_eq, contents_eq⟩ :=
    Table.ofHeader_of_image base_eq size_eq stores.aligned stores.offset_le
  have opened' : (Table.locate (.image base image) top).outcome = .ok t :=
    Traced.outcome_bind_eq_ok.mpr ⟨_, located_eq, opened⟩
  have sound := (Table.opened_of_locate opened').sound
  have align_eq : t.align.toNat = t.located.header.align.toNat := UInt32.toNat_toUInt64 _
  -- from the first record to the last
  obtain ⟨es, chain, listed, payloads⟩ :=
    Table.chain_of_placed (i := 0) sound start_eq contents_eq
      (by rw [align_eq]; exact stores.files_there) (by rw [align_eq]; exact stores.ended)
  obtain ⟨entries_eq, cause_eq⟩ := chain.course_eq sound
  have bottom_eq : base.toNat = top.toNat - image.size := by omega
  rw [align_eq, bottom_eq] at listed
  rw [bottom_eq] at address_eq start_eq
  exact ⟨_, t, image_placed, opened', address_eq, rfl, start_eq, limit_eq,
    entries_eq ▸ listed, cause_eq, entries_eq ▸ payloads⟩

/-- The two files of the small ROM. -/
def smallFiles : List StoredFile :=
  [⟨0x50, 0, [0x61, 0], [1, 2, 3], by decide, by decide⟩,
    ⟨0x10, 0, [0x62, 0], Record.magicBytes, by decide, by decide⟩]

theorem stores_smallImage : Stores smallImage smallHeader 72 smallFiles where
  footer_there := ⟨-36, by decide, by decide +kernel⟩
  header_inside := by decide +kernel
  header_there := by decide +kernel
  marked := rfl
  size_eq := by decide +kernel
  aligned := ⟨3, rfl⟩
  offset_le := by decide +kernel
  files_there := by decide +kernel
  ended := by decide +kernel

/-- The files of the small ROM are found below the end of the 32-bit address space. -/
theorem locate_smallImage :
    Stores smallImage smallHeader 72 smallFiles ∧ smallImage.size ≤ topOfSpace.toNat ∧
      ∃ memory t, place smallImage topOfSpace = .ok memory ∧
        (Table.locate memory topOfSpace).outcome = .ok t ∧
        (t.course.entries.map fun e => (e.address.toNat, e.name.buffer)) =
          [(0xffffff94, [0x61, 0]), (0xffffffb4, [0x62, 0])] ∧
        t.course.entries.map t.payload = [.ok [1, 2, 3], .ok Record.magicBytes] := by
  have below : smallImage.size ≤ topOfSpace.toNat := by decide +kernel
  obtain ⟨memory, t, image_placed, opened, -, -, -, -, listed, -, payloads⟩ :=
    locate_of_stores stores_smallImage below
  refine ⟨stores_smallImage, below, memory, t, image_placed, opened, ?_, payloads⟩
  have names := congrArg (List.map fun row : Nat × Record × Bytes => (row.1, row.2.2)) listed
  rw [List.map_map] at names
  exact names.trans (by decide +kernel)

end BootRom

import BootRom.Format.BigEndian

/-!
# File records

A file is stored as a record: a fixed header of 24 bytes, a buffer for the
name, and the payload.

| bytes | meaning |
|---|---|
| 0 to 7 | the magic `LARCHIVE` |
| 8 to 11 | length of the payload |
| 12 to 15 | type of the file |
| 16 to 19 | where its attributes start |
| 20 to 23 | where its payload starts |
| 24 on | the name buffer, then the payload |

All words are big-endian, and both starts are counted from the record's own
first byte.
-/

namespace BootRom.Format

/-! ## Types of files -/

/-- The name of a well-known type of file. -/
def fileTypeName (fileType : UInt32) : Option String :=
  match fileType.toNat with
  | 0x00 => some "deleted"
  | 0x01 => some "bootblock"
  | 0x02 => some "cbfs header"
  | 0x10 => some "stage"
  | 0x20 => some "payload"
  | 0x21 => some "fit"
  | 0x30 => some "optionrom"
  | 0x40 => some "bootsplash"
  | 0x50 => some "raw"
  | 0x51 => some "vsa"
  | 0x52 => some "mbi"
  | 0x53 => some "microcode"
  | 0x60 => some "fsp"
  | 0x61 => some "mrc"
  | 0x62 => some "mma"
  | 0x63 => some "efi"
  | 0x70 => some "struct"
  | 0xaa => some "cmos_default"
  | 0xab => some "spd"
  | 0xac => some "mrc_cache"
  | 0x1aa => some "cmos_layout"
  | 0xffffffff => some "null"
  | _ => none

/-! ## Records -/

/-- The fixed header of a record. -/
structure Record where
  /-- what marks the bytes as a record, eight bytes as they were found -/
  magic : Bytes
  /-- the length of the payload -/
  len : UInt32
  /-- the type of the file -/
  fileType : UInt32
  /-- where the attributes start, from the record's first byte -/
  attributesOffset : UInt32
  /-- where the payload starts, from the record's first byte -/
  offset : UInt32
  deriving DecidableEq, Repr

namespace Record

/-- The size of the fixed header. -/
def size : Nat := 24

/-- The length of a magic. -/
def magicSize : Nat := 8

/-- The magic of a record, the letters `LARCHIVE`. -/
def magicBytes : Bytes := [0x4c, 0x41, 0x52, 0x43, 0x48, 0x49, 0x56, 0x45]

/-- The bytes of a record's header. -/
def encode (r : Record) : Bytes :=
  r.magic ++ [r.len, r.fileType, r.attributesOffset, r.offset].flatMap BigEndian.encode

/-- The record that a run of bytes spells. -/
def decode (bytes : Bytes) : Record where
  magic := bytes.take magicSize
  len := BigEndian.field bytes 8
  fileType := BigEndian.field bytes 12
  attributesOffset := BigEndian.field bytes 16
  offset := BigEndian.field bytes 20

/-- Reading undoes writing, for a magic of the right length. -/
theorem decode_encode {r : Record} (exact : r.magic.length = magicSize) : decode r.encode = r := by
  simp only [magicSize] at exact
  match magic_eq : r.magic, exact with
  | [a, b, c, d, e, f, g, h], _ =>
    have whole : r.encode =
        [a, b, c, d, e, f, g, h] ++
          [r.len, r.fileType, r.attributesOffset, r.offset].flatMap BigEndian.encode := by
      rw [encode, magic_eq]
    have len : BigEndian.field r.encode 8 = r.len := by
      rw [whole]
      exact BigEndian.decode_encode r.len
    have fileType : BigEndian.field r.encode 12 = r.fileType := by
      rw [whole]
      exact BigEndian.decode_encode r.fileType
    have attributesOffset : BigEndian.field r.encode 16 = r.attributesOffset := by
      rw [whole]
      exact BigEndian.decode_encode r.attributesOffset
    have offset : BigEndian.field r.encode 20 = r.offset := by
      rw [whole]
      exact BigEndian.decode_encode r.offset
    have magic : r.encode.take magicSize = r.magic := by
      rw [whole, magic_eq]
      rfl
    simp only [decode, magic, len, fileType, attributesOffset, offset]

/-- Writing undoes reading, for as many bytes as a record's header has. -/
theorem encode_decode {bytes : Bytes} (exact : bytes.length = size) :
    (decode bytes).encode = bytes := by
  simp only [size] at exact
  simp only [encode, decode, magicSize, List.flatMap_cons, List.flatMap_nil, List.append_nil]
  iterate 4 rw [BigEndian.encode_field (by omega)]
  have next : ∀ k, (bytes.drop k).take 4 ++ bytes.drop (k + 4) = bytes.drop k := fun k => by
    rw [← List.drop_drop, List.take_append_drop]
  have last : (bytes.drop 20).take 4 = bytes.drop 20 :=
    List.take_of_length_le (by rw [List.length_drop]; omega)
  rw [last, next 16, next 12, next 8, List.take_append_drop]

/-- Whether the magic is that of a record. -/
def isMarked (r : Record) : Bool := r.magic == magicBytes

/-- How many bytes the record reserves for its name: those between its header and its payload. -/
def nameCapacity (r : Record) : Option Nat :=
  if size ≤ r.offset.toNat then some (r.offset.toNat - size) else none

/-- The distance from the record's first byte to the end of its payload. -/
def extent (r : Record) : UInt64 := r.offset.toUInt64 + r.len.toUInt64

/-- A record's extent never wraps, since its parts are 32-bit words. -/
theorem toNat_extent (r : Record) : r.extent.toNat = r.offset.toNat + r.len.toNat := by
  have bound_offset := r.offset.toNat_lt
  have bound_len := r.len.toNat_lt
  rw [extent, UInt64.toNat_add, UInt32.toNat_toUInt64, UInt32.toNat_toUInt64]
  omega

end Record

end BootRom.Format

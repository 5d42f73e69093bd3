import BootRom.Address
import BootRom.Error
import BootRom.Format.BigEndian

/-!
# The master header

A ROM describes its file table in one fixed header of eight big-endian words.

* `Header.encode` and `Header.decode` write and read the 32 bytes.
* `Header.region` places the file table: with the ROM ending at `top`, it runs
  from `offset` above the bottom of the ROM up to `top`.
-/

namespace BootRom.Format

/-- A region of memory, from `start` up to, but not including, `limit`. -/
structure Region where
  /-- the address of the first byte -/
  start : UInt64
  /-- the address after the last byte -/
  limit : UInt64
  deriving DecidableEq, Repr

/-- The name of a well-known version of the format. -/
def knownVersion (version : UInt32) : Option String :=
  if version = 0x31313131 then some "v1"
  else if version = 0x31313132 then some "v2"
  else none

/-- The master header. -/
structure Header where
  /-- what marks the bytes as a header -/
  magic : UInt32
  /-- the version of the format -/
  version : UInt32
  /-- the size of the ROM -/
  romSize : UInt32
  /-- the size of the boot block -/
  bootBlockSize : UInt32
  /-- records start on multiples of this -/
  align : UInt32
  /-- where the first record starts, above the bottom of the ROM -/
  offset : UInt32
  /-- the processor family the ROM is for -/
  architecture : UInt32
  /-- a word without meaning -/
  reserved : UInt32
  deriving DecidableEq, Repr

namespace Header

/-! ## On flash -/

/-- The size of a header. -/
def size : Nat := 32

/-- The magic of a header, the letters `ORBC`. -/
def magicWord : UInt32 := 0x4f524243

/-- The words of a header, in order. -/
def words (h : Header) : List UInt32 :=
  [h.magic, h.version, h.romSize, h.bootBlockSize, h.align, h.offset, h.architecture, h.reserved]

/-- The bytes of a header. -/
def encode (h : Header) : Bytes := h.words.flatMap BigEndian.encode

/-- The header that a run of bytes spells. -/
def decode (bytes : Bytes) : Header where
  magic := BigEndian.field bytes 0
  version := BigEndian.field bytes 4
  romSize := BigEndian.field bytes 8
  bootBlockSize := BigEndian.field bytes 12
  align := BigEndian.field bytes 16
  offset := BigEndian.field bytes 20
  architecture := BigEndian.field bytes 24
  reserved := BigEndian.field bytes 28

@[simp] theorem length_encode (h : Header) : h.encode.length = size := rfl

/-- Reading undoes writing. -/
@[simp] theorem decode_encode (h : Header) : decode h.encode = h := by
  have magic : BigEndian.field h.encode 0 = h.magic := BigEndian.decode_encode h.magic
  have version : BigEndian.field h.encode 4 = h.version := BigEndian.decode_encode h.version
  have romSize : BigEndian.field h.encode 8 = h.romSize := BigEndian.decode_encode h.romSize
  have bootBlockSize : BigEndian.field h.encode 12 = h.bootBlockSize :=
    BigEndian.decode_encode h.bootBlockSize
  have align : BigEndian.field h.encode 16 = h.align := BigEndian.decode_encode h.align
  have offset : BigEndian.field h.encode 20 = h.offset := BigEndian.decode_encode h.offset
  have architecture : BigEndian.field h.encode 24 = h.architecture :=
    BigEndian.decode_encode h.architecture
  have reserved : BigEndian.field h.encode 28 = h.reserved := BigEndian.decode_encode h.reserved
  simp only [decode, magic, version, romSize, bootBlockSize, align, offset, architecture, reserved]

/-- Writing undoes reading, for as many bytes as a header has. -/
theorem encode_decode {bytes : Bytes} (exact : bytes.length = size) :
    (decode bytes).encode = bytes := by
  simp only [size] at exact
  simp only [encode, words, decode, List.flatMap_cons, List.flatMap_nil, List.append_nil]
  iterate 8 rw [BigEndian.encode_field (by omega)]
  have next : ∀ k, (bytes.drop k).take 4 ++ bytes.drop (k + 4) = bytes.drop k := fun k => by
    rw [← List.drop_drop, List.take_append_drop]
  have last : (bytes.drop 28).take 4 = bytes.drop 28 :=
    List.take_of_length_le (by rw [List.length_drop]; omega)
  rw [last, next 24, next 20, next 16, next 12, next 8, next 4, next 0, List.drop_zero]

/-! ## Meaning -/

/-- Whether the magic is that of a header. -/
def isMarked (h : Header) : Bool := h.magic == magicWord

/-- The name of the version, where it has one. -/
def versionName (h : Header) : Option String := knownVersion h.version

/-- Where the file table of a ROM that ends at `top` lies. -/
def region (h : Header) (top : UInt64) : Except Error Region :=
  let start := do
    let bottom ← Address.checkedSub top h.romSize.toUInt64
    Address.checkedAdd bottom h.offset.toUInt64
  match start with
  | some start =>
    if start ≤ top then .ok ⟨start, top⟩ else .error (.invalidRegion h.romSize h.offset)
  | none => .error (.invalidRegion h.romSize h.offset)

end Header

/-- A header together with the address it was read from. -/
structure LocatedHeader where
  /-- where the header is -/
  address : UInt64
  /-- what it says -/
  header : Header
  deriving DecidableEq, Repr

end BootRom.Format

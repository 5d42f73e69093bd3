import BootRom.Format.BigEndian

/-!
# The footer

The last four bytes below the top of memory say where the master header is: a
signed displacement from the top, in the byte order of the machine, least
significant byte first. It is the one number of the format that is not
big-endian.
-/

namespace BootRom.Format.Footer

/-- The size of a footer. -/
def size : Nat := 4

/-- The four bytes of a displacement, least significant first. -/
def encode (delta : Int32) : Bytes := (BigEndian.encode delta.toUInt32).reverse

/-- The displacement that a run of bytes spells. -/
def decode (bytes : Bytes) : Int32 := (BigEndian.decode bytes.reverse).toInt32

@[simp] theorem decode_encode (delta : Int32) : decode (encode delta) = delta := by
  simp [decode, encode]

/-- Writing undoes reading, for as many bytes as a footer has. -/
theorem encode_decode {bytes : Bytes} (exact : bytes.length = size) :
    encode (decode bytes) = bytes := by
  match bytes, exact with
  | [a, b, c, d], _ =>
    rw [encode, decode, UInt32.toUInt32_toInt32]
    exact congrArg List.reverse (BigEndian.encode_decode d c b a)

end BootRom.Format.Footer

import BootRom.Bytes

/-!
# Big-endian words

Every number of the on-flash format is four bytes, most significant first.

* `encode` writes a 32-bit word as its four bytes;
* `decode` reads a run of bytes as a numeral in base 256;
* `field bytes k` is the word at byte `k` of a fixed-size structure.

Reading undoes writing (`decode_encode`), and four bytes are recovered from the
word they spell (`encode_decode`).
-/

namespace BootRom.Format.BigEndian

/-- The four bytes of a word, most significant first. -/
def encode (word : UInt32) : Bytes :=
  [UInt8.ofNat (word.toNat / 0x1000000), UInt8.ofNat (word.toNat / 0x10000),
    UInt8.ofNat (word.toNat / 0x100), UInt8.ofNat word.toNat]

/-- The number that a run of bytes spells in base 256. -/
def value (bytes : Bytes) : Nat := bytes.foldl (fun n b => n * 256 + b.toNat) 0

/-- The word that a run of bytes spells. -/
def decode (bytes : Bytes) : UInt32 := UInt32.ofNat (value bytes)

/-- The word at byte `position` of a structure. -/
def field (bytes : Bytes) (position : Nat) : UInt32 := decode ((bytes.drop position).take 4)

@[simp] theorem length_encode (word : UInt32) : (encode word).length = 4 := rfl

@[simp] theorem decode_encode (word : UInt32) : decode (encode word) = word := by
  have bound := word.toNat_lt
  apply UInt32.toNat_inj.mp
  simp only [decode, value, encode, List.foldl_cons, List.foldl_nil, UInt32.toNat_ofNat',
    UInt8.toNat_ofNat']
  omega

theorem encode_decode (a b c d : UInt8) : encode (decode [a, b, c, d]) = [a, b, c, d] := by
  have ha := a.toNat_lt
  have hb := b.toNat_lt
  have hc := c.toNat_lt
  have hd := d.toNat_lt
  simp only [decode, value, encode, List.foldl_cons, List.foldl_nil, UInt32.toNat_ofNat',
    List.cons.injEq, and_true, ← UInt8.toNat_inj, UInt8.toNat_ofNat']
  omega

/-- Four bytes spell no number that a word would not hold. -/
theorem toNat_decode {bytes : Bytes} (four : bytes.length = 4) :
    (decode bytes).toNat = value bytes := by
  match bytes, four with
  | [a, b, c, d], _ =>
    have ha := a.toNat_lt
    have hb := b.toNat_lt
    have hc := c.toNat_lt
    have hd := d.toNat_lt
    simp only [decode, value, List.foldl_cons, List.foldl_nil, UInt32.toNat_ofNat']
    omega

/-- The word at a position is spelled by the four bytes there. -/
theorem encode_field {bytes : Bytes} {position : Nat} (inside : position + 4 ≤ bytes.length) :
    encode (field bytes position) = (bytes.drop position).take 4 := by
  have four : ((bytes.drop position).take 4).length = 4 := by
    rw [List.length_take, List.length_drop]
    omega
  match run : (bytes.drop position).take 4, four with
  | [a, b, c, d], _ => rw [field, run, encode_decode]

end BootRom.Format.BigEndian

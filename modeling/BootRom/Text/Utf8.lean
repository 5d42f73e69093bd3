import BootRom.Bytes

/-!
# Text from bytes that may not be text

Names in a ROM are bytes. For display they are read as UTF-8, and what is not
UTF-8 is marked: each longest run of bytes that could have begun a character
but does not complete one, and each byte that cannot begin one, shows as one
replacement character.

* `Partial` is a character under way: how many bytes are still owed, in which
  range the next one must lie, and the bits read so far.
* `scan` reads byte by byte, carrying the character under way, if any.
-/

namespace BootRom.Text

/-- The mark for bytes that are not text. -/
def replacement : Char := '\ufffd'

/-! ## Characters under way -/

/-- A character of which some bytes have been read and some are still owed. -/
structure Partial where
  /-- how many bytes are owed after the next one -/
  owed : Nat
  /-- the least byte that may come next -/
  low : UInt8
  /-- the greatest byte that may come next -/
  high : UInt8
  /-- the bits read so far -/
  bits : Nat
  deriving DecidableEq, Repr

/-- What a byte does where a character may begin. -/
inductive Lead
  /-- it is a character by itself -/
  | whole (c : Char)
  /-- it begins a longer character -/
  | opening (p : Partial)
  /-- it cannot begin one -/
  | stray

/-- The first byte of a character. The ranges for the second byte leave out spellings that are
too long, surrogates, and numbers beyond the last code point. -/
def Lead.ofByte (b : UInt8) : Lead :=
  let n := b.toNat
  if n < 0x80 then .whole (Char.ofNat n)
  else if n < 0xc2 then .stray
  else if n < 0xe0 then .opening ⟨0, 0x80, 0xbf, n % 0x20⟩
  else if n = 0xe0 then .opening ⟨1, 0xa0, 0xbf, 0⟩
  else if n = 0xed then .opening ⟨1, 0x80, 0x9f, 0xd⟩
  else if n < 0xf0 then .opening ⟨1, 0x80, 0xbf, n % 0x10⟩
  else if n = 0xf0 then .opening ⟨2, 0x90, 0xbf, 0⟩
  else if n < 0xf4 then .opening ⟨2, 0x80, 0xbf, n % 0x08⟩
  else if n = 0xf4 then .opening ⟨2, 0x80, 0x8f, 4⟩
  else .stray

/-- What the next byte of a character under way does. -/
inductive Continuation
  /-- it completes the character -/
  | complete (c : Char)
  /-- more bytes are owed -/
  | more (p : Partial)
  /-- it does not belong to the character -/
  | broken

/-- The next byte of a character under way. -/
def Partial.feed (p : Partial) (b : UInt8) : Continuation :=
  if p.low ≤ b ∧ b ≤ p.high then
    let bits := p.bits * 0x40 + b.toNat % 0x40
    match p.owed with
    | 0 => .complete (Char.ofNat bits)
    | owed + 1 => .more ⟨owed, 0x80, 0xbf, bits⟩
  else
    .broken

/-! ## Reading -/

/-- The characters that a run of bytes shows as, after the character under way. -/
def scan : Option Partial → Bytes → List Char
  | none, [] => []
  | some _, [] => [replacement]
  | none, b :: rest =>
    match Lead.ofByte b with
    | .whole c => c :: scan none rest
    | .opening p => scan (some p) rest
    | .stray => replacement :: scan none rest
  | some p, b :: rest =>
    match p.feed b with
    | .complete c => c :: scan none rest
    | .more p' => scan (some p') rest
    | .broken =>
      match Lead.ofByte b with
      | .whole c => replacement :: c :: scan none rest
      | .opening p' => replacement :: scan (some p') rest
      | .stray => replacement :: replacement :: scan none rest

/-- The text that bytes show as. -/
def lossy (bytes : Bytes) : String := String.ofList (scan none bytes)

/-- The bytes that spell a text. -/
def encode (text : String) : Bytes := Bytes.contents text.toUTF8

end BootRom.Text

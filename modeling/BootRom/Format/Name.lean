import BootRom.Text.Quoted
import BootRom.Text.Utf8

/-!
# Names of records

A record reserves a buffer for its name. The name is what stands before the
first zero byte, or the whole buffer if there is none.

A name is compared with a target over the reserved bytes only: the buffer
accepts a target when the two agree up to the first zero or up to the end of
the buffer. So a name that fills its buffer accepts every target it begins,
and an empty buffer accepts every target.
-/

namespace BootRom.Format

/-- A name, as the buffer that holds it. -/
structure Name where
  /-- the reserved bytes, zeros included -/
  buffer : Bytes
  deriving DecidableEq, Repr

namespace Name

/-- How many bytes are reserved. -/
def capacity (n : Name) : Nat := n.buffer.length

/-- The bytes before the first zero. -/
def bytes (n : Name) : Bytes := n.buffer.takeWhile (· != 0)

/-- The name as text. -/
def display (n : Name) : String := Text.lossy n.bytes

/-- The name as quoted text. -/
def quoted (n : Name) : String := Text.quoted n.display

/-- Whether two strings agree over the length of the first, a string ending at its first zero
byte and being continued by zeros. -/
def agreesOver : Bytes → Bytes → Bool
  | [], _ => true
  | a :: buffer, target =>
    if a = target.headD 0 then
      if a = 0 then true else agreesOver buffer target.tail
    else
      false

/-- Whether the name is what a target asks for. -/
def accepts (n : Name) (target : Bytes) : Bool := agreesOver n.buffer target

end Name

end BootRom.Format

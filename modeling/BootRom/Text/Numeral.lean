/-!
# Numerals in messages

Addresses and header fields are written in lowercase hexadecimal without
leading zeros (`hex`), a magic that was expected to be eight digits wide with
leading zeros (`hexWord`), counts and lengths in decimal (`decimal`).
-/

namespace BootRom.Text

/-- Lowercase hexadecimal digits, without leading zeros; zero is `0`. -/
def hex (n : Nat) : String := String.ofList (Nat.toDigits 16 n)

/-- Hexadecimal digits of a 32-bit word, padded with zeros to eight. -/
def hexWord (word : UInt32) : String :=
  String.ofList ((Nat.toDigits 16 word.toNat).leftpad 8 '0')

/-- A hexadecimal number with the mark `0x` in front. -/
def address (n : UInt64) : String := "0x" ++ hex n.toNat

/-- Decimal digits. -/
def decimal (n : Nat) : String := String.ofList (Nat.toDigits 10 n)

/-- Decimal digits of an integer, with a minus sign where it is negative. -/
def signed (n : Int) : String :=
  if n < 0 then "-" ++ decimal n.natAbs else decimal n.natAbs

end BootRom.Text

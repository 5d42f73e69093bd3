import BootRom.Error

/-!
# Hexadecimal numbers on the command line

A type is given as a hexadecimal 32-bit number, with or without the mark `0x`
and, after it, a plus sign; digits of either case and leading zeros are taken.

`readHex` scans the digits from the left and stops at the first character that
is no digit or that makes the number too large, so that of two mistakes the
first one is named; `parseHex` puts it in words.
-/

namespace BootRom.Command

/-! ## Mistakes -/

/-- What is wrong with a numeral. -/
inductive NumeralError
  /-- there is nothing to read -/
  | empty
  /-- a character is not a digit -/
  | invalidDigit
  /-- the number does not fit -/
  | tooLarge
  deriving DecidableEq, Repr

/-- The wording of a mistake. -/
def NumeralError.message : NumeralError → String
  | .empty => "cannot parse integer from empty string"
  | .invalidDigit => "invalid digit found in string"
  | .tooLarge => "number too large to fit in target type"

/-- The wording of a mistake in a given text. -/
def hexMessage (text : String) (e : NumeralError) : String :=
  "invalid hex value '" ++ text ++ "': " ++ e.message

/-! ## Reading -/

/-- The value of a hexadecimal digit of either case. -/
def digitValue (c : Char) : Option Nat :=
  if '0' ≤ c ∧ c ≤ '9' then some (c.toNat - '0'.toNat)
  else if 'a' ≤ c ∧ c ≤ 'f' then some (c.toNat - 'a'.toNat + 10)
  else if 'A' ≤ c ∧ c ≤ 'F' then some (c.toNat - 'A'.toNat + 10)
  else none

/-- Read on through digits, with the number that the digits so far spell. -/
def readDigits : Nat → List Char → Except NumeralError Nat
  | n, [] => .ok n
  | n, c :: rest =>
    match digitValue c with
    | none => .error .invalidDigit
    | some d => if n * 16 + d < 0x100000000 then readDigits (n * 16 + d) rest else .error .tooLarge

/-- What follows the mark `0x` or `0X`, or the whole where there is none. -/
def afterMark : List Char → List Char
  | '0' :: 'x' :: rest => rest
  | '0' :: 'X' :: rest => rest
  | text => text

/-- Read a numeral without its mark: an optional plus sign, then digits. -/
def readUnmarked : List Char → Except NumeralError Nat
  | [] => .error .empty
  | ['+'] => .error .invalidDigit
  | '+' :: digits => readDigits 0 digits
  | digits => readDigits 0 digits

/-- Read a hexadecimal 32-bit number. -/
def readHex (text : String) : Except NumeralError UInt32 :=
  (readUnmarked (afterMark text.toList)).map UInt32.ofNat

/-- What a text comes to as a type, with what is wrong with it in words. -/
def parseHex (text : String) : Except String UInt32 := (readHex text).mapError (hexMessage text)

theorem parseHex_eq_ok_iff {text : String} {fileType : UInt32} :
    parseHex text = .ok fileType ↔ readHex text = .ok fileType := by
  rw [parseHex]
  cases readHex text with
  | ok v => exact ⟨fun h => congrArg _ (Except.ok.inj h), fun h => congrArg _ (Except.ok.inj h)⟩
  | error mistake => exact ⟨nofun, nofun⟩

end BootRom.Command

import BootRom.Command.Hex
import BootRom.Text.Blank

/-!
# Escapes in patterns

A pattern is a regular expression. How it is read at some point depends on the
flags before it, which make up a `Mode`; `escape` reads what a backslash
introduces, and `Mode.allows` says whether it may stand there.

Patterns are matched without tables of all scripts. Where the mode is for all
scripts, the classes with one letter, the edges of words and the matching of
either case are therefore refused; where it is for ASCII, whatever could match
part of a character is.
-/

namespace BootRom.Command.Pattern

/-! ## Modes -/

/-- How a pattern is read where it stands. -/
structure Mode where
  /-- letters match in either case -/
  anyCase : Bool
  /-- blanks and comments are skipped -/
  spaced : Bool
  /-- characters are of all scripts, and not of ASCII alone -/
  allScripts : Bool
  deriving DecidableEq, Repr

/-- How a pattern is read from its start. -/
def Mode.initial : Mode := ⟨false, false, true⟩

/-- What follows blanks and comments; a comment runs from `#` to the end of its line. -/
def afterBlanks : (inComment : Bool) → List Char → List Char
  | _, [] => []
  | true, c :: rest => afterBlanks (c != '\n') rest
  | false, c :: rest =>
    if Text.isBlank c then afterBlanks false rest
    else if c = '#' then afterBlanks true rest
    else c :: rest

/-- What is read next. -/
def Mode.skip (m : Mode) (text : List Char) : List Char :=
  if m.spaced then afterBlanks false text else text

/-! ## Escapes -/

/-- What a backslash introduces. -/
inductive Escape
  /-- one character, perhaps spelled as a byte -/
  | literal (code : Nat) (spelledAsByte : Bool)
  /-- the start or the end of the text -/
  | edge
  /-- the edge of a word -/
  | boundary
  /-- a class with a name of one letter, or what is outside it -/
  | named (outside : Bool)
  deriving DecidableEq, Repr

/-- A number of so many hexadecimal digits. -/
def hexDigits (m : Mode) : (count : Nat) → List Char → (value : Nat) → Option (Nat × List Char)
  | 0, text, value => some (value, text)
  | n + 1, text, value =>
    match m.skip text with
    | [] => none
    | c :: rest => (digitValue c).bind fun digit => hexDigits m n rest (value * 16 + digit)

/-- A character that is spelled by so many hexadecimal digits; two of them spell a byte. -/
def spelled (m : Mode) (count : Nat) (text : List Char) : Option (Escape × List Char) :=
  match hexDigits m count text 0 with
  | some (code, rest) => if code.isValidChar then some (.literal code (count == 2), rest) else none
  | none => none

/-- The controls that have a letter of their own. -/
def controls : List (Char × Nat) :=
  [('a', 7), ('f', 12), ('t', 9), ('n', 10), ('r', 13), ('v', 11)]

/-- Read what follows a backslash. Classes of one property are not known. -/
def escape (m : Mode) : List Char → Option (Escape × List Char)
  | [] => none
  | c :: rest =>
    match controls.lookup c with
    | some code => some (.literal code false, rest)
    | none =>
      if c = 'x' then spelled m 2 rest
      else if c = 'u' then spelled m 4 rest
      else if c = 'U' then spelled m 8 rest
      else if c ∈ ['d', 's', 'w'] then some (.named false, rest)
      else if c ∈ ['D', 'S', 'W'] then some (.named true, rest)
      else if c ∈ ['A', 'z'] then some (.edge, rest)
      else if c ∈ ['b', 'B', '<', '>'] then some (.boundary, rest)
      else if c.toNat < 0x80 && !c.isAlphanum then some (.literal c.toNat false, rest)
      else none

/-- One character or escape. -/
def single (m : Mode) : List Char → Option (Escape × List Char)
  | [] => none
  | '\\' :: rest => escape m rest
  | c :: rest => some (.literal c.toNat false, rest)

/-- Whether a character or escape may stand in a pattern. -/
def Mode.allows (m : Mode) : Escape → Bool
  | .literal code spelledAsByte =>
    if m.allScripts then !m.anyCase else !(spelledAsByte && 0x80 ≤ code)
  | .edge => true
  | .boundary => !m.allScripts
  | .named outside => !m.allScripts && !outside

end BootRom.Command.Pattern

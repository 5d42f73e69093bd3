import BootRom.Command.Pattern.Escape
import BootRom.Command.Pattern.Height

/-!
# Bracketed classes

A class stands between brackets: members, ranges of members, classes with names
that are spelled out, and classes nested within, combined by the operations
`&&`, `--` and `~~`. `Bracketed.read` finds where a class ends and how high it
nests, and refuses one that is malformed or has a member that the mode does not
allow.
-/

namespace BootRom.Command.Pattern.Bracketed

/-! ## Members -/

/-- Whether a character or escape may be a member. -/
def includes (m : Mode) : Escape → Bool
  | .literal code _ => if m.allScripts then !m.anyCase else code < 0x80
  | .named outside => !m.allScripts && !outside
  | _ => false

/-- Whether the class with a name, or what is outside it, may be a member. -/
def includesNamed (m : Mode) (outside : Bool) : Bool :=
  if m.allScripts then !m.anyCase else !outside

/-- The names that are spelled out. -/
def names : List String :=
  ["alnum", "alpha", "ascii", "blank", "cntrl", "digit", "graph", "lower", "print", "punct",
    "space", "upper", "word", "xdigit"]

/-- Read a name, as in `[:alpha:]` behind its first bracket, and whether what is outside is meant. -/
def named : List Char → Option (Bool × List Char)
  | ':' :: text =>
    let outside := text.head? = some '^'
    let text := if outside then text.tail else text
    let name := text.takeWhile (· != ':')
    match text.drop name.length with
    | ':' :: ']' :: rest => if String.ofList name ∈ names then some (outside, rest) else none
    | _ => none
  | _ => none

/-- The character behind a hyphen that tells whether it makes a range: blanks are passed over and
so is the mark of a comment, but not what the comment says. -/
def deciding : (inComment : Bool) → List Char → Option Char
  | _, [] => none
  | inComment, c :: rest =>
    if Text.isBlank c then deciding inComment rest
    else if c = '#' ∧ inComment = false then deciding true rest
    else some c

/-- What follows a member or a range of members. A hyphen before a hyphen or a closing bracket
makes no range. -/
def afterMembers (m : Mode) (text : List Char) : Option (List Char) :=
  match single m text with
  | none => none
  | some (first, rest) =>
    let alone := fun rest => if includes m first then some rest else none
    match m.skip rest with
    | '-' :: beyond =>
      let next := if m.spaced then deciding false beyond else beyond.head?
      if next = some ']' ∨ next = some '-' then alone ('-' :: beyond)
      else
        match first, single m (m.skip beyond) with
        | .literal a _, some (.literal b spelledAsByte, rest) =>
          if a ≤ b ∧ includes m (.literal b spelledAsByte) then alone rest else none
        | _, _ => none
    | rest => alone rest

/-! ## Brackets -/

/-- A bracket that is open. -/
structure Bracket where
  /-- the height of what stands before the last operation, if there is one -/
  operand : Option Nat
  /-- the members since then -/
  members : Parts

namespace Bracket

/-- A bracket without members. -/
def opened : Bracket := ⟨none, .empty⟩

/-- A bracket with one member more, of some height. -/
def add (b : Bracket) (height : Nat) : Bracket := { b with members := b.members.add height }

/-- The height of what stands in a bracket. -/
def height (b : Bracket) : Nat :=
  match b.operand with
  | none => b.members.whole
  | some h => max h b.members.whole + 1

/-- A bracket behind an operation. -/
def operate (b : Bracket) : Bracket := ⟨some b.height, .empty⟩

end Bracket

/-- The hyphens that a class may begin with are members. -/
def hyphens (m : Mode) (b : Bracket) (text : List Char) : Bracket × List Char :=
  match m.skip text with
  | '-' :: rest =>
    if rest.length < text.length then hyphens m (b.add 0) rest else (b.add 0, rest)
  | text => (b, text)
termination_by text.length

/-- Read the start of a class behind its bracket. A closing bracket that comes first is a
member. -/
def opening (m : Mode) (text : List Char) : Option (Bracket × List Char) :=
  let negated := (m.skip text).head? = some '^'
  let text := if negated then (m.skip text).tail else text
  let (b, rest) := match m.skip text with
    | ']' :: rest => (Bracket.opened.add 0, rest)
    | text => hyphens m .opened text
  if (negated && !m.allScripts) || (b.members.count != 0 && !includes m (.literal 0 false)) then
    none
  else some (b, rest)

/-- Read on in a class of which the bracket `b` and those around it, the innermost first, are open:
how high it is, and what follows it. -/
def readOn (m : Mode) (b : Bracket) (around : List Bracket) (text : List Char) :
    Option (Nat × List Char) :=
  let goOn := fun b around rest =>
    if rest.length < text.length then readOn m b around rest else none
  match m.skip text with
  | [] => none
  | '[' :: rest =>
    match named rest with
    | some (outside, rest) => if includesNamed m outside then goOn (b.add 0) around rest else none
    | none =>
      match opening m rest with
      | some (inner, rest) => goOn inner (b :: around) rest
      | none => none
  | ']' :: rest =>
    match around with
    | [] => some (b.height + 1, rest)
    | outer :: around => goOn (outer.add (b.height + 1)) around rest
  | '&' :: '&' :: rest => goOn b.operate around rest
  | '-' :: '-' :: rest => goOn b.operate around rest
  | '~' :: '~' :: rest => goOn b.operate around rest
  | text => (afterMembers m text).bind (goOn (b.add 0) around)
termination_by text.length

/-- Read a class behind its first bracket: how high it is, and what follows it. -/
def read (m : Mode) (text : List Char) : Option (Nat × List Char) :=
  match opening m text with
  | some (b, rest) => readOn m b [] rest
  | none => none

end BootRom.Command.Pattern.Bracketed

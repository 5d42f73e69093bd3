import BootRom.Command.Pattern.Bracketed
import BootRom.Command.Pattern.Group

/-!
# Well-formed patterns

A filter may ask that a value match a pattern. No report carries a value, so a
pattern is never matched; but a malformed one makes the filter unreadable.
`Pattern.isWellFormed` tells the two apart in one pass from left to right: every
group is closed, every repetition has something to repeat, names are used once,
all that is read is allowed where it stands, and nothing nests too high.

There are no counted repetitions: a count ends with a closing brace, and that
ends the pattern first.
-/

namespace BootRom.Command.Pattern

/-- How high a pattern may nest. -/
def greatestHeight : Nat := 250

/-! ## Levels -/

/-- A group while it is read, or the whole pattern. -/
structure Level where
  /-- how its text is read now -/
  mode : Mode
  /-- its alternatives before the last bar -/
  alternatives : Parts
  /-- what stands since the last bar, one after the other -/
  sequence : Parts
  /-- the height of what stands last, if that can be repeated -/
  last : Option Nat

namespace Level

/-- A level of which nothing is read. -/
def opened (m : Mode) : Level := ⟨m, .empty, .empty, none⟩

/-- A level behind one item more, of some height. -/
def add (l : Level) (height : Nat) : Level :=
  { l with sequence := l.sequence.add height, last := some height }

/-- A level behind a repetition of what stands last: it takes the place of that. -/
def repeated (l : Level) (height : Nat) : Level :=
  { l with sequence := ⟨l.sequence.count, max l.sequence.height (height + 1)⟩,
           last := some (height + 1) }

/-- A level behind a change of its mode, which cannot be repeated. -/
def set (l : Level) (m : Mode) : Level :=
  { l with mode := m, sequence := l.sequence.add 0, last := none }

/-- A level behind a bar. -/
def divided (l : Level) : Level :=
  { l with alternatives := l.alternatives.add l.sequence.whole, sequence := .empty, last := none }

/-- The height of what a level holds. -/
def height (l : Level) : Nat := (l.alternatives.add l.sequence.whole).whole

end Level

/-! ## The pass -/

/-- What is remembered on the way through a pattern. -/
structure Place where
  /-- the innermost group that is open, or the pattern -/
  level : Level
  /-- the levels around it, the innermost first -/
  around : List Level
  /-- the names of groups so far -/
  names : List (List Char)

namespace Place

/-- The start of a pattern. -/
def start : Place := ⟨.opened .initial, [], []⟩

/-- Behind one item more, of some height. -/
def add (p : Place) (height : Nat) : Place := { p with level := p.level.add height }

/-- Within a group that is opened. -/
def enter (p : Place) (m : Mode) : Place :=
  { p with level := .opened m, around := p.level :: p.around }

/-- Take the pass over one character and what belongs to it. -/
def step (p : Place) (c : Char) (rest : List Char) : Option (Place × List Char) :=
  let mode := p.level.mode
  if c = '(' then
    match Group.opening mode rest with
    | some (.setting m, rest) => some ({ p with level := p.level.set m }, rest)
    | some (.group m none, rest) => some (p.enter m, rest)
    | some (.group m (some name), rest) =>
      if name ∈ p.names then none
      else some ({ p.enter m with names := name :: p.names }, rest)
    | none => none
  else if c = ')' then
    match p.around with
    | [] => none
    | outer :: around => some (⟨outer.add (p.level.height + 1), around, p.names⟩, rest)
  else if c = '|' then some ({ p with level := p.level.divided }, rest)
  else if c ∈ ['?', '*', '+'] then
    match p.level.last with
    | none => none
    | some height =>
      some ({ p with level := p.level.repeated height },
        if rest.head? = some '?' then rest.tail else rest)
  else if c = '[' then (Bracketed.read mode rest).map fun (height, rest) => (p.add height, rest)
  else if c = '{' then none
  else if c = '.' then if mode.allScripts then some (p.add 0, rest) else none
  else if c ∈ ['^', '$'] then some (p.add 0, rest)
  else
    match single mode (c :: rest) with
    | some (e, rest) => if mode.allows e then some (p.add 0, rest) else none
    | none => none

/-- Whether the rest of a pattern completes it. -/
def completes (p : Place) (text : List Char) : Bool :=
  match p.level.mode.skip text with
  | [] => p.around.isEmpty && p.level.height ≤ greatestHeight
  | c :: rest =>
    match p.step c rest with
    | some (p, rest) => if rest.length < text.length then p.completes rest else false
    | none => false
termination_by text.length

end Place

/-- Whether a text is a well-formed pattern. -/
def isWellFormed (text : List Char) : Bool := Place.start.completes text

end BootRom.Command.Pattern

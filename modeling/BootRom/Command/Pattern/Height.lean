/-!
# Heights of nested parts

A pattern nests: a group, a repetition, a class and whatever has several parts
side by side is one higher than the highest of its parts. `Parts` keeps what has
to be known of parts to tell the height of the whole, while they are still being
read.
-/

namespace BootRom.Command.Pattern

/-- Parts that stand side by side. -/
structure Parts where
  /-- how many there are -/
  count : Nat
  /-- the height of the highest -/
  height : Nat
  deriving DecidableEq, Repr

namespace Parts

/-- No part yet. -/
def empty : Parts := ⟨0, 0⟩

/-- One part more, of some height. -/
def add (p : Parts) (height : Nat) : Parts := ⟨p.count + 1, max p.height height⟩

/-- The height of what the parts make up: a single part stands for itself. -/
def whole (p : Parts) : Nat := if p.count ≤ 1 then p.height else p.height + 1

end Parts

end BootRom.Command.Pattern

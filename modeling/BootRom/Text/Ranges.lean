/-!
# Sets of characters as ranges

A property of characters is a table of the code points that have it, as
inclusive ranges in ascending order. `Ranges.has` asks whether a character lies
in one of them.
-/

namespace BootRom.Text

/-- Code points, as inclusive ranges in ascending order. -/
abbrev Ranges := List (Nat × Nat)

/-- Whether a character lies in one of the ranges. -/
def Ranges.has (ranges : Ranges) (c : Char) : Bool :=
  ranges.any fun (first, final) => first ≤ c.toNat && c.toNat ≤ final

end BootRom.Text

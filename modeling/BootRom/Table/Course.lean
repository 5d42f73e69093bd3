import BootRom.Table.Walk

/-!
# The course of a walk

A walk taken to its end is a finite course: entries, each with the reports
that led to it, and then an end that is either clean or an error. Everything
that goes over all records of a table goes over its course, by recursion on
the course itself.

`courseFrom_of_entry`, `courseFrom_of_none` and `courseFrom_of_error` unfold a
course by one step of the walk.
-/

namespace BootRom

/-- A walk taken to its end. -/
inductive Course
  /-- an entry is found, and the walk goes on -/
  | entry (trail : List Event) (entry : Entry) (rest : Course)
  /-- there is no further entry -/
  | finished (trail : List Event)
  /-- a record cannot be read -/
  | failed (trail : List Event) (cause : Error)

namespace Course

/-- The entries that are found, in order. -/
def entries : Course → List Entry
  | entry _ e rest => e :: rest.entries
  | finished _ => []
  | failed _ _ => []

/-- The error that ends the walk, if one does. -/
def cause : Course → Option Error
  | entry _ _ rest => rest.cause
  | finished _ => none
  | failed _ e => some e

/-- All reports, in order. -/
def trail : Course → List Event
  | entry trail _ rest => trail ++ rest.trail
  | finished trail => trail
  | failed trail _ => trail

/-- The reports that led to each entry, entry by entry. -/
def blocks : Course → List (List Event)
  | entry trail _ rest => trail :: rest.blocks
  | finished _ => []
  | failed _ _ => []

/-- What the walk yields, item by item: its entries, then its error. -/
def items (c : Course) : List (Except Error Entry) :=
  c.entries.map .ok ++ c.cause.toList.map .error

end Course

namespace Table

/-- The rest of a walk. -/
def courseFrom (t : Table) (w : Walk) : Course :=
  match _found : t.next w with
  | (⟨trail, .ok (some entry)⟩, w') => .entry trail entry (t.courseFrom w')
  | (⟨trail, .ok none⟩, _) => .finished trail
  | (⟨trail, .error e⟩, _) => .failed trail e
termination_by t.remaining w
decreasing_by exact remaining_next_lt _found

/-- The whole walk of a table. -/
def course (t : Table) : Course := t.courseFrom t.walk

/-! ## Unfolding a course -/

theorem courseFrom_of_entry {t : Table} {w w' : Walk} {trail : List Event} {entry : Entry}
    (h : t.next w = (⟨trail, .ok (some entry)⟩, w')) :
    t.courseFrom w = .entry trail entry (t.courseFrom w') := by
  rw [courseFrom]
  split <;> simp_all

theorem courseFrom_of_none {t : Table} {w w' : Walk} {trail : List Event}
    (h : t.next w = (⟨trail, .ok none⟩, w')) : t.courseFrom w = .finished trail := by
  rw [courseFrom]
  split <;> simp_all

theorem courseFrom_of_error {t : Table} {w w' : Walk} {trail : List Event} {e : Error}
    (h : t.next w = (⟨trail, .error e⟩, w')) : t.courseFrom w = .failed trail e := by
  rw [courseFrom]
  split <;> simp_all

end Table

end BootRom

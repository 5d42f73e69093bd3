import BootRom.Format.Alignment
import BootRom.Memory.Locate

/-!
# File tables

A `Table` is the part of a ROM that holds its records: the located header that
describes it, and the window it is read through. It is opened from a header
(`Table.ofHeader`) or from the footer on (`Table.locate`); a header whose
alignment is no power of two, or whose region does not fit, opens nothing.

`Table.payload` reads the payload of an entry. `Table.releasing` is the report
that a table is given back, and `Table.bracket` is the life of a table: it is
opened, used and given back.
-/

namespace BootRom

open Format Memory

/-- An open file table. -/
structure Table where
  /-- the header that describes the table -/
  located : LocatedHeader
  /-- the memory from the first record to the end of the ROM -/
  window : Window
  deriving DecidableEq

/-! ## Opening -/

/-- The table that a header describes, in a memory of any kind below `top`. -/
def Backend.ofHeader (b : Backend) (located : LocatedHeader) (top : UInt64) : Traced Event Table :=
  if isPowerOfTwo located.header.align.toUInt64 then do
    let region ← .ofExcept (located.header.region top)
    let window ← b.map region.start (region.limit - region.start)
    return ⟨located, window⟩
  else
    .fail (.invalidAlignment located.header.align)

namespace Table

/-- The table that a header describes, in the memory below `top`. -/
def ofHeader (memory : Memory) (located : LocatedHeader) (top : UInt64) : Traced Event Table :=
  memory.backend.ofHeader located top

/-- The table of the ROM below `top`. -/
def locate (memory : Memory) (top : UInt64) : Traced Event Table := do
  let located ← memory.locate top
  ofHeader memory located top

/-! ## Reading -/

/-- The address of the first record. -/
def start (t : Table) : UInt64 := t.window.base

/-- The end of the ROM. -/
def limit (t : Table) : UInt64 := t.window.limit

/-- The step that records are aligned to. -/
def align (t : Table) : UInt64 := t.located.header.align.toUInt64

/-- The payload of an entry, if it ends within the ROM. -/
def payload (t : Table) (e : Entry) : Except Error Bytes :=
  let truncated := Error.truncatedFile e.name.display e.dataStart e.record.len t.limit
  match Address.checkedAdd e.dataStart e.record.len.toUInt64 with
  -- a sum that leaves the address space passes the limit too
  | none => .error truncated
  | some stop =>
    if stop ≤ t.limit then t.window.slice (e.dataStart - t.start) e.record.len.toUInt64
    else .error truncated

/-! ## Giving back -/

/-- The report that the table is given back. -/
def releasing (t : Table) : Event := t.window.releasing

variable {α : Type} {opening : Traced Event Table} {use : Table → Traced Event α}

/-- Open a table, use it and give it back. However its use ends, it is given back, after all that
was reported there; what does not open is not given back. -/
def bracket (opening : Traced Event Table) (use : Table → Traced Event α) : Traced Event α := do
  let t ← opening
  ⟨(use t).trail ++ [t.releasing], (use t).outcome⟩

theorem bracket_of_error {e : Error} (failed : opening.outcome = .error e) :
    bracket opening use = ⟨opening.trail, .error e⟩ :=
  Traced.bind_of_error failed _

theorem bracket_of_ok {t : Table} (opened : opening.outcome = .ok t) :
    bracket opening use =
      ⟨opening.trail ++ (use t).trail ++ [t.releasing], (use t).outcome⟩ := by
  rw [bracket, Traced.bind_of_ok opened, List.append_assoc]

end Table

end BootRom

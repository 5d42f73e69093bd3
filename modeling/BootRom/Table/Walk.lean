import BootRom.Table.Basic

/-!
# Walking a table, one record at a time

Records follow each other at strides that the records themselves give: the
distance from one to the next is its extent, rounded up to the alignment. The
walk ends at the limit of the table, in a tail too short for a magic, at a
magic that is not a record's, or with an error.

* `Cursor` is where the walk stands, as an address and as an index into the
  window. Both halves move together, and each stops at the end of its range.
* `Table.step` tries the record at a cursor.
* `Walk` is a walk under way and `Table.next` takes it one record further; once
  it has ended it stays ended.
* `step_advances`: a record that is found moves the cursor up, so `Walk.remaining`
  goes down and every walk ends.
-/

namespace BootRom

open Format Memory

/-! ## The cursor -/

/-- Where a walk stands. -/
structure Cursor where
  /-- the address of the record to try next -/
  address : UInt64
  /-- its index in the window -/
  index : UInt64
  deriving DecidableEq, Repr

/-- Both halves moved on by the same distance. -/
def Cursor.advance (c : Cursor) (distance : UInt64) : Cursor :=
  ⟨Address.saturatingAdd c.address distance, Address.saturatingAdd c.index distance⟩

namespace Table

/-! ## One step -/

/-- The reports on a record header that was read. -/
def recordReports (r : Record) : List Event :=
  [.recordLength r.len, .recordType r.fileType, .recordAttributes r.attributesOffset,
    .recordOffset r.offset]

/-- The reports on a stride that was taken. -/
def strideReports (t : Table) (r : Record) (distance : UInt64) (next : Cursor) : List Event :=
  [.recordExtent r.extent, .alignment t.align, .stride distance, .nextCandidate next.address]

/-- Read the record at a cursor where a magic was found, and move past it. -/
def readEntry (t : Table) (c : Cursor) : Traced Event (Entry × Cursor) := do
  let record ← .ofExcept (t.window.recordAt c.index)
  Traced.logAll (recordReports record)
  let name ← .ofExcept (t.window.nameAt c.index record)
  Traced.log (.recordName name)
  let distance ← .ofExcept (alignUp record.extent t.align)
  let next := c.advance distance
  Traced.logAll (t.strideReports record distance next)
  return (⟨c.address, record, name⟩, next)

/-- Try the record at a cursor. -/
def step (t : Table) (c : Cursor) : Traced Event (Option (Entry × Cursor)) :=
  if t.limit ≤ c.address then return none
  else do
    Traced.log (.candidate c.address)
    match t.window.magicAt c.index with
    | none =>
      -- a tail that is too short for a magic
      Traced.log (.noRoom t.limit)
      return none
    | some magic =>
      Traced.log (.recordMagic magic)
      if magic = Record.magicBytes then
        let found ← t.readEntry c
        return some found
      else return none

end Table

/-! ## A walk under way -/

/-- A walk under way. -/
structure Walk where
  /-- where it stands -/
  cursor : Cursor
  /-- whether it has ended -/
  ended : Bool
  deriving DecidableEq, Repr

namespace Table

/-- A walk that has not begun. -/
def walk (t : Table) : Walk := ⟨⟨t.start, 0⟩, false⟩

/-- The next entry, if there is one, and the walk after it. -/
def next (t : Table) (w : Walk) : Traced Event (Option Entry) × Walk :=
  if w.ended then (pure none, w)
  else
    let found := t.step w.cursor
    match found.outcome with
    | .ok (some (entry, cursor)) => (⟨found.trail, .ok (some entry)⟩, ⟨cursor, false⟩)
    | .ok none => (⟨found.trail, .ok none⟩, ⟨w.cursor, true⟩)
    | .error e => (⟨found.trail, .error e⟩, ⟨w.cursor, true⟩)

/-- How much of the table a walk has before it: nothing, once it has ended. -/
def remaining (t : Table) (w : Walk) : Nat :=
  if w.ended then 0 else t.limit.toNat - w.cursor.address.toNat

/-! ## Walks end -/

/-- A name that could be read leaves room for the record's own header. -/
theorem size_le_offset_of_nameAt {w : Window} {index : UInt64} {r : Record} {name : Name}
    (read : w.nameAt index r = .ok name) : Record.size ≤ r.offset.toNat := by
  unfold Window.nameAt at read
  rcases capacity_eq : r.nameCapacity with _ | capacity
  · simp [capacity_eq] at read
  · unfold Record.nameCapacity at capacity_eq
    split at capacity_eq
    · assumption
    · cases capacity_eq

/-- What it takes to read an entry, and what the entry then is. -/
theorem readEntry_eq_ok_iff {t : Table} {c : Cursor} {entry : Entry} {next : Cursor} :
    (t.readEntry c).outcome = .ok (entry, next) ↔
      ∃ record name distance, t.window.recordAt c.index = .ok record ∧
        t.window.nameAt c.index record = .ok name ∧
        alignUp record.extent t.align = .ok distance ∧
        entry = ⟨c.address, record, name⟩ ∧ next = c.advance distance := by
  unfold readEntry
  simp only [Traced.outcome_bind_eq_ok, Traced.outcome_ofExcept, Traced.outcome_logAll,
    Traced.outcome_log, Traced.outcome_pure, Except.ok.injEq, Prod.mk.injEq]
  constructor
  · rintro ⟨record, record_eq, _, -, name, name_eq, _, -, distance, distance_eq, _, -, rfl, rfl⟩
    exact ⟨record, name, distance, record_eq, name_eq, distance_eq, rfl, rfl⟩
  · rintro ⟨record, name, distance, record_eq, name_eq, distance_eq, rfl, rfl⟩
    exact ⟨record, record_eq, (), trivial, name, name_eq, (), trivial, distance, distance_eq, (),
      trivial, rfl, rfl⟩

/-- A step finds an entry exactly below the limit, at a record's magic, when the entry can be
read. -/
theorem step_eq_some_iff {t : Table} {c : Cursor} {found : Entry × Cursor} :
    (t.step c).outcome = .ok (some found) ↔
      c.address < t.limit ∧ t.window.magicAt c.index = some Record.magicBytes ∧
        (t.readEntry c).outcome = .ok found := by
  unfold step
  split
  · rename_i beyond
    have : ¬ c.address < t.limit := by
      rw [UInt64.lt_iff_toNat_lt]
      exact Nat.not_lt.mpr (UInt64.le_iff_toNat_le.mp beyond)
    simp [this]
  · rename_i below
    have below' : c.address < t.limit := by
      rw [UInt64.lt_iff_toNat_lt]
      exact Nat.not_le.mp fun h => below (UInt64.le_iff_toNat_le.mpr h)
    rcases magic_eq : t.window.magicAt c.index with _ | magic
    · simp
    · by_cases marked : magic = Record.magicBytes
      · simp [marked, below', Traced.outcome_bind_eq_ok]
      · simp [marked]

/-- A record that is found moves the cursor up. -/
theorem step_advances {t : Table} {c : Cursor} {entry : Entry} {next : Cursor}
    (found : (t.step c).outcome = .ok (some (entry, next))) :
    c.address < t.limit ∧ c.address.toNat < next.address.toNat := by
  obtain ⟨below, -, read⟩ := step_eq_some_iff.mp found
  obtain ⟨record, name, distance, -, named, rounded, -, rfl⟩ := readEntry_eq_ok_iff.mp read
  have room := size_le_offset_of_nameAt named
  have far := le_alignUp rounded
  rw [Record.toNat_extent] at far
  have below_nat := UInt64.lt_iff_toNat_lt.mp below
  have bound := t.limit.toNat_lt
  refine ⟨below, ?_⟩
  simp only [Cursor.advance, Address.toNat_saturatingAdd]
  simp only [Record.size] at room
  omega

/-- A walk that finds an entry has less before it afterwards. -/
theorem remaining_next_lt {t : Table} {w w' : Walk} {trail : List Event} {entry : Entry}
    (found : t.next w = (⟨trail, .ok (some entry)⟩, w')) : t.remaining w' < t.remaining w := by
  unfold next at found
  split at found
  · cases found
  · rename_i going
    dsimp only at found
    split at found
    · rename_i entry' cursor step_eq
      obtain ⟨below, moved⟩ := step_advances step_eq
      have below_nat := UInt64.lt_iff_toNat_lt.mp below
      obtain ⟨-, rfl⟩ := Prod.mk.inj found
      simp only [remaining, going]
      simp only [Bool.false_eq_true, if_false]
      omega
    · cases found
    · cases found

end Table

end BootRom

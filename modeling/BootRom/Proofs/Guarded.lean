import BootRom.Proofs.Geometry

/-!
# Reading with every operation guarded

Sums and differences of words wrap around, and a run or a word that is taken out of too
few bytes comes out short. Reading a table relies on neither. To say so, the parts of it are
written down a second time, with a guard on every such operation: a `Guarded` reading is
`none` from the first operation on that leaves its range, and also from the first check on
whose failure would mean that, a sum of addresses that leaves the space or a stride that
cannot be rounded up. Otherwise it is the answer or the error that reading comes to.

* `limit`, `slice`, `word`, `record`, `header`, `magicAt`, `recordAt`, `nameAt`, `stride`,
  `readEntry`, `step` and `payload` are the guarded parts.
* `lift_bind`, `bind_eq_some`: a guarded sequence comes to what the sequence comes to, if its parts
  do.
* `slice_eq`, `magicAt_eq`, `recordAt_eq`, `nameAt_eq`: a window is read without leaving a range as
  long as index and length together stay in the address space.
* `step_eq`, `payload_eq`: at the cursors of a walk and for the entries that it finds, they do.
-/

namespace BootRom

open Format Memory

/-- What a reading comes to, or `none` if an operation in it leaves its range. -/
abbrev Guarded (α : Type) := ExceptT Error Option α

namespace Guarded

variable {α β : Type} {w : Window} {index len : UInt64} {bytes : Bytes} {r : Record} {t : Table}
  {i : Nat} {e : Entry}

/-! ## Windows -/

/-- The end of a window, which has to lie in the address space. -/
def limit (w : Window) : Option UInt64 := Address.checkedAdd w.base w.size

/-- A check of a range whose end has to lie in the address space. -/
def inRange (index len size : UInt64) : Guarded Unit :=
  ExceptT.mk <|
    match checkRange index len size with
    | .error .addressOverflow => none
    | answer => some answer

/-- A run of bytes, whose end has to lie in the address space and within the bytes stored. -/
def slice (w : Window) (index len : UInt64) : Guarded Bytes := do
  inRange index len w.size
  let stop ← Address.checkedAdd index len
  if stop.toNat ≤ w.bytes.size then return Bytes.window w.bytes index.toNat len.toNat
  else (none : Option Bytes)

/-- The word at a position, all of whose four bytes have to be there. -/
def word (bytes : Bytes) (position : Nat) : Option UInt32 := do
  let a ← bytes[position]?
  let b ← bytes[position + 1]?
  let c ← bytes[position + 2]?
  let d ← bytes[position + 3]?
  return BigEndian.decode [a, b, c, d]

/-- The record header that a run of bytes spells, which has to be long enough for all its parts. -/
def record (bytes : Bytes) : Option Record := do
  let magic ← if Record.magicSize ≤ bytes.length then some (bytes.take Record.magicSize) else none
  return ⟨magic, ← word bytes 8, ← word bytes 12, ← word bytes 16, ← word bytes 20⟩

/-- The master header that a run of bytes spells, which has to be long enough for all its parts. -/
def header (bytes : Bytes) : Option Header := do
  return ⟨← word bytes 0, ← word bytes 4, ← word bytes 8, ← word bytes 12, ← word bytes 16,
    ← word bytes 20, ← word bytes 24, ← word bytes 28⟩

/-- The bytes that may mark a record. Too few of them are no failure. -/
def magicAt (w : Window) (index : UInt64) : Option (Option Bytes) :=
  (slice w index (UInt64.ofNat Record.magicSize)).run.map Except.toOption

/-- The record header at an index. -/
def recordAt (w : Window) (index : UInt64) : Guarded Record := do
  let raw ← slice w index (UInt64.ofNat Record.size)
  record raw

/-- The name buffer behind a record header. Its address and its start have to lie in the address
space. -/
def nameAt (w : Window) (index : UInt64) (r : Record) : Guarded Name := do
  let address ← Address.checkedAdd w.base index
  match r.nameCapacity with
  | none => throw (.invalidRecordOffset address r.offset)
  | some capacity =>
    let start ← Address.checkedAdd index (UInt64.ofNat Record.size)
    return ⟨← slice w start (UInt64.ofNat capacity)⟩

/-! ## Tables -/

/-- The distance to the next record, which has to be one that can be rounded up. -/
def stride (t : Table) (r : Record) : Option UInt64 := do
  let extent ← Address.checkedAdd r.offset.toUInt64 r.len.toUInt64
  (alignUp extent t.align).toOption

/-- The record at a cursor where a magic was found. -/
def readEntry (t : Table) (c : Cursor) : Guarded (Entry × Cursor) := do
  let record ← recordAt t.window c.index
  let name ← nameAt t.window c.index record
  let distance ← stride t record
  return (⟨c.address, record, name⟩, c.advance distance)

/-- The record at a cursor. -/
def step (t : Table) (c : Cursor) : Guarded (Option (Entry × Cursor)) := do
  let limit ← limit t.window
  if limit ≤ c.address then return none
  else
    match ← magicAt t.window c.index with
    | none => return none
    | some magic =>
      if magic = Record.magicBytes then return some (← readEntry t c)
      else return none

/-- The payload of an entry. Its start has to lie in the address space, and not below the start of
the table. -/
def payload (t : Table) (e : Entry) : Guarded Bytes := do
  let dataStart ← Address.checkedAdd e.address e.record.offset.toUInt64
  let limit ← limit t.window
  let truncated := Error.truncatedFile e.name.display dataStart e.record.len limit
  match Address.checkedAdd dataStart e.record.len.toUInt64 with
  | none => throw truncated
  | some stop =>
    if stop ≤ limit then
      let index ← Address.checkedSub dataStart t.start
      slice t.window index e.record.len.toUInt64
    else throw truncated

/-! ## Sequences -/

/-- A guarded sequence goes on from an operation that stays in its range. -/
theorem lift_bind {x : Option α} {a : α} (stays : x = some a) (f : α → Guarded β) :
    ((x : Guarded α) >>= f) = f a := by
  rw [stays]
  rfl

/-- It goes on from an answer, and ends with an error, as any sequence does. -/
theorem bind_eq_some {x : Guarded α} {y : Except Error α} {f : α → Guarded β}
    {g : α → Except Error β} (begun : x.run = some y)
    (continued : ∀ a, y = .ok a → (f a).run = some (g a)) :
    (x >>= f).run = some (y >>= g) := by
  rw [ExceptT.run_bind, begun]
  cases y with
  | error cause => rfl
  | ok a => exact continued a rfl

/-! ## Reading a window -/

/-- A word is read out of any bytes that have it. -/
theorem word_eq {position : Nat} (inside : position + 4 ≤ bytes.length) :
    word bytes position = some (BigEndian.field bytes position) := by
  have four : (bytes.drop position).take 4 =
      [bytes[position], bytes[position + 1], bytes[position + 2], bytes[position + 3]] := by
    rw [List.drop_eq_getElem_cons (by omega), List.drop_eq_getElem_cons (by omega),
      List.drop_eq_getElem_cons (by omega), List.drop_eq_getElem_cons (by omega)]
    rfl
  rw [BigEndian.field, four, word, List.getElem?_eq_getElem (by omega),
    List.getElem?_eq_getElem (by omega), List.getElem?_eq_getElem (by omega),
    List.getElem?_eq_getElem (by omega)]
  rfl

theorem record_eq (exact : bytes.length = Record.size) :
    record bytes = some (Record.decode bytes) := by
  simp only [Record.size] at exact
  rw [record, if_pos (by simp only [Record.magicSize]; omega), word_eq (by omega),
    word_eq (by omega), word_eq (by omega), word_eq (by omega)]
  rfl

theorem header_eq (exact : bytes.length = Header.size) :
    header bytes = some (Header.decode bytes) := by
  simp only [Header.size] at exact
  rw [header, word_eq (by omega), word_eq (by omega), word_eq (by omega), word_eq (by omega),
    word_eq (by omega), word_eq (by omega), word_eq (by omega), word_eq (by omega)]
  rfl

theorem inRange_eq {size : UInt64} (inSpace : index.toNat + len.toNat < 0x10000000000000000) :
    (inRange index len size).run = some (checkRange index len size) := by
  unfold inRange
  split
  · rename_i overflown
    have := checkRange_eq_overflow_iff.mp overflown
    omega
  · rfl

theorem slice_eq (short : w.contents.length < 0x10000000000000000)
    (inSpace : index.toNat + len.toNat < 0x10000000000000000) :
    (slice w index len).run = some (w.slice index len) := by
  have plain : w.slice index len =
      checkRange index len w.size >>= fun _ =>
        pure (Bytes.window w.bytes index.toNat len.toNat) := by
    rw [Window.slice]
    rcases checkRange index len w.size with cause | answer <;> rfl
  rw [plain, slice]
  apply bind_eq_some (inRange_eq inSpace)
  intro answer checked
  -- a range that was checked ends within the bytes stored
  have within := checkRange_eq_ok_iff.mp checked
  have added : Address.checkedAdd index len = some (index + len) := if_pos inSpace
  rw [lift_bind added, if_pos]
  · rfl
  · rw [Address.toNat_add_of_lt inSpace, ← Window.length_contents, ← Window.toNat_size short]
    exact within

theorem magicAt_eq (short : w.contents.length < 0x10000000000000000)
    (inSpace : index.toNat + Record.magicSize < 0x10000000000000000) :
    magicAt w index = some (w.magicAt index) := by
  rw [magicAt, slice_eq short inSpace, Window.magicAt]
  rcases w.slice index (UInt64.ofNat Record.magicSize) with cause | magic <;> rfl

theorem recordAt_eq (short : w.contents.length < 0x10000000000000000)
    (inSpace : index.toNat + Record.size < 0x10000000000000000) :
    (recordAt w index).run = some (w.recordAt index) := by
  have plain : w.recordAt index =
      w.slice index (UInt64.ofNat Record.size) >>= fun raw => pure (Record.decode raw) := by
    rw [Window.recordAt]
    rcases w.slice index (UInt64.ofNat Record.size) with cause | raw <;> rfl
  rw [plain, recordAt]
  apply bind_eq_some (slice_eq short inSpace)
  intro raw read
  obtain ⟨within, rfl⟩ := Window.slice_eq_ok_iff.mp read
  have exact : ((w.contents.drop index.toNat).take Record.size).length = Record.size := by
    rw [Window.toNat_size short] at within
    rw [List.length_take, List.length_drop]
    exact Nat.min_eq_left (Nat.le_sub_of_add_le' within)
  exact congrArg (Option.map Except.ok) (record_eq exact)

theorem nameAt_eq (short : w.contents.length < 0x10000000000000000)
    (addressed : w.base.toNat + index.toNat < 0x10000000000000000)
    (inSpace : index.toNat + Record.size + r.offset.toNat < 0x10000000000000000) :
    (nameAt w index r).run = some (w.nameAt index r) := by
  have address : Address.checkedAdd w.base index = some (w.base + index) := if_pos addressed
  rw [nameAt, lift_bind address]
  rcases Nat.lt_or_ge r.offset.toNat Record.size with short_offset | room
  · have none_reserved : r.nameCapacity = none := if_neg (Nat.not_le.mpr short_offset)
    rw [none_reserved, Window.nameAt_of_short short_offset]
    rfl
  · have reserved : r.nameCapacity = some (r.offset.toNat - Record.size) := if_pos room
    have inSpace' : index.toNat + Record.size < 0x10000000000000000 := by omega
    have start : Address.checkedAdd index (UInt64.ofNat Record.size) =
        some (index + UInt64.ofNat Record.size) := if_pos inSpace'
    obtain ⟨start_eq, capacity_eq⟩ := Window.toNat_name_range r inSpace'
    rw [reserved, Window.nameAt_of_room room inSpace']
    dsimp only
    rw [lift_bind start]
    have buffered : (slice w (index + UInt64.ofNat Record.size)
        (UInt64.ofNat (r.offset.toNat - Record.size))).run = _ :=
      slice_eq short (by rw [start_eq, capacity_eq]; omega)
    exact (bind_eq_some buffered fun _ _ => rfl).trans
      (congrArg some (map_eq_pure_bind Name.mk _).symm)

/-! ## Reading a table -/

theorem limit_eq (sound : t.Sound) : limit t.window = some t.limit :=
  if_pos (by rw [sound.toNat_size]; exact sound.fits)

/-- A window that passes the end of the address space has no limit. -/
example : limit ⟨Address.last, ⟨#[0, 0]⟩⟩ = none := by decide

/-- The stride of every record can be computed and rounded up, and is what the walk moves by. -/
theorem stride_eq (sound : t.Sound) (r : Record) :
    ∃ distance, stride t r = some distance ∧ alignUp r.extent t.align = .ok distance := by
  have offset_lt := r.offset.toNat_lt
  have len_lt := r.len.toNat_lt
  have added : Address.checkedAdd r.offset.toUInt64 r.len.toUInt64 = some r.extent :=
    if_pos (by rw [UInt32.toNat_toUInt64, UInt32.toNat_toUInt64]; omega)
  obtain ⟨distance, rounded, -⟩ := sound.alignUp_extent r
  refine ⟨distance, ?_, rounded⟩
  rw [stride, added, Option.bind_eq_bind, Option.bind_some, rounded]
  rfl

/-- An entry within the table is read without leaving a range. Its record is in the table, so that
sums with the 32-bit words of the record stay far below the end of the address space. -/
theorem readEntry_eq (sound : t.Sound) (inside : i ≤ t.window.contents.length) :
    (readEntry t (t.cursorAt i)).run = some (t.readEntry (t.cursorAt i)).outcome := by
  have fits := sound.fits
  have short := sound.short
  have short' : t.window.contents.length < 0x10000000000000000 := by omega
  have size_eq : Record.size = 24 := rfl
  obtain ⟨-, index_eq⟩ := sound.toNat_cursorAt_of_inside inside
  have addressed : t.window.base.toNat + (t.cursorAt i).index.toNat < 0x10000000000000000 := by
    rw [index_eq]
    exact Nat.lt_of_le_of_lt (Nat.add_le_add_left inside _) fits
  simp only [Table.readEntry, Traced.outcome_bind, Traced.outcome_ofExcept, Traced.outcome_logAll,
    Traced.outcome_log, Traced.outcome_pure]
  apply bind_eq_some (recordAt_eq short' (by omega))
  intro record _
  have offset_lt := record.offset.toNat_lt
  apply bind_eq_some (nameAt_eq short' addressed (by omega))
  intro name _
  obtain ⟨distance, stays, rounded⟩ := stride_eq sound record
  rw [lift_bind stays, rounded]
  rfl

/-- Every step that a walk takes stays in range: beyond the limit nothing is read, and below it the
index is that of a byte in the table. -/
theorem step_eq (sound : t.Sound) (i : Nat) :
    (step t (t.cursorAt i)).run = some (t.step (t.cursorAt i)).outcome := by
  rw [step, lift_bind (limit_eq sound), Table.step]
  split
  · rfl
  · rename_i below
    have inside := sound.cursorAt_lt_limit_iff.mp (UInt64.not_le.mp below)
    have short := sound.short
    have size_eq : Record.magicSize = 8 := rfl
    obtain ⟨-, index_eq⟩ := sound.toNat_cursorAt_of_inside (Nat.le_of_lt inside)
    have found : magicAt t.window (t.cursorAt i).index = _ := magicAt_eq (by omega) (by omega)
    rw [lift_bind found]
    rcases t.window.magicAt (t.cursorAt i).index with _ | magic
    · rfl
    · simp only [Traced.log_bind]
      by_cases marked : magic = Record.magicBytes
      · rw [if_pos marked, if_pos marked, Traced.outcome_bind]
        exact bind_eq_some (readEntry_eq sound (Nat.le_of_lt inside)) fun _ _ => rfl
      · rw [if_neg marked, if_neg marked]
        rfl

/-- So does reading the payload of an entry that was found, whatever length its record claims. -/
theorem payload_eq (sound : t.Sound) (found : e ∈ t.course.entries) :
    (payload t e).run = some (t.payload e) := by
  obtain ⟨above, below⟩ := sound.entry_bounds found
  have limit_lt := t.limit.toNat_lt
  have added : Address.checkedAdd e.address e.record.offset.toUInt64 = some e.dataStart :=
    if_pos (by rw [UInt32.toNat_toUInt64]; omega)
  have data_eq := Table.toNat_dataStart (e := e) (by omega)
  rw [payload, lift_bind added, lift_bind (limit_eq sound), Table.payload]
  rcases ended : Address.checkedAdd e.dataStart e.record.len.toUInt64 with _ | stop
  · rfl
  · obtain ⟨stop_lt, -⟩ := Address.checkedAdd_eq_some_iff.mp ended
    dsimp only
    split
    · have start_le : t.start ≤ e.dataStart := UInt64.le_iff_toNat_le.mpr (by omega)
      have index_eq : (e.dataStart - t.start).toNat = e.dataStart.toNat - t.start.toNat :=
        UInt64.toNat_sub_of_le _ _ start_le
      have subtracted : Address.checkedSub e.dataStart t.start = some (e.dataStart - t.start) :=
        if_pos start_le
      have short := sound.short
      rw [lift_bind subtracted]
      exact slice_eq (by omega) (by omega)
    · rfl

end Guarded

end BootRom

import BootRom.Proofs.Opening
import BootRom.Table.Course

/-!
# The chain of records

A walk moves a cursor of two saturating 64-bit halves over a window. What it
finds can be said without any of that: the records of a table form a *chain*,
each at a plain index into the table's bytes.

* `MarkedAt`, `EntryAt` and `CorruptAt` say what stands at an index: a record's
  magic, a record that can be read, a record that cannot, and why. One of the
  three cases always holds (`chain_cases`).
* `Chain t i es ending`: from index `i` on the table holds the entries `es`, and
  then ends, cleanly or with an error.
* `cursorAt t i` is the cursor of a walk that has moved on by `i` bytes. Moving
  it on is adding to `i` (`advance_cursorAt`), however far beyond the end of the
  address space the sum lies; this is what makes plain indices enough.
* `step_of_unmarked`, `step_of_corrupt`, `step_of_entry`: one step of the walk,
  case by case, and `next_of_unmarked`, `next_of_corrupt`, `next_of_entry` the walk after it.
* `chain_course`: the course of an open table is its chain; `Chain.unique`: it
  has no other.
-/

namespace BootRom.Table

open Format Memory

variable {t : Table} {i : Nat} {e : Entry} {cause : Error} {ending : Option Error}
  {es : List Entry}

/-! ## What stands at an index -/

/-- A record's magic stands at an index. -/
def MarkedAt (t : Table) (i : Nat) : Prop :=
  (t.window.contents.drop i).take Record.magicSize = Record.magicBytes

/-- The record header that the bytes from an index on spell. -/
def headerAt (t : Table) (i : Nat) : Record :=
  Record.decode ((t.window.contents.drop i).take Record.size)

/-- The entry of a record that starts at an index and can be read. -/
structure EntryAt (t : Table) (i : Nat) (e : Entry) : Prop where
  /-- the magic is there -/
  marked : t.MarkedAt i
  /-- the record header ends within the table -/
  header_inside : i + Record.size ≤ t.window.contents.length
  /-- the entry's header is the one that is stored -/
  record_eq : e.record = t.headerAt i
  /-- there is room for a record header before the payload -/
  room : Record.size ≤ e.record.offset.toNat
  /-- the name buffer ends within the table -/
  name_inside : i + e.record.offset.toNat ≤ t.window.contents.length
  /-- the entry's name is what stands between record header and payload -/
  name_eq : e.name.buffer =
    (t.window.contents.drop (i + Record.size)).take (e.record.offset.toNat - Record.size)
  /-- the entry's address is where the record starts -/
  address_eq : e.address.toNat = t.start.toNat + i

/-- A record starts at an index and cannot be read. -/
inductive CorruptAt (t : Table) (i : Nat) : Error → Prop
  /-- its header passes the end of the table -/
  | headerCut (marked : t.MarkedAt i) (cut : t.window.contents.length < i + Record.size) :
    t.CorruptAt i (.outOfBounds (UInt64.ofNat i) (UInt64.ofNat Record.size) t.window.size)
  /-- its payload would start within its header -/
  | noRoom (marked : t.MarkedAt i) (header_inside : i + Record.size ≤ t.window.contents.length)
    (short : (t.headerAt i).offset.toNat < Record.size) :
    t.CorruptAt i
      (.invalidRecordOffset (UInt64.ofNat (t.start.toNat + i)) (t.headerAt i).offset)
  /-- its name buffer passes the end of the table -/
  | nameCut (marked : t.MarkedAt i) (header_inside : i + Record.size ≤ t.window.contents.length)
    (room : Record.size ≤ (t.headerAt i).offset.toNat)
    (cut : t.window.contents.length < i + (t.headerAt i).offset.toNat) :
    t.CorruptAt i
      (.outOfBounds (UInt64.ofNat (i + Record.size))
        (UInt64.ofNat ((t.headerAt i).offset.toNat - Record.size)) t.window.size)

/-- A magic that is there ends within the table. -/
theorem MarkedAt.inside (marked : t.MarkedAt i) :
    i + Record.magicSize ≤ t.window.contents.length := by
  have lengths := congrArg List.length (show _ = _ from marked)
  rw [List.length_take, List.length_drop] at lengths
  have eight : Record.magicBytes.length = Record.magicSize := rfl
  have some_left : 0 < Record.magicSize := by decide
  omega

theorem CorruptAt.marked (corrupt : t.CorruptAt i cause) : t.MarkedAt i := by
  cases corrupt <;> assumption

/-- The name of a record that cannot be read does not end within the table. -/
theorem CorruptAt.name_cut (corrupt : t.CorruptAt i cause)
    (room : Record.size ≤ (t.headerAt i).offset.toNat) :
    ¬ i + (t.headerAt i).offset.toNat ≤ t.window.contents.length := by
  cases corrupt <;> omega

/-- At every index no magic stands, or a record that cannot be read, or one that can. -/
theorem chain_cases (sound : t.Sound) (i : Nat) :
    ¬ t.MarkedAt i ∨ (∃ cause, t.CorruptAt i cause) ∨ ∃ e, t.EntryAt i e := by
  by_cases marked : t.MarkedAt i
  · -- what is checked of a record, in the order of the checks: header, room, name
    rcases Nat.lt_or_ge t.window.contents.length (i + Record.size) with cut | header_inside
    · exact .inr (.inl ⟨_, .headerCut marked cut⟩)
    · rcases Nat.lt_or_ge (t.headerAt i).offset.toNat Record.size with short | room
      · exact .inr (.inl ⟨_, .noRoom marked header_inside short⟩)
      · rcases Nat.lt_or_ge t.window.contents.length (i + (t.headerAt i).offset.toNat) with
          cut | name_inside
        · exact .inr (.inl ⟨_, .nameCut marked header_inside room cut⟩)
        · have fits := sound.fits
          let buffer := (t.window.contents.drop (i + Record.size)).take
            ((t.headerAt i).offset.toNat - Record.size)
          refine .inr (.inr ⟨⟨UInt64.ofNat (t.start.toNat + i), t.headerAt i, ⟨buffer⟩⟩,
            marked, header_inside, rfl, room, name_inside, rfl, ?_⟩)
          rw [UInt64.toNat_ofNat']
          exact Nat.mod_eq_of_lt (by omega)
  · exact .inl marked

/-! ## Chains -/

/-- The distance from a record to the one after it. -/
def stride (t : Table) (r : Record) : Nat :=
  roundUp (r.offset.toNat + r.len.toNat) t.align.toNat

/-- From an index on, a table holds entries and then ends, cleanly or with an error. -/
inductive Chain (t : Table) : Nat → List Entry → Option Error → Prop
  /-- no further record starts here -/
  | finished {i : Nat} (unmarked : ¬ t.MarkedAt i) : Chain t i [] none
  /-- the record that starts here cannot be read -/
  | failed {i : Nat} {cause : Error} (corrupt : t.CorruptAt i cause) : Chain t i [] (some cause)
  /-- an entry is here, and the chain goes on one stride further -/
  | entry {i : Nat} {e : Entry} {rest : List Entry} {ending : Option Error}
    (here : t.EntryAt i e) (beyond : Chain t (i + t.stride e.record) rest ending) :
    Chain t i (e :: rest) ending

/-- The next record starts beyond the payload of this one. -/
theorem Sound.extent_le_stride (sound : t.Sound) (r : Record) :
    r.offset.toNat + r.len.toNat ≤ t.stride r :=
  le_roundUp sound.align_pos

/-- The rounding that the walk does succeeds on every record, and gives its stride. -/
theorem Sound.alignUp_extent (sound : t.Sound) (r : Record) :
    ∃ distance, alignUp r.extent t.align = .ok distance ∧ distance.toNat = t.stride r := by
  have offset_lt := r.offset.toNat_lt
  have len_lt := r.len.toNat_lt
  have align_lt := t.align_lt
  have fits : r.extent.toNat + t.align.toNat ≤ 0x10000000000000000 := by
    rw [Record.toNat_extent]
    omega
  obtain ⟨distance, rounded⟩ := exists_alignUp sound.aligned fits
  exact ⟨distance, rounded, by rw [toNat_of_alignUp rounded, Record.toNat_extent, stride]⟩

/-! ## Cursors -/

/-- The cursor of a walk that has moved on by `i` bytes. -/
def cursorAt (t : Table) (i : Nat) : Cursor :=
  ⟨UInt64.ofNat (min (t.start.toNat + i) 0xffffffffffffffff),
    UInt64.ofNat (min i 0xffffffffffffffff)⟩

theorem toNat_cursorAt (t : Table) (i : Nat) :
    (t.cursorAt i).address.toNat = min (t.start.toNat + i) 0xffffffffffffffff ∧
      (t.cursorAt i).index.toNat = min i 0xffffffffffffffff := by
  simp only [cursorAt, UInt64.toNat_ofNat']
  omega

/-- Cursors are equal when both halves stand for the same numbers. -/
theorem cursor_ext {c d : Cursor} (address : c.address.toNat = d.address.toNat)
    (index : c.index.toNat = d.index.toNat) : c = d := by
  cases c; cases d
  simp only [Cursor.mk.injEq]
  exact ⟨UInt64.toNat_inj.mp address, UInt64.toNat_inj.mp index⟩

theorem cursorAt_zero (t : Table) : t.cursorAt 0 = ⟨t.start, 0⟩ := by
  obtain ⟨address_eq, index_eq⟩ := t.toNat_cursorAt 0
  have start_lt := t.start.toNat_lt
  exact cursor_ext (by rw [address_eq]; dsimp only; omega) (by rw [index_eq]; rfl)

/-- Saturation in both halves loses nothing: a cursor that is moved on stands for the sum. -/
theorem advance_cursorAt (t : Table) (i : Nat) (distance : UInt64) :
    (t.cursorAt i).advance distance = t.cursorAt (i + distance.toNat) := by
  obtain ⟨address_eq, index_eq⟩ := t.toNat_cursorAt i
  obtain ⟨address_eq', index_eq'⟩ := t.toNat_cursorAt (i + distance.toNat)
  refine cursor_ext ?_ ?_
  · rw [Cursor.advance, Address.toNat_saturatingAdd, address_eq, address_eq']
    omega
  · rw [Cursor.advance, Address.toNat_saturatingAdd, index_eq, index_eq']
    omega

/-- Within the table nothing is saturated. -/
theorem Sound.toNat_cursorAt_of_inside (sound : t.Sound)
    (inside : i ≤ t.window.contents.length) :
    (t.cursorAt i).address.toNat = t.start.toNat + i ∧ (t.cursorAt i).index.toNat = i := by
  obtain ⟨address_eq, index_eq⟩ := t.toNat_cursorAt i
  have fits := sound.fits
  omega

/-- A cursor is below the limit exactly within the table. -/
theorem Sound.cursorAt_lt_limit_iff (sound : t.Sound) :
    (t.cursorAt i).address < t.limit ↔ i < t.window.contents.length := by
  obtain ⟨address_eq, -⟩ := t.toNat_cursorAt i
  have fits := sound.fits
  rw [UInt64.lt_iff_toNat_lt, address_eq, sound.toNat_limit]
  omega

/-! ## One step of the walk -/

/-- Without a magic the walk ends: beyond the limit, in a tail that is too short, or at other
bytes. -/
theorem step_of_unmarked (sound : t.Sound) (unmarked : ¬ t.MarkedAt i) :
    (t.step (t.cursorAt i)).outcome = .ok none := by
  rw [step]
  split
  · rfl
  · rename_i below
    have inside := sound.cursorAt_lt_limit_iff.mp (UInt64.not_le.mp below)
    obtain ⟨-, index_eq⟩ := sound.toNat_cursorAt_of_inside (Nat.le_of_lt inside)
    rcases found : t.window.magicAt (t.cursorAt i).index with _ | magic
    · rfl
    · -- a magic was read, and is not that of a record
      obtain ⟨-, magic_eq⟩ := Window.magicAt_eq_some_iff.mp found
      rw [index_eq] at magic_eq
      have foreign : magic ≠ Record.magicBytes := fun same => unmarked (magic_eq.symm.trans same)
      simp only [Traced.log_bind, if_neg foreign, Traced.outcome_pure]

/-- At a magic the walk reads the record. -/
theorem step_of_marked (sound : t.Sound) (marked : t.MarkedAt i) :
    (t.step (t.cursorAt i)).outcome = (t.readEntry (t.cursorAt i)).outcome.map some := by
  have inside := marked.inside
  have some_left : 0 < Record.magicSize := by decide
  obtain ⟨-, index_eq⟩ := sound.toNat_cursorAt_of_inside (i := i) (by omega)
  have below : ¬ t.limit ≤ (t.cursorAt i).address :=
    UInt64.not_le.mpr (sound.cursorAt_lt_limit_iff.mpr (by omega))
  have found : t.window.magicAt (t.cursorAt i).index = some Record.magicBytes := by
    rw [Window.magicAt_eq_some_iff, index_eq, sound.toNat_size]
    exact ⟨inside, marked.symm⟩
  rw [step, if_neg below]
  simp only [found, Traced.log_bind, if_true]
  rcases read : (t.readEntry (t.cursorAt i)).outcome with cause | found
  · rw [Traced.bind_of_error read]
    rfl
  · rw [Traced.bind_of_ok read]
    rfl

/-- The record header at an index, once it is known to be inside. -/
theorem Sound.recordAt_cursorAt (sound : t.Sound)
    (header_inside : i + Record.size ≤ t.window.contents.length) :
    t.window.recordAt (t.cursorAt i).index = .ok (t.headerAt i) := by
  obtain ⟨-, index_eq⟩ := sound.toNat_cursorAt_of_inside (i := i) (by omega)
  rw [Window.recordAt_of_inside (by rw [index_eq, sound.toNat_size]; exact header_inside),
    index_eq]
  rfl

theorem step_of_corrupt (sound : t.Sound) (corrupt : t.CorruptAt i cause) :
    (t.step (t.cursorAt i)).outcome = .error cause := by
  rw [step_of_marked sound corrupt.marked]
  have inside := corrupt.marked.inside
  have fits := sound.fits
  have short := sound.short
  obtain ⟨address_eq, index_eq⟩ := sound.toNat_cursorAt_of_inside (i := i) (by omega)
  have index_ofNat : (t.cursorAt i).index = UInt64.ofNat i := by
    rw [← UInt64.ofNat_toNat (x := (t.cursorAt i).index), index_eq]
  have small : Record.size = 24 := rfl
  cases corrupt with
  | headerCut marked cut =>
    have refused : t.window.recordAt (t.cursorAt i).index = _ :=
      Window.recordAt_of_outside (by rw [index_eq]; omega)
        (by rw [index_eq, sound.toNat_size]; exact cut)
    rw [readEntry, refused, index_ofNat]
    rfl
  | noRoom marked header_inside short =>
    -- the error names the address, which the cursor holds and the window computes anew
    have base_add : t.window.base + (t.cursorAt i).index = UInt64.ofNat (t.start.toNat + i) := by
      apply UInt64.toNat_inj.mp
      rw [Address.toNat_add_of_lt (by rw [index_eq]; exact address_eq ▸ UInt64.toNat_lt _),
        index_eq, UInt64.toNat_ofNat', Nat.mod_eq_of_lt (by omega)]
      rfl
    rw [readEntry, sound.recordAt_cursorAt header_inside]
    simp only [Traced.ofExcept_ok_bind, Window.nameAt_of_short short, base_add]
    rfl
  | nameCut marked header_inside room cut =>
    have offset_lt := (t.headerAt i).offset.toNat_lt
    have refused : t.window.nameAt (t.cursorAt i).index (t.headerAt i) = _ :=
      Window.nameAt_of_outside room (by rw [index_eq]; omega)
        (by rw [index_eq, sound.toNat_size]; exact cut)
    have start_eq : (t.cursorAt i).index + UInt64.ofNat Record.size =
        UInt64.ofNat (i + Record.size) := by
      rw [index_ofNat, UInt64.ofNat_add]
    rw [readEntry, sound.recordAt_cursorAt header_inside]
    simp only [Traced.ofExcept_ok_bind, refused, start_eq]
    rfl

theorem step_of_entry (sound : t.Sound) (here : t.EntryAt i e) :
    (t.step (t.cursorAt i)).outcome =
      .ok (some (e, t.cursorAt (i + t.stride e.record))) := by
  have header_inside := here.header_inside
  obtain ⟨address_eq, index_eq⟩ := sound.toNat_cursorAt_of_inside (i := i) (by omega)
  obtain ⟨distance, rounded, distance_eq⟩ := sound.alignUp_extent e.record
  have named : t.window.nameAt (t.cursorAt i).index e.record = _ :=
    Window.nameAt_of_inside here.room
      (by rw [index_eq, sound.toNat_size]; exact here.name_inside)
  rw [index_eq, ← here.name_eq] at named
  have whole : e = ⟨(t.cursorAt i).address, e.record, e.name⟩ := by
    have same : e.address = (t.cursorAt i).address :=
      UInt64.toNat_inj.mp (here.address_eq.trans address_eq.symm)
    rw [← same]
  have read : (t.readEntry (t.cursorAt i)).outcome =
      .ok (e, t.cursorAt (i + t.stride e.record)) := by
    refine readEntry_eq_ok_iff.mpr ⟨e.record, e.name, distance, ?_, named, rounded, whole, ?_⟩
    · rw [sound.recordAt_cursorAt header_inside, here.record_eq]
    · rw [advance_cursorAt, distance_eq]
  rw [step_of_marked sound here.marked, read]
  rfl

/-! ## The whole walk -/

/-- The walk that has moved on by `i` bytes and has not ended. -/
def walkAt (t : Table) (i : Nat) : Walk := ⟨t.cursorAt i, false⟩

/-- Without a magic the walk comes to a clean end. -/
theorem next_of_unmarked (sound : t.Sound) (unmarked : ¬ t.MarkedAt i) :
    t.next (t.walkAt i) =
      (⟨(t.step (t.cursorAt i)).trail, .ok none⟩, ⟨t.cursorAt i, true⟩) := by
  simp [next, walkAt, step_of_unmarked sound unmarked]

/-- At a record that cannot be read the walk ends with the cause. -/
theorem next_of_corrupt (sound : t.Sound) (corrupt : t.CorruptAt i cause) :
    t.next (t.walkAt i) =
      (⟨(t.step (t.cursorAt i)).trail, .error cause⟩, ⟨t.cursorAt i, true⟩) := by
  simp [next, walkAt, step_of_corrupt sound corrupt]

/-- At an entry the walk goes on, one stride further. -/
theorem next_of_entry (sound : t.Sound) (here : t.EntryAt i e) :
    t.next (t.walkAt i) =
      (⟨(t.step (t.cursorAt i)).trail, .ok (some e)⟩, t.walkAt (i + t.stride e.record)) := by
  simp [next, walkAt, step_of_entry sound here]

/-- A chain is what the walk from its first index finds. -/
theorem Chain.courseFrom (sound : t.Sound) (chain : t.Chain i es ending) :
    (t.courseFrom (t.walkAt i)).entries = es ∧ (t.courseFrom (t.walkAt i)).cause = ending := by
  induction chain with
  | finished unmarked =>
    rw [courseFrom_of_none (next_of_unmarked sound unmarked)]
    exact ⟨rfl, rfl⟩
  | failed corrupt =>
    rw [courseFrom_of_error (next_of_corrupt sound corrupt)]
    exact ⟨rfl, rfl⟩
  | @entry i e rest ending here beyond ih =>
    rw [courseFrom_of_entry (next_of_entry sound here)]
    exact ⟨congrArg (e :: ·) ih.1, ih.2⟩

/-- From every index a chain starts. The induction is on the bytes that are left, and a record
leaves fewer since its stride covers its own header. -/
theorem exists_chain (sound : t.Sound) (i : Nat) : ∃ es ending, t.Chain i es ending := by
  induction left : t.window.contents.length - i using Nat.strongRecOn generalizing i with
  | ind left ih =>
    rcases chain_cases sound i with unmarked | ⟨cause, corrupt⟩ | ⟨e, here⟩
    · exact ⟨[], none, .finished unmarked⟩
    · exact ⟨[], some cause, .failed corrupt⟩
    · have forward := sound.extent_le_stride e.record
      have room := here.room
      have header_inside := here.header_inside
      have small : Record.size = 24 := rfl
      obtain ⟨rest, ending, beyond⟩ := ih _ (by omega) (i + t.stride e.record) rfl
      exact ⟨e :: rest, ending, .entry here beyond⟩

/-- No two chains start from the same index. -/
theorem Chain.unique {es' : List Entry} {ending' : Option Error} (sound : t.Sound)
    (first : t.Chain i es ending) (second : t.Chain i es' ending') :
    es = es' ∧ ending = ending' := by
  obtain ⟨entries_eq, cause_eq⟩ := first.courseFrom sound
  obtain ⟨entries_eq', cause_eq'⟩ := second.courseFrom sound
  exact ⟨entries_eq.symm.trans entries_eq', cause_eq.symm.trans cause_eq'⟩

theorem course_eq_courseFrom (t : Table) : t.course = t.courseFrom (t.walkAt 0) := by
  rw [course, walk, walkAt, cursorAt_zero]

/-- The course of an open table is the chain from its first byte. -/
theorem chain_course (sound : t.Sound) : t.Chain 0 t.course.entries t.course.cause := by
  obtain ⟨es, ending, chain⟩ := exists_chain sound 0
  obtain ⟨entries_eq, cause_eq⟩ := chain.courseFrom sound
  rw [course_eq_courseFrom, entries_eq, cause_eq]
  exact chain

/-- A chain from the first byte is the course. -/
theorem Chain.course_eq (sound : t.Sound) (chain : t.Chain 0 es ending) :
    t.course.entries = es ∧ t.course.cause = ending :=
  (chain_course sound).unique sound chain

end BootRom.Table

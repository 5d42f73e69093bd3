import BootRom.Proofs.Reachable
import Mathlib.Data.List.Basic

/-!
# Calling for records over and over

Whoever goes over a table calls for one record after the other, and may go on calling when there
are no more. Here is what the calls answer, call by call, and how many of them it takes.

* `walkAfter` is the walk after a number of calls, and `answer` is what the next call answers.
* `Awaits` says which answers a walk still has to give. A call gives the first of them and
  leaves the others (`Awaits.next`), so the calls on a fresh walk give the items of its course,
  one by one (`awaits_walkAfter`, `answer_walkAfter`).
* `Chain.room`: each entry takes up at least one stride of an empty record, whatever lengths and
  offsets it claims, so a table of a given length has room for so many and no more.
* `cursor_lt_of_entryAt`: an entry moves both halves of the cursor up, saturated or not.

`walk_terminates` puts this together for open tables.
-/

namespace BootRom.Table

open Format

variable {t : Table} {w : Walk} {i n : Nat} {e : Entry} {ending : Option Error} {es : List Entry}
  {rest : List (Except Error Entry)}

/-! ## Calls -/

/-- The walk after a number of calls. -/
def walkAfter (t : Table) : Nat → Walk
  | 0 => t.walk
  | n + 1 => (t.next (t.walkAfter n)).2

/-- What a call for the next record answers: nothing, an entry or an error. -/
def answer (t : Table) (w : Walk) : Option (Except Error Entry) :=
  match (t.next w).1.outcome with
  | .ok none => none
  | .ok (some e) => some (.ok e)
  | .error cause => some (.error cause)

theorem answer_eq_entry_iff : t.answer w = some (.ok e) ↔ (t.next w).1.outcome = .ok (some e) := by
  rw [answer]
  rcases (t.next w).1.outcome with cause | _ | e'
  · simp
  · simp
  · simp

/-! ## Answers that are still to come -/

/-- The answers that a walk still has to give. -/
inductive Awaits (t : Table) : Walk → List (Except Error Entry) → Prop
  /-- a walk that goes on has the chain before it: the entries, and then the error -/
  | going {i : Nat} {es : List Entry} {ending : Option Error} (chain : t.Chain i es ending) :
    Awaits t (t.walkAt i) (es.map .ok ++ ending.toList.map .error)
  /-- a walk that has ended has nothing before it -/
  | stopped {w : Walk} (ended : w.ended = true) : Awaits t w []

/-- A call gives the first of these answers, and leaves the others. -/
theorem Awaits.next (sound : t.Sound) (awaits : t.Awaits w rest) :
    t.answer w = rest.head? ∧ t.Awaits (t.next w).2 rest.tail := by
  cases awaits with
  | stopped ended =>
    rw [answer, Table.next, if_pos ended]
    exact ⟨rfl, .stopped ended⟩
  | going chain =>
    rw [answer]
    cases chain with
    | finished unmarked =>
      rw [next_of_unmarked sound unmarked]
      exact ⟨rfl, .stopped rfl⟩
    | failed corrupt =>
      rw [next_of_corrupt sound corrupt]
      exact ⟨rfl, .stopped rfl⟩
    | entry here beyond =>
      rw [next_of_entry sound here]
      exact ⟨rfl, .going beyond⟩

/-- After some calls on a fresh walk, the items of the course are awaited that were not given. The
induction is on the calls; that there may be more calls than items does no harm, since nothing is
dropped from nothing. -/
theorem awaits_walkAfter (sound : t.Sound) (n : Nat) :
    t.Awaits (t.walkAfter n) (t.course.items.drop n) := by
  induction n with
  | zero =>
    have fresh : t.walkAfter 0 = t.walkAt 0 := by rw [walkAfter, walk, walkAt, cursorAt_zero]
    rw [fresh]
    exact .going (chain_course sound)
  | succ n ih =>
    obtain ⟨-, left⟩ := ih.next sound
    rw [List.tail_drop] at left
    exact left

/-- Call by call, a fresh walk gives the items of its course, and then nothing. -/
theorem answer_walkAfter (sound : t.Sound) (n : Nat) :
    t.answer (t.walkAfter n) = t.course.items[n]? := by
  obtain ⟨given, -⟩ := (awaits_walkAfter sound n).next sound
  rw [given, List.head?_drop]

/-- A walk that has answered anything but an entry has ended, and later calls leave it so. -/
theorem next_walkAfter_of_stopped (stopped : ∀ e, t.answer (t.walkAfter n) ≠ some (.ok e))
    (k : Nat) :
    t.walkAfter (n + 1 + k) = t.walkAfter (n + 1) ∧
      t.next (t.walkAfter (n + 1 + k)) = (pure none, t.walkAfter (n + 1)) := by
  have still : t.next (t.walkAfter (n + 1)) = (pure none, t.walkAfter (n + 1)) :=
    next_of_stopped fun e found => stopped e (answer_eq_entry_iff.mpr found)
  induction k with
  | zero => exact ⟨rfl, still⟩
  | succ k ih =>
    have same : t.walkAfter (n + 1 + (k + 1)) = t.walkAfter (n + 1) := by
      rw [← Nat.add_assoc, walkAfter, ih.2]
    rw [same]
    exact ⟨rfl, still⟩

/-! ## How many there can be -/

/-- A stride takes the walk beyond the record header at least. -/
theorem EntryAt.size_le_stride (sound : t.Sound) (here : t.EntryAt i e) :
    Record.size ≤ t.stride e.record :=
  calc
    Record.size ≤ e.record.offset.toNat := here.room
    _ ≤ e.record.offset.toNat + e.record.len.toNat := Nat.le_add_right _ _
    _ ≤ t.stride e.record := sound.extent_le_stride e.record

/-- It is never shorter than that of an empty record without a name. -/
theorem EntryAt.roundUp_size_le_stride (sound : t.Sound) (here : t.EntryAt i e) :
    roundUp Record.size t.align.toNat ≤ t.stride e.record :=
  roundUp_le (dvd_roundUp _ _) (here.size_le_stride sound)

/-- The record header of every entry in a chain ends within the table, even if it were only as many
of the least strides from the start of the chain as there are entries before it. -/
theorem Chain.room (sound : t.Sound) (chain : t.Chain i es ending) :
    ∀ k < es.length,
      i + k * roundUp Record.size t.align.toNat + Record.size ≤ t.window.contents.length := by
  induction chain with
  | finished unmarked => exact nofun
  | failed corrupt => exact nofun
  | @entry i e rest ending here beyond ih =>
    intro k below
    cases k with
    | zero =>
      rw [Nat.zero_mul]
      exact here.header_inside
    | succ k =>
      -- the rest of the chain starts one whole stride further
      have least := here.roundUp_size_le_stride sound
      have later := ih k (Nat.lt_of_succ_lt_succ below)
      rw [Nat.succ_mul]
      omega

/-! ## Up, never down -/

/-- An entry moves both halves of the cursor up. It lies within the table, so neither of them was
at the end of its range. -/
theorem cursor_lt_of_entryAt (sound : t.Sound) (here : t.EntryAt i e) :
    (t.cursorAt i).address < (t.cursorAt (i + t.stride e.record)).address ∧
      (t.cursorAt i).index < (t.cursorAt (i + t.stride e.record)).index := by
  have header_inside := here.header_inside
  have forward := here.size_le_stride sound
  have fits := sound.fits
  have some_room : 0 < Record.size := by decide
  obtain ⟨address_eq, index_eq⟩ := sound.toNat_cursorAt_of_inside (i := i) (by omega)
  obtain ⟨address_eq', index_eq'⟩ := t.toNat_cursorAt (i + t.stride e.record)
  rw [UInt64.lt_iff_toNat_lt, UInt64.lt_iff_toNat_lt, address_eq, index_eq, address_eq', index_eq']
  omega

/-- A call that answers an entry moves both halves of the cursor up. -/
theorem Awaits.cursor_lt (sound : t.Sound) (awaits : t.Awaits w rest)
    (found : t.answer w = some (.ok e)) :
    w.cursor.address < (t.next w).2.cursor.address ∧
      w.cursor.index < (t.next w).2.cursor.index := by
  rw [answer_eq_entry_iff] at found
  cases awaits with
  | stopped ended =>
    rw [Table.next, if_pos ended] at found
    cases found
  | going chain =>
    have here := (outcome_next_eq_some_iff sound).mp found
    rw [next_of_entry sound here]
    exact cursor_lt_of_entryAt sound here

/-! ## Walks of open tables -/

/-- **Every walk comes to its end, and stays there.** Of the walk of an open table, whatever its
bytes are:

* call by call it answers the items of its course, the entries and then at most one error, and
  nothing from then on;
* there are no entries, or all but the last take up at least one least stride each and the last
  one its record header, within the table;
* once it has answered nothing or an error, every later call reports nothing, answers nothing and
  leaves it as it is;
* until then every call moves both halves of its cursor up. -/
theorem walk_terminates (opened : t.Opened) :
    (∀ n, t.answer (t.walkAfter n) = t.course.items[n]?) ∧
      (t.course.entries.length = 0 ∨
        (t.course.entries.length - 1) * roundUp Record.size t.align.toNat + Record.size ≤
          t.window.contents.length) ∧
      (∀ n, (∀ e, t.answer (t.walkAfter n) ≠ some (.ok e)) → ∀ k,
        t.walkAfter (n + 1 + k) = t.walkAfter (n + 1) ∧
          t.next (t.walkAfter (n + 1 + k)) = (pure none, t.walkAfter (n + 1))) ∧
      ∀ n e, t.answer (t.walkAfter n) = some (.ok e) →
        (t.walkAfter n).cursor.address < (t.walkAfter (n + 1)).cursor.address ∧
          (t.walkAfter n).cursor.index < (t.walkAfter (n + 1)).cursor.index := by
  have sound := opened.sound
  refine ⟨answer_walkAfter sound, ?_, fun n stopped k => next_walkAfter_of_stopped stopped k,
    fun n e found => (awaits_walkAfter sound n).cursor_lt sound found⟩
  rcases Nat.eq_zero_or_pos t.course.entries.length with none | some_found
  · exact .inl none
  · have last := (chain_course sound).room sound (t.course.entries.length - 1) (by omega)
    rw [Nat.zero_add] at last
    exact .inr last

/-- The walk of the small table answers two entries and then nothing, however often it is called;
its 108 bytes have room for a least stride of 24 and a record header. -/
theorem walk_terminates_smallTable :
    smallTable.Opened ∧ smallTable.course.entries.length = 2 ∧
      (2 - 1) * roundUp Record.size 8 + Record.size ≤ 108 ∧
      (∀ n, 2 ≤ n → smallTable.answer (smallTable.walkAfter n) = none) ∧
      (∀ k, smallTable.next (smallTable.walkAfter (3 + k)) =
        (pure none, smallTable.walkAfter 3)) ∧
      (smallTable.walkAfter 1).cursor.address < (smallTable.walkAfter 2).cursor.address ∧
      (smallTable.walkAfter 1).cursor.index < (smallTable.walkAfter 2).cursor.index := by
  obtain ⟨given, counted, still, up⟩ := walk_terminates opened_smallTable
  have entries_eq : smallTable.course.entries.length = 2 := by decide +kernel
  have items_eq : smallTable.course.items.length = 2 := by decide +kernel
  obtain ⟨first, second, found⟩ := List.length_eq_two.mp entries_eq
  have at_one : smallTable.course.items[1]? = some (.ok second) := by
    rw [Course.items, found]
    rfl
  have nothing : ∀ n, 2 ≤ n → smallTable.answer (smallTable.walkAfter n) = none :=
    fun n beyond => by rw [given, List.getElem?_eq_none (by omega)]
  have stopped : ∀ e, smallTable.answer (smallTable.walkAfter 2) ≠ some (.ok e) := fun e found => by
    rw [nothing 2 (Nat.le_refl 2)] at found
    cases found
  refine ⟨opened_smallTable, entries_eq, ?_, nothing, fun k => (still 2 stopped k).2,
    up 1 second (by rw [given, at_one])⟩
  rw [entries_eq] at counted
  exact counted.resolve_left (by decide)

end BootRom.Table

import BootRom.Proofs.Scripts

/-!
# Bytes that a walk does not read

A walk reads record headers and names. Everything else in a table, that is the
payloads, the padding after them, and what lies beyond the place where the walk
ends, can be changed at will: the walk does not notice.

* `Candidate` are the addresses at which a walk looks for a record, and `Unread` the
  addresses whose bytes it does not look at.
* `slice_congr`, `nameAt_congr`, `readEntry_congr` and `step_congr` say, one layer after
  another, that equal bytes are read alike.
* `Chain.courseFrom_congr` is the induction over the records of a table, and `Chain.apart`
  the one which says that they do not overlap.
* `Sound.course_congr` and `Sound.candidate_apart`: a change of unread bytes goes
  unnoticed, and what is unread is never taken for a record.
-/

namespace BootRom

open Format Memory Output

/-! ## Reading equal bytes -/

/-- Bytes that agree index by index are the same run. -/
theorem take_drop_congr {data data' : Bytes} {i n : Nat}
    (same : ∀ j, i ≤ j → j < i + n → data'[j]? = data[j]?) :
    (data'.drop i).take n = (data.drop i).take n := by
  apply List.ext_getElem?
  intro k
  rw [List.getElem?_take, List.getElem?_take, List.getElem?_drop, List.getElem?_drop]
  split
  · exact same _ (by omega) (by omega)
  · rfl

namespace Memory.Window

variable {w w' : Window} {index len : UInt64} {r : Record}

/-- A slice depends on the size of the window and on the bytes that it answers with. -/
theorem slice_congr (size_eq : w'.size = w.size)
    (same : index.toNat + len.toNat ≤ w.size.toNat →
      ∀ j, index.toNat ≤ j → j < index.toNat + len.toNat → w'.contents[j]? = w.contents[j]?) :
    w'.slice index len = w.slice index len := by
  rcases answer : w.slice index len with e | run
  · -- a refusal is a matter of the size alone
    rw [← answer, slice, slice, size_eq]
    rcases within : checkRange index len w.size with e' | u
    · rfl
    · rw [slice, within] at answer
      cases answer
  · obtain ⟨inside, rfl⟩ := slice_eq_ok_iff.mp answer
    exact slice_eq_ok_iff.mpr ⟨size_eq ▸ inside, (take_drop_congr (same inside)).symm⟩

theorem magicAt_congr (size_eq : w'.size = w.size)
    (same : ∀ j, index.toNat ≤ j → j < index.toNat + Record.magicSize →
      w'.contents[j]? = w.contents[j]?) :
    w'.magicAt index = w.magicAt index := by
  rw [magicAt, magicAt, slice_congr size_eq fun _ => same]

theorem recordAt_congr (size_eq : w'.size = w.size)
    (same : ∀ j, index.toNat ≤ j → j < index.toNat + Record.size →
      w'.contents[j]? = w.contents[j]?) :
    w'.recordAt index = w.recordAt index := by
  rw [recordAt, recordAt, slice_congr size_eq fun _ => same]

/-- A name is read from the bytes between its record header and the payload, if they are all
there. -/
theorem nameAt_congr (base_eq : w'.base = w.base) (size_eq : w'.size = w.size)
    (inSpace : index.toNat + Record.size < 0x10000000000000000)
    (same : Record.size ≤ r.offset.toNat → index.toNat + r.offset.toNat ≤ w.size.toNat →
      ∀ j, index.toNat + Record.size ≤ j → j < index.toNat + r.offset.toNat →
        w'.contents[j]? = w.contents[j]?) :
    w'.nameAt index r = w.nameAt index r := by
  rcases Nat.lt_or_ge r.offset.toNat Record.size with short | room
  · rw [nameAt_of_short short, nameAt_of_short short, base_eq]
  · obtain ⟨start_eq, capacity_eq⟩ := toNat_name_range r inSpace
    rw [nameAt_of_room room inSpace, nameAt_of_room room inSpace]
    congr 1
    refine slice_congr size_eq fun inside j above below => ?_
    rw [start_eq] at inside above below
    rw [capacity_eq] at inside below
    exact same room (by omega) j above (by omega)

end Memory.Window

namespace Table

variable {t t' : Table} {c : Cursor} {i : Nat} {e : Entry} {es : List Entry}
  {ending : Option Error} {s : Selection}

/-! ## Tables that differ in bytes alone -/

/-- Two tables of one header, at one place and of one length. -/
structure Alike (t t' : Table) : Prop where
  header_eq : t'.located.header = t.located.header
  base_eq : t'.window.base = t.window.base
  length_eq : t'.window.contents.length = t.window.contents.length

namespace Alike

theorem size_eq (alike : t.Alike t') : t'.window.size = t.window.size := by
  have length_eq := alike.length_eq
  rw [Window.length_contents, Window.length_contents] at length_eq
  rw [Window.size, Window.size, length_eq]

theorem limit_eq (alike : t.Alike t') : t'.limit = t.limit := by
  rw [limit, limit, Window.limit, Window.limit, alike.base_eq, alike.size_eq]

theorem align_eq (alike : t.Alike t') : t'.align = t.align := by
  rw [align, align, alike.header_eq]

theorem walkAt_eq (alike : t.Alike t') (i : Nat) : t'.walkAt i = t.walkAt i := by
  have start_eq : t'.start = t.start := alike.base_eq
  rw [walkAt, walkAt, cursorAt, cursorAt, start_eq]

end Alike

/-! ## One step -/

theorem readEntry_congr (alike : t.Alike t')
    (record_eq : t'.window.recordAt c.index = t.window.recordAt c.index)
    (name_eq : ∀ r, t.window.recordAt c.index = .ok r →
      t'.window.nameAt c.index r = t.window.nameAt c.index r) :
    t'.readEntry c = t.readEntry c := by
  simp only [readEntry]
  rw [record_eq]
  rcases read : t.window.recordAt c.index with cause | r
  · rfl
  · simp only [Traced.ofExcept_ok_bind, name_eq r read, strideReports, alike.align_eq]

theorem step_congr (alike : t.Alike t')
    (magic_eq : t'.window.magicAt c.index = t.window.magicAt c.index)
    (read_eq : t.window.magicAt c.index = some Record.magicBytes →
      t'.readEntry c = t.readEntry c) :
    t'.step c = t.step c := by
  simp only [step]
  rw [alike.limit_eq, magic_eq]
  rcases found : t.window.magicAt c.index with _ | magic
  · rfl
  · by_cases marked : magic = Record.magicBytes
    · simp only [marked, if_true, read_eq (marked ▸ found)]
    · simp only [if_neg marked]

/-- A step reads a record header, and after a magic the name, if it can be read. -/
theorem step_cursorAt_congr (sound : t.Sound) (alike : t.Alike t')
    (header_same : ∀ j, i ≤ j → j < i + Record.size →
      t'.window.contents[j]? = t.window.contents[j]?)
    (name_same : t.MarkedAt i → Record.size ≤ (t.headerAt i).offset.toNat →
      i + (t.headerAt i).offset.toNat ≤ t.window.contents.length →
        ∀ j, i + Record.size ≤ j → j < i + (t.headerAt i).offset.toNat →
          t'.window.contents[j]? = t.window.contents[j]?) :
    t'.step (t.cursorAt i) = t.step (t.cursorAt i) := by
  have small : Record.magicSize ≤ Record.size := by decide
  have short := sound.short
  by_cases inside : i < t.window.contents.length
  · obtain ⟨-, index_eq⟩ := sound.toNat_cursorAt_of_inside (Nat.le_of_lt inside)
    refine step_congr alike (Window.magicAt_congr alike.size_eq ?_) fun found =>
      readEntry_congr alike (Window.recordAt_congr alike.size_eq ?_) fun r read => ?_
    · rw [index_eq]
      exact fun j above below => header_same j above (by omega)
    · rw [index_eq]
      exact header_same
    · have marked : t.MarkedAt i := by
        have magic_eq := (Window.magicAt_eq_some_iff.mp found).2
        rw [index_eq] at magic_eq
        exact magic_eq.symm
      refine Window.nameAt_congr alike.base_eq alike.size_eq ?_ ?_
      · rw [index_eq]
        simp only [Record.size]
        omega
      · rw [index_eq, sound.toNat_size]
        intro room name_inside
        have header_read := sound.recordAt_cursorAt (i := i) (by omega)
        rw [header_read] at read
        obtain rfl := Except.ok.inj read
        exact name_same marked room name_inside
  · -- beyond the table a step does not read at all
    have beyond : t.limit ≤ (t.cursorAt i).address :=
      UInt64.not_lt.mp fun below => inside (sound.cursorAt_lt_limit_iff.mp below)
    rw [step, step, alike.limit_eq, if_pos beyond, if_pos beyond]

/-! ## The whole walk -/

/-- Where a walk ends that started at an index and found these entries. -/
def endAddress (t : Table) (i : Nat) (es : List Entry) : Nat :=
  match es.getLast? with
  | none => t.start.toNat + i
  | some e => e.address.toNat + t.stride e.record

@[simp] theorem endAddress_nil (t : Table) (i : Nat) : t.endAddress i [] = t.start.toNat + i := rfl

theorem Alike.endAddress_eq (alike : t.Alike t') (i : Nat) (es : List Entry) :
    t'.endAddress i es = t.endAddress i es := by
  simp only [endAddress, stride, start]
  rw [alike.base_eq, alike.align_eq]

/-- Each entry that is found puts the end of the walk off to where the rest of it ends. -/
theorem endAddress_cons (here : t.EntryAt i e) (es : List Entry) :
    t.endAddress i (e :: es) = t.endAddress (i + t.stride e.record) es := by
  have address_eq := here.address_eq
  simp only [endAddress]
  rw [List.getLast?_cons]
  rcases es.getLast? with _ | last
  · dsimp only [Option.getD_none]
    omega
  · rfl

/-- A walk reads the headers and names of the entries that it finds, and a record header where it
ends. Its course is the same over any bytes that agree there. -/
theorem Chain.courseFrom_congr (sound : t.Sound) (alike : t.Alike t')
    (chain : t.Chain i es ending)
    (entries_same : ∀ e ∈ es, ∀ j, e.address.toNat ≤ t.start.toNat + j →
      t.start.toNat + j < e.address.toNat + e.record.offset.toNat →
        t'.window.contents[j]? = t.window.contents[j]?)
    (end_same : ∀ j, t.endAddress i es ≤ t.start.toNat + j →
      t.start.toNat + j < t.endAddress i es + Record.size →
        t'.window.contents[j]? = t.window.contents[j]?) :
    t'.courseFrom (t.walkAt i) = t.courseFrom (t.walkAt i) := by
  -- what the walk does next is settled by its step, and the step by the bytes that it reads
  have next_congr : ∀ {i}, t'.step (t.cursorAt i) = t.step (t.cursorAt i) →
      t'.next (t.walkAt i) = t.next (t.walkAt i) := fun step_eq => by
    rw [next, next, walkAt, step_eq]
  induction chain with
  | finished unmarked =>
    rw [endAddress_nil] at end_same
    have taken := next_of_unmarked sound unmarked
    have step_eq := step_cursorAt_congr sound alike
      (fun j above below => end_same j (by omega) (by omega))
      fun marked => absurd marked unmarked
    rw [courseFrom_of_none taken, courseFrom_of_none ((next_congr step_eq).trans taken)]
  | failed corrupt =>
    rw [endAddress_nil] at end_same
    have taken := next_of_corrupt sound corrupt
    have step_eq := step_cursorAt_congr sound alike
      (fun j above below => end_same j (by omega) (by omega))
      fun _ room inside => absurd inside (corrupt.name_cut room)
    rw [courseFrom_of_error taken, courseFrom_of_error ((next_congr step_eq).trans taken)]
  | @entry i e rest ending here beyond ih =>
    have address_eq := here.address_eq
    have room := here.room
    have taken := next_of_entry sound here
    have head_same := entries_same e List.mem_cons_self
    have step_eq := step_cursorAt_congr (i := i) sound alike
      (fun j above below => head_same j (by omega) (by omega))
      fun _ _ _ j above below => head_same j (by omega) (by rw [here.record_eq]; omega)
    have rest_eq := ih (fun e mem => entries_same e (List.mem_cons_of_mem _ mem))
      (endAddress_cons here rest ▸ end_same)
    rw [courseFrom_of_entry taken, courseFrom_of_entry ((next_congr step_eq).trans taken), rest_eq]

/-! ## What is left unread -/

/-- No entry reaches into another, and the walk ends beyond all of them. -/
theorem Chain.apart (chain : t.Chain i es ending) :
    t.start.toNat + i ≤ t.endAddress i es ∧
      ∀ e ∈ es, e.address.toNat + t.stride e.record ≤ t.endAddress i es ∧
        ∀ e' ∈ es, e' = e ∨ e.address.toNat + t.stride e.record ≤ e'.address.toNat ∨
          e'.address.toNat + t.stride e'.record ≤ e.address.toNat := by
  induction chain with
  | finished unmarked => exact ⟨Nat.le_refl _, fun e found => absurd found List.not_mem_nil⟩
  | failed corrupt => exact ⟨Nat.le_refl _, fun e found => absurd found List.not_mem_nil⟩
  | @entry i e rest ending here beyond ih =>
    have address_eq := here.address_eq
    obtain ⟨end_above, apart⟩ := ih
    rw [endAddress_cons here]
    refine ⟨by omega, fun d found => ?_⟩
    rcases List.mem_cons.mp found with rfl | later
    · refine ⟨by omega, fun d' found' => ?_⟩
      rcases List.mem_cons.mp found' with rfl | later'
      · exact .inl rfl
      · have above := (beyond.bounds later').1
        exact .inr (.inl (by omega))
    · refine ⟨(apart d later).1, fun d' found' => ?_⟩
      rcases List.mem_cons.mp found' with rfl | later'
      · have above := (beyond.bounds later).1
        exact .inr (.inr (by omega))
      · exact (apart d later).2 d' later'

/-- The addresses whose bytes a walk does not look at: payloads and padding, and what lies beyond
the record header that it tries last. -/
def Unread (t : Table) (a : Nat) : Prop :=
  (∃ e ∈ t.course.entries, e.address.toNat + e.record.offset.toNat ≤ a ∧
      a < e.address.toNat + t.stride e.record) ∨
    t.endAddress 0 t.course.entries + Record.size ≤ a

/-- The addresses at which a walk looks for a record: those of its entries, and the one where it
ends. -/
def Candidate (t : Table) (a : Nat) : Prop :=
  (∃ e ∈ t.course.entries, a = e.address.toNat) ∨ a = t.endAddress 0 t.course.entries

/-- Two tables that are alike, and whose bytes agree at every address outside a set. -/
structure AgreesOutside (t t' : Table) (changed : Nat → Prop) : Prop extends t.Alike t' where
  bytes_eq : ∀ j, ¬ changed (t.start.toNat + j) →
    t'.window.contents[j]? = t.window.contents[j]?

/-- A run that extracts nothing depends on its table only through the course of the walk. -/
theorem scriptOver_congr (listing_only : s.read = none) (c : Course) (done : Summary) :
    t'.scriptOver s c done = t.scriptOver s c done := by
  have unwanted : ∀ e, ¬ s.Wants e := by
    rintro e ⟨-, target, asked, -⟩
    rw [listing_only] at asked
    cases asked
  induction c generalizing done with
  | entry trail e rest ih =>
    rw [scriptOver_of_miss (unwanted e), scriptOver_of_miss (unwanted e), ih]
  | finished trail => rw [scriptOver, scriptOver]
  | failed trail cause => rw [scriptOver, scriptOver]

/-- A change of unread bytes leaves the course of the walk as it was. -/
theorem Sound.course_congr (sound : t.Sound) (agrees : t.AgreesOutside t' t.Unread) :
    t'.course = t.course := by
  have chain := chain_course sound
  obtain ⟨-, apart⟩ := chain.apart
  rw [course_eq_courseFrom, course_eq_courseFrom, agrees.walkAt_eq]
  refine chain.courseFrom_congr sound agrees.toAlike (fun e found j above below => ?_)
    fun j above below => ?_
  · -- header and name of an entry lie before its own payload, and apart from the other entries
    refine agrees.bytes_eq j ?_
    have onward := (sound.onward found).2
    rintro (⟨e', found', above', below'⟩ | beyond)
    · rcases (apart e' found').2 e found with rfl | after | before
      · omega
      · omega
      · omega
    · have ended := (apart e found).1
      omega
  · -- the last record header that is tried lies beyond all entries
    refine agrees.bytes_eq j ?_
    rintro (⟨e', found', above', below'⟩ | beyond)
    · have ended := (apart e' found').1
      omega
    · omega

/-- A walk looks for records only where no payload and no padding is. -/
theorem Sound.candidate_apart (sound : t.Sound) {a : Nat} (candidate : t.Candidate a)
    (found : e ∈ t.course.entries) :
    a < e.address.toNat + e.record.offset.toNat ∨
      e.address.toNat + t.stride e.record ≤ a := by
  obtain ⟨-, apart⟩ := (chain_course sound).apart
  rcases candidate with ⟨e', found', rfl⟩ | rfl
  · have onward := sound.onward found'
    rcases (apart e found).2 e' found' with rfl | after | before
    · omega
    · exact .inr after
    · omega
  · exact .inr (apart e found).1

/-- **Payloads and padding cannot forge, hide or alter a record.** Where the bytes of a table are
changed at unread addresses only, the walk takes the same course, with the same entries and the same
end, and every run that only lists is the same, on every writer. No address at which the walk looks
for a record lies between the payload of an entry and the end of the padding after it, whatever
stands there. -/
theorem course_eq_of_agreesOutside (opened : t.Opened) (agrees : t.AgreesOutside t' t.Unread) :
    t'.course = t.course ∧
    (∀ (s : Selection) (σ : Type) [Writer σ] (w : σ), s.read = none → t'.run s w = t.run s w) ∧
    ∀ a, t'.Candidate a → ∀ e ∈ t.course.entries,
      a < e.address.toNat + e.record.offset.toNat ∨
        e.address.toNat + t.stride e.record ≤ a := by
  have sound := opened.sound
  have course_eq := sound.course_congr agrees
  refine ⟨course_eq, fun s σ _ w listing_only => ?_, fun a candidate e found => ?_⟩
  · rw [run, run, script, script, course_eq, scriptOver_congr listing_only]
  · rw [Candidate, course_eq, agrees.endAddress_eq] at candidate
    exact sound.candidate_apart candidate found

end Table

/-! ## A change that goes unnoticed -/

/-- The small ROM after payload and padding of its second file were wiped. -/
def wipedImage : ByteArray :=
  ⟨(smallImage.data.toList.take 58 ++ List.replicate 14 0 ++
    smallImage.data.toList.drop 72).toArray⟩

/-- The table of the wiped ROM. -/
def wipedTable : Table := ⟨smallTable.located, ⟨smallTable.window.base, wipedImage⟩⟩

theorem agreesOutside_wipedTable : smallTable.AgreesOutside wipedTable smallTable.Unread := by
  have kept : ∀ j : Fin 108, ¬ (58 ≤ j.val ∧ j.val < 72) →
      wipedTable.window.contents[j.val]? = smallTable.window.contents[j.val]? := by
    decide +kernel
  have length_eq : smallTable.window.contents.length = 108 := by decide +kernel
  have length_eq' : wipedTable.window.contents.length = 108 := by decide +kernel
  refine ⟨⟨rfl, rfl, length_eq'.trans length_eq.symm⟩, fun j unchanged => ?_⟩
  by_cases inside : j < 108
  · refine kept ⟨j, inside⟩ fun wiped => unchanged (.inl ?_)
    obtain ⟨above, below⟩ : 58 ≤ j ∧ j < 72 := wiped
    let b : Entry := ⟨0xffffffb4, ⟨Record.magicBytes, 8, 0x10, 0, 26⟩, ⟨[0x62, 0]⟩⟩
    have found : b ∈ smallTable.course.entries := by decide +kernel
    have payload_at : b.address.toNat + b.record.offset.toNat = smallTable.start.toNat + 58 := by
      decide +kernel
    have next_at : b.address.toNat + smallTable.stride b.record = smallTable.start.toNat + 72 := by
      decide +kernel
    exact ⟨b, found, by omega, by omega⟩
  · rw [List.getElem?_eq_none (by omega), List.getElem?_eq_none (by omega)]

/-- The walk of the small table does not notice that the payload was wiped, which held the magic
of a record. -/
theorem course_wipedTable :
    smallTable.Opened ∧ smallTable.AgreesOutside wipedTable smallTable.Unread ∧
      wipedTable ≠ smallTable ∧ wipedTable.course = smallTable.course :=
  ⟨opened_smallTable, agreesOutside_wipedTable, by decide +kernel,
    (Table.course_eq_of_agreesOutside opened_smallTable agreesOutside_wipedTable).1⟩

end BootRom

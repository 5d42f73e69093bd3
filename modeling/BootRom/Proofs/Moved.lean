import BootRom.Proofs.Scripts

/-!
# Tables at another place

The addresses of a table are all relative to its first one. Here a table is moved: its
bytes and its header stay what they are, and `shift` is added to every address, around the
end of the address space if need be. What is read from it, and what runs over it say to
their writers, does not change but for the addresses.

* `Error.moved`, `Entry.moved`, `Summary.moved`, `LocatedHeader.moved`, `Window.moved` and
  `Table.moved` move the addresses in what they are named after; indices, lengths and names stay.
* `Chain.moved` is the induction over the records: the moved table holds the moved chain. It
  takes that both tables end in the address space, so that nothing wraps or saturates.
* `payload_moved`, `scriptOver_moved`: payloads are the same bytes, and runs say the same.
* `GoesAlike` is all of this together, and `Sound.goesAlike` proves it.
-/

namespace BootRom

open Format Memory Output

/-! ## Moving addresses -/

/-- An error, with the addresses in it moved. What counts from the first byte of a window is no
address. -/
def Error.moved (shift : UInt64) : Error → Error
  | .headerNotFound address magic => .headerNotFound (address + shift) magic
  | .invalidRecordOffset address offset => .invalidRecordOffset (address + shift) offset
  | .unbackedRange address len => .unbackedRange (address + shift) len
  | .truncatedFile name dataStart len limit =>
    .truncatedFile name (dataStart + shift) len (limit + shift)
  | e => e

/-- An entry at another address. -/
def Entry.moved (shift : UInt64) (e : Entry) : Entry := { e with address := e.address + shift }

/-- A summary of a run, with the address of what was extracted moved. -/
def Summary.moved (shift : UInt64) (done : Summary) : Summary :=
  { done with extracted := done.extracted.map fun found => (found.1 + shift, found.2) }

/-- A header that was located at another address. -/
def Format.LocatedHeader.moved (shift : UInt64) (located : LocatedHeader) : LocatedHeader :=
  { located with address := located.address + shift }

/-- A window at another address, on the same bytes. -/
def Memory.Window.moved (shift : UInt64) (w : Window) : Window :=
  { w with base := w.base + shift }

/-- A table at another address. -/
def Table.moved (shift : UInt64) (t : Table) : Table :=
  ⟨t.located.moved shift, t.window.moved shift⟩

variable {shift : UInt64} {t : Table} {s : Selection} {i : Nat} {e : Entry} {es : List Entry}
  {ending : Option Error} {cause : Error}

/-! ## What does not change -/

theorem Entry.dataStart_moved (shift : UInt64) (e : Entry) :
    (e.moved shift).dataStart = e.dataStart + shift := by
  rw [dataStart, dataStart, UInt64.add_assoc, UInt64.add_comm _ shift, ← UInt64.add_assoc]
  rfl

theorem Table.limit_moved (shift : UInt64) (t : Table) :
    (t.moved shift).limit = t.limit + shift := by
  rw [limit, limit, Window.limit, Window.limit, UInt64.add_assoc t.window.base,
    UInt64.add_comm _ shift, ← UInt64.add_assoc]
  rfl

theorem Selection.shown_moved (s : Selection) (shift : UInt64) (es : List Entry) :
    s.shown (es.map (Entry.moved shift)) = (s.shown es).map (Entry.moved shift) := by
  simp only [shown]
  split
  · rw [List.filter_map]
    rfl
  · rfl

theorem Selection.wants_moved {s : Selection} : s.Wants (e.moved shift) ↔ s.Wants e := Iff.rfl

namespace Table

/-! ## The chain of a moved table -/

/-- Where both tables end in the address space, addresses in the one and in the other are as far
from the starts. -/
theorem Sound.toNat_add_shift (sound : t.Sound) (sound' : (t.moved shift).Sound) {address : UInt64}
    (address_eq : address.toNat = t.start.toNat + i) (inside : i ≤ t.window.contents.length) :
    (address + shift).toNat = (t.moved shift).start.toNat + i := by
  have fits := sound.fits
  have fits' : (t.start + shift).toNat + t.window.contents.length < 0x10000000000000000 :=
    sound'.fits
  have start_eq : (t.moved shift).start.toNat = (t.start + shift).toNat := rfl
  rw [start_eq]
  rw [UInt64.toNat_add] at fits' ⊢
  rw [UInt64.toNat_add]
  omega

theorem EntryAt.moved (sound : t.Sound) (sound' : (t.moved shift).Sound) (here : t.EntryAt i e) :
    (t.moved shift).EntryAt i (e.moved shift) where
  marked := here.marked
  header_inside := here.header_inside
  record_eq := here.record_eq
  room := here.room
  name_inside := here.name_inside
  name_eq := here.name_eq
  address_eq := by
    have header_inside := here.header_inside
    exact sound.toNat_add_shift sound' here.address_eq (by omega)

theorem CorruptAt.moved (sound : t.Sound) (sound' : (t.moved shift).Sound)
    (corrupt : t.CorruptAt i cause) : (t.moved shift).CorruptAt i (cause.moved shift) := by
  cases corrupt with
  | headerCut marked cut => exact .headerCut marked cut
  | nameCut marked header_inside room cut => exact .nameCut marked header_inside room cut
  | noRoom marked header_inside short =>
    -- the only one of these errors that names an address
    have fits := sound.fits
    have address_eq : (UInt64.ofNat (t.start.toNat + i)).toNat = t.start.toNat + i := by
      rw [UInt64.toNat_ofNat', Nat.mod_eq_of_lt (by omega)]
    have moved_eq : UInt64.ofNat ((t.moved shift).start.toNat + i) =
        UInt64.ofNat (t.start.toNat + i) + shift := by
      rw [← sound.toNat_add_shift sound' address_eq (by omega), UInt64.ofNat_toNat]
    have refused : (t.moved shift).CorruptAt i _ := .noRoom marked header_inside short
    rwa [moved_eq] at refused

/-- A moved table holds the moved chain. -/
theorem Chain.moved (sound : t.Sound) (sound' : (t.moved shift).Sound)
    (chain : t.Chain i es ending) :
    (t.moved shift).Chain i (es.map (Entry.moved shift)) (ending.map (Error.moved shift)) := by
  induction chain with
  | finished unmarked => exact .finished unmarked
  | failed corrupt => exact .failed (corrupt.moved sound sound')
  | entry here beyond ih => exact .entry (here.moved sound sound') ih

/-- The walk over a moved table finds the moved entries, and ends as it did. -/
theorem Sound.course_moved (sound : t.Sound) (sound' : (t.moved shift).Sound) :
    (t.moved shift).course.entries = t.course.entries.map (Entry.moved shift) ∧
      (t.moved shift).course.cause = t.course.cause.map (Error.moved shift) :=
  ((chain_course sound).moved sound sound').course_eq sound'

/-! ## Payloads -/

/-- The payload of an entry that was found is the same bytes, or is refused alike. -/
theorem Sound.payload_moved (sound : t.Sound) (sound' : (t.moved shift).Sound)
    (found : e ∈ t.course.entries) :
    (t.moved shift).payload (e.moved shift) = (t.payload e).mapError (Error.moved shift) := by
  obtain ⟨i, -, here⟩ := (chain_course sound).entryAt e found
  have here' := here.moved sound sound'
  have found' : e.moved shift ∈ (t.moved shift).course.entries := by
    rw [(sound.course_moved sound').1]
    exact List.mem_map_of_mem found
  have address_eq := here.address_eq
  have address_eq' := here'.address_eq
  have limit_eq := sound.toNat_limit
  have limit_eq' : (t.moved shift).limit.toNat =
      (t.moved shift).start.toNat + t.window.contents.length := sound'.toNat_limit
  obtain ⟨-, read, refused⟩ := sound.payload_cases found
  obtain ⟨-, read', refused'⟩ := sound'.payload_cases found'
  have record_eq : (e.moved shift).record = e.record := rfl
  rw [record_eq] at read' refused'
  -- a payload ends within the one table if and only if it ends within the other
  rcases Nat.lt_or_ge t.limit.toNat
      (e.address.toNat + e.record.offset.toNat + e.record.len.toNat) with outside | inside
  · rw [refused outside, refused' (by omega), Entry.dataStart_moved, limit_moved]
    rfl
  · have index_eq : (e.moved shift).address.toNat + e.record.offset.toNat -
        (t.moved shift).start.toNat =
        e.address.toNat + e.record.offset.toNat - t.start.toNat := by
      omega
    have same : (t.moved shift).payloadBytes (e.moved shift) = t.payloadBytes e := by
      rw [payloadBytes, payloadBytes, record_eq, index_eq]
      rfl
    rw [read inside, read' (by omega), same]
    rfl

/-! ## Runs -/

theorem filter_reporting (trail : List Event) :
    (trail.map Action.report).filter (fun a => !a.isReport) = [] := by
  simp [List.filter_eq_nil_iff, Action.isReport]

/-- What meeting an entry says to a writer is the line of its name, if it is listed. -/
theorem filter_approach (s : Selection) (trail : List Event) (e : Entry) :
    (approach s trail e).filter (fun a => !a.isReport) =
      (s.shown [e]).map fun e => .line e.name := by
  have lines : ((s.shown [e]).map fun e => Action.line e.name).filter (fun a => !a.isReport) =
      (s.shown [e]).map fun e => .line e.name := by
    simp [List.filter_eq_self, Action.isReport]
  rw [approach, List.filter_append, filter_reporting, lines, List.nil_append]

/-- The line of a name does not say where its entry is. -/
theorem filter_approach_moved (s : Selection) (shift : UInt64) (trail trail' : List Event)
    (e : Entry) :
    (approach s trail' (e.moved shift)).filter (fun a => !a.isReport) =
      (approach s trail e).filter (fun a => !a.isReport) := by
  have shown_eq : s.shown [e.moved shift] = _ := s.shown_moved shift [e]
  rw [filter_approach, filter_approach, shown_eq, List.map_map]
  rfl

theorem meeting_moved (s : Selection) (shift : UInt64) (e : Entry) (done : Summary) :
    s.meeting [e.moved shift] done = s.meeting [e] done := by
  have shown_eq : s.shown [e.moved shift] = _ := s.shown_moved shift [e]
  rw [Selection.meeting, Selection.meeting, shown_eq, List.length_map]
  rfl

/-- Without an extraction, the end of a run holds no address. -/
theorem withoutTarget_moved (s : Selection) {done : Summary} (unread : done.extracted = none) :
    ((s.withoutTarget none done).mapError (Error.moved shift)).map (Summary.moved shift) =
      s.withoutTarget none done := by
  rcases asked : s.read with _ | target
  · have same : done.moved shift = done := by
      rw [Summary.moved, unread, Option.map_none, ← unread]
    simp only [Selection.withoutTarget, asked]
    exact congrArg Except.ok same
  · simp only [Selection.withoutTarget, asked]
    rfl

/-- A run over the moved entries says what it said, and ends as it did. The induction is on the
course of the walk; until something is extracted, what was done so far holds no address. -/
theorem scriptOver_moved {c c' : Course} {t' : Table}
    (entries_eq : c'.entries = c.entries.map (Entry.moved shift))
    (cause_eq : c'.cause = c.cause.map (Error.moved shift))
    (payload_eq : ∀ e ∈ c.entries,
      t'.payload (e.moved shift) = (t.payload e).mapError (Error.moved shift))
    (done : Summary) (unread : done.extracted = none) :
    (t'.scriptOver s c' done).said = (t.scriptOver s c done).said ∧
      (t'.scriptOver s c' done).outcome =
        ((t.scriptOver s c done).outcome.mapError (Error.moved shift)).map
          (Summary.moved shift) := by
  induction c generalizing c' done with
  | finished trail =>
    obtain ⟨trail', rfl⟩ := Course.exists_eq_finished entries_eq cause_eq
    rw [scriptOver_finished trail unread, scriptOver_finished trail' unread]
    refine ⟨?_, (withoutTarget_moved s unread).symm⟩
    simp only [Script.said, List.filter_append, filter_reporting]
  | failed trail cause =>
    obtain ⟨trail', rfl⟩ := Course.exists_eq_failed entries_eq cause_eq
    rw [scriptOver_failed, scriptOver_failed]
    refine ⟨?_, rfl⟩
    simp only [Script.said, filter_reporting]
  | entry trail e rest ih =>
    obtain ⟨trail', rest', rfl⟩ := Course.exists_eq_entry entries_eq
    obtain ⟨-, rest_eq⟩ := List.cons.inj entries_eq
    have met := filter_approach_moved s shift trail trail' e
    have here := payload_eq e List.mem_cons_self
    by_cases wanted : s.Wants e
    · have wanted' : s.Wants (e.moved shift) := Selection.wants_moved.mpr wanted
      rcases read : t.payload e with cause | data
      · rw [read] at here
        rw [scriptOver_of_refused wanted trail rest read,
          scriptOver_of_refused wanted' trail' rest' here]
        refine ⟨?_, rfl⟩
        simp only [Script.said, List.filter_append, met]
        rfl
      · rw [read] at here
        rw [scriptOver_of_hit wanted trail rest read, scriptOver_of_hit wanted' trail' rest' here,
          meeting_moved, Entry.dataStart_moved]
        refine ⟨?_, rfl⟩
        simp only [Script.said, List.filter_append, met]
        rfl
    · have unwanted' : ¬ s.Wants (e.moved shift) := mt Selection.wants_moved.mp wanted
      obtain ⟨said_eq, outcome_eq⟩ := ih rest_eq cause_eq
        (fun e mem => payload_eq e (List.mem_cons_of_mem _ mem)) (s.meeting [e] done) unread
      rw [scriptOver_of_miss wanted, scriptOver_of_miss unwanted', meeting_moved]
      refine ⟨?_, outcome_eq⟩
      rw [Script.said, List.filter_append, met, ← Script.said, said_eq]
      rw [Script.said, Script.said, List.filter_append]

/-! ## Everything together -/

/-- One table goes as another does that is `shift` bytes further down: what is found in it, read
from it and said about it to a writer is the same, but for the addresses. -/
structure GoesAlike (shift : UInt64) (t t' : Table) : Prop where
  /-- the headers are the same -/
  header_eq : t'.located.header = t.located.header
  /-- the header was found at the moved address -/
  located_eq : t'.located.address = t.located.address + shift
  /-- the first record is at the moved address -/
  start_eq : t'.start = t.start + shift
  /-- so is the end of the ROM -/
  limit_eq : t'.limit = t.limit + shift
  /-- the bytes are the same -/
  contents_eq : t'.window.contents = t.window.contents
  /-- the walk finds the same entries at the moved addresses -/
  entries_eq : t'.course.entries = t.course.entries.map (Entry.moved shift)
  /-- it ends in the same way -/
  cause_eq : t'.course.cause = t.course.cause.map (Error.moved shift)
  /-- payloads start at the moved addresses -/
  dataStart_eq : ∀ e ∈ t.course.entries, (e.moved shift).dataStart = e.dataStart + shift
  /-- payloads are the same bytes, or refused alike -/
  payload_eq : ∀ e ∈ t.course.entries,
    t'.payload (e.moved shift) = (t.payload e).mapError (Error.moved shift)
  /-- a run says the same to every writer -/
  calls_eq : ∀ (s : Selection) (σ : Type) [Writer σ] (w : σ), (t'.run s w).calls = (t.run s w).calls
  /-- a run leaves every writer the same -/
  writer_eq : ∀ (s : Selection) (σ : Type) [Writer σ] (w : σ),
    (t'.run s w).writer = (t.run s w).writer
  /-- a run ends in the same way on every writer -/
  outcome_eq : ∀ (s : Selection) (σ : Type) [Writer σ] (w : σ),
    (t'.run s w).outcome =
      ((t.run s w).outcome.mapError (Error.moved shift)).map (Summary.moved shift)

/-- A table goes alike at every place where it ends in the address space. -/
theorem Sound.goesAlike (sound : t.Sound) (sound' : (t.moved shift).Sound) :
    GoesAlike shift t (t.moved shift) := by
  obtain ⟨entries_eq, cause_eq⟩ := sound.course_moved sound'
  have payloads := fun e found => sound.payload_moved sound' (e := e) found
  have scripts : ∀ s, ((t.moved shift).script s).said = (t.script s).said ∧
      ((t.moved shift).script s).outcome =
        ((t.script s).outcome.mapError (Error.moved shift)).map (Summary.moved shift) :=
    fun s => scriptOver_moved entries_eq cause_eq payloads .empty rfl
  refine ⟨rfl, rfl, rfl, limit_moved shift t, rfl, entries_eq, cause_eq,
    fun e _ => e.dataStart_moved shift, payloads, fun s σ _ w => ?_, fun s σ _ w => ?_,
    fun s σ _ w => ?_⟩
  · exact (Script.perform_of_said (scripts s).1 w).1
  · exact (Script.perform_of_said (scripts s).1 w).2.2
  · obtain ⟨-, fault_eq, -⟩ := Script.perform_of_said (scripts s).1 w
    simp only [run, Script.perform, fault_eq, (scripts s).2]
    rcases (play w (t.script s).trail).fault with _ | fault <;> rfl

end Table

end BootRom

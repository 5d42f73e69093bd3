import BootRom.Proofs.Geometry
import Mathlib.Data.List.Chain

/-!
# How records are spaced

Offsets and lengths of records are whatever the bytes say. Even so the entries that a
walk finds are in good order: the first is where the table starts, and each
further one `Follows` the one before it, at the least multiple of the alignment
that leaves the room which that one claims.

* `Entry.reach` is the address after an entry's payload, as a plain number, since the
  payload of a damaged record may end anywhere.
* `Chain.isChain_follows` and `Chain.pairwise_reach` say how neighbours are spaced, and that no
  entry reaches into a later one; both are inductions over the chain of records.
* `reach_le_limit_of_dropLast`: what is followed by a record ends within the table.
* `course_spacing` puts this together for the walk of an open table.
-/

namespace BootRom

open Format Memory

/-- The address after the last byte of an entry's payload. -/
def Entry.reach (e : Entry) : Nat :=
  e.address.toNat + e.record.offset.toNat + e.record.len.toNat

namespace Table

variable {t : Table} {i : Nat} {e e' : Entry} {ending : Option Error} {es : List Entry}

/-! ## Neighbours -/

/-- How an entry lies behind the one before it. -/
structure Follows (t : Table) (e e' : Entry) : Prop where
  /-- it is at a higher address -/
  above : e.address.toNat < e'.address.toNat
  /-- the distance is a multiple of the alignment -/
  aligned : t.align.toNat ∣ e'.address.toNat - e.address.toNat
  /-- the distance covers record header, name and payload of the one before -/
  covers : e.record.offset.toNat + e.record.len.toNat ≤ e'.address.toNat - e.address.toNat
  /-- no smaller multiple of the alignment does -/
  least : ∀ distance, t.align.toNat ∣ distance →
    e.record.offset.toNat + e.record.len.toNat ≤ distance →
    e'.address.toNat - e.address.toNat ≤ distance
  /-- less than one step of alignment is left unused -/
  near : e'.address.toNat - e.address.toNat <
    e.record.offset.toNat + e.record.len.toNat + t.align.toNat

/-- An entry that is one stride behind another follows it. -/
theorem Sound.follows (sound : t.Sound) (room : Record.size ≤ e.record.offset.toNat)
    (behind : e'.address.toNat = e.address.toNat + t.stride e.record) : t.Follows e e' := by
  have covered := sound.extent_le_stride e.record
  have some_room : 0 < Record.size := by decide
  have distance : e'.address.toNat - e.address.toNat = t.stride e.record := by omega
  constructor
  case above => omega
  case aligned =>
    rw [distance]
    exact dvd_roundUp _ _
  case covers =>
    rw [distance]
    exact covered
  case least =>
    intro multiple mult above
    rw [distance]
    exact roundUp_le mult above
  case near =>
    rw [distance]
    exact roundUp_lt sound.align_pos

/-! ## Chains -/

/-- The first entry of a chain is where the chain starts. -/
theorem Chain.head_address (chain : t.Chain i es ending) :
    ∀ e ∈ es.head?, e.address.toNat = t.start.toNat + i := by
  cases chain with
  | finished unmarked => exact fun e none => (nomatch none)
  | failed corrupt => exact fun e none => (nomatch none)
  | entry here beyond =>
    intro e first
    obtain rfl := Option.some.inj first
    exact here.address_eq

theorem Chain.isChain_follows (sound : t.Sound) (chain : t.Chain i es ending) :
    es.IsChain t.Follows := by
  induction chain with
  | finished unmarked => exact .nil
  | failed corrupt => exact .nil
  | entry here beyond ih =>
    refine List.isChain_cons.mpr ⟨fun next first => ?_, ih⟩
    have next_eq := beyond.head_address next first
    exact sound.follows here.room (by rw [next_eq, here.address_eq, Nat.add_assoc])

/-- No entry of a chain reaches into a later one. -/
theorem Chain.pairwise_reach (sound : t.Sound) (chain : t.Chain i es ending) :
    es.Pairwise fun e e' => e.reach ≤ e'.address.toNat := by
  induction chain with
  | finished unmarked => exact .nil
  | failed corrupt => exact .nil
  | @entry i e rest ending here beyond ih =>
    refine List.pairwise_cons.mpr ⟨fun later found => ?_, ih⟩
    -- every later entry is at least one stride away, and the stride covers the payload
    have covered := sound.extent_le_stride e.record
    have address_eq := here.address_eq
    obtain ⟨above, -⟩ := beyond.bounds found
    rw [Entry.reach]
    omega

/-- An entry that is not the last ends where the next record starts, or before. -/
theorem Sound.reach_le_limit_of_dropLast (sound : t.Sound)
    (followed : e ∈ t.course.entries.dropLast) : e.reach ≤ t.limit.toNat := by
  have chain := chain_course sound
  have some_left : t.course.entries ≠ [] := fun none => by
    rw [none] at followed
    cases followed
  have last_found := List.getLast_mem some_left
  have apart := chain.pairwise_reach sound
  rw [← List.dropLast_concat_getLast some_left, List.pairwise_append] at apart
  have before_last := apart.2.2 e followed _ (List.mem_singleton.mpr rfl)
  obtain ⟨-, last_inside⟩ := sound.entry_bounds last_found
  omega

/-! ## The walk of an open table -/

/-- **Records lie in order and apart.** Of the entries that the walk of an open table yields,
whatever its bytes are:

* the first is at the start of the table, and each further one follows the one before it at the
  least multiple of the alignment that covers its record header, name and payload;
* the ranges that they claim are disjoint and in ascending order;
* record headers and names lie within the table;
* of all entries but the last the payload does so too, and can be read. -/
theorem course_spacing (opened : t.Opened) :
    (∀ e ∈ t.course.entries.head?, e.address = t.start) ∧
      t.course.entries.IsChain t.Follows ∧
      t.course.entries.Pairwise (fun e e' => e.reach ≤ e'.address.toNat) ∧
      (∀ e ∈ t.course.entries, t.start.toNat ≤ e.address.toNat ∧
        Record.size ≤ e.record.offset.toNat ∧
        e.address.toNat + e.record.offset.toNat ≤ t.limit.toNat) ∧
      ∀ e ∈ t.course.entries.dropLast, e.reach ≤ t.limit.toNat ∧
        t.payload e = .ok (t.payloadBytes e) := by
  have sound := opened.sound
  have chain := chain_course sound
  refine ⟨fun e first => ?_, chain.isChain_follows sound, chain.pairwise_reach sound,
    fun e found => ?_, fun e followed => ?_⟩
  · have address_eq := chain.head_address e first
    exact UInt64.toNat_inj.mp address_eq
  · obtain ⟨above, inside⟩ := sound.entry_bounds found
    obtain ⟨j, -, there⟩ := chain.entryAt e found
    exact ⟨above, there.room, inside⟩
  · have inside := sound.reach_le_limit_of_dropLast followed
    obtain ⟨-, read, -⟩ := sound.payload_cases (List.dropLast_subset _ followed)
    exact ⟨inside, read inside⟩

/-- The two files of the small table are 32 bytes apart, and the first can be read. -/
theorem course_spacing_smallTable :
    smallTable.Opened ∧ smallTable.course.entries.IsChain smallTable.Follows ∧
      smallTable.course.entries.map (·.address) = [0xffffff94, 0xffffffb4] ∧
      ∀ e ∈ smallTable.course.entries.dropLast, smallTable.payload e = .ok [1, 2, 3] := by
  obtain ⟨-, chained, -, -, readable⟩ := course_spacing opened_smallTable
  refine ⟨opened_smallTable, chained, by decide +kernel, fun e followed => ?_⟩
  rw [(readable e followed).2]
  have bytes_eq : ∀ e ∈ smallTable.course.entries.dropLast,
      smallTable.payloadBytes e = [1, 2, 3] := by
    decide +kernel
  rw [bytes_eq e followed]

end Table

end BootRom

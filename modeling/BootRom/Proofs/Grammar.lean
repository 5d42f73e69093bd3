import BootRom.Proofs.Reachable

/-!
# What a walk accepts, and what it refuses

Wherever a walk has come to, the bytes that stand there settle what it does next. The
rules are given here in addresses and bytes alone:

* `EndsAt`: no record starts at an address, and the walk ends well;
* `RefusedAt`: a record starts there which is not complete, or does not make sense, and the walk
  fails, with an error that says so;
* `SpelledAt`: a record starts there, and it is spelled by the bytes up to its payload.

`endsAt_iff`, `refusedAt_iff` and `spelledAt_iff` tie them to what the chain of a table knows of
an index, and `next_classifies` says that a walk goes by these rules and no others.
-/

namespace BootRom.Table

open Format

variable {t : Table} {a i : Nat} {w : Walk} {e : Entry} {cause : Error}

/-! ## The rules -/

/-- The `n` bytes of a table from an address on, or as many of them as it has. -/
def bytesAt (t : Table) (a n : Nat) : Bytes :=
  (t.window.contents.drop (a - t.start.toNat)).take n

/-- The number that bytes 20 to 23 from an address on spell: where a record that starts there
says that its payload does. -/
def payloadOffset (t : Table) (a : Nat) : Nat := BigEndian.value (t.bytesAt (a + 20) 4)

/-- No record starts at an address: it is not below the limit, or fewer bytes are left than a
magic has, or other bytes stand there. -/
def EndsAt (t : Table) (a : Nat) : Prop :=
  t.limit.toNat ≤ a ∨ t.limit.toNat - a < Record.magicSize ∨
    t.bytesAt a Record.magicSize ≠ Record.magicBytes

instance (t : Table) (a : Nat) : Decidable (t.EndsAt a) :=
  inferInstanceAs (Decidable (_ ∨ _ ∨ _))

/-- Why a record that starts at an address is refused. What is asked of it is asked in this order,
and only of what was not refused before. -/
inductive RefusedAt (t : Table) (a : Nat) : Error → Prop
  /-- its header passes the limit -/
  | header (cut : t.limit.toNat - a < Record.size) :
    t.RefusedAt a
      (.outOfBounds (UInt64.ofNat (a - t.start.toNat)) (UInt64.ofNat Record.size)
        (UInt64.ofNat (t.limit.toNat - t.start.toNat)))
  /-- its payload would start within its header -/
  | room (whole : Record.size ≤ t.limit.toNat - a) (short : t.payloadOffset a < Record.size) :
    t.RefusedAt a
      (.invalidRecordOffset (UInt64.ofNat a) (UInt32.ofNat (t.payloadOffset a)))
  /-- its name buffer passes the limit -/
  | name (whole : Record.size ≤ t.limit.toNat - a) (room : Record.size ≤ t.payloadOffset a)
    (cut : t.limit.toNat < a + t.payloadOffset a) :
    t.RefusedAt a
      (.outOfBounds (UInt64.ofNat (a - t.start.toNat + Record.size))
        (UInt64.ofNat (t.payloadOffset a - Record.size))
        (UInt64.ofNat (t.limit.toNat - t.start.toNat)))

/-- An entry is what the bytes at an address spell. -/
structure SpelledAt (t : Table) (a : Nat) (e : Entry) : Prop where
  /-- the record header ends below the limit -/
  whole : Record.size ≤ t.limit.toNat - a
  /-- there is room for it before the payload -/
  room : Record.size ≤ t.payloadOffset a
  /-- the name buffer ends below the limit -/
  name_inside : a + t.payloadOffset a ≤ t.limit.toNat
  /-- the entry is at the address -/
  address_eq : e.address.toNat = a
  /-- its header is written as the bytes there are -/
  header_eq : e.record.encode = t.bytesAt a Record.size
  /-- its name buffer is what follows, up to the payload -/
  name_eq : e.name.buffer = t.bytesAt (a + Record.size) (t.payloadOffset a - Record.size)

/-! ## Bytes at an address -/

/-- Bytes at an address of a table are bytes at an index of its contents. -/
theorem bytesAt_start_add (t : Table) (i n : Nat) :
    t.bytesAt (t.start.toNat + i) n = (t.window.contents.drop i).take n := by
  rw [bytesAt, Nat.add_sub_cancel_left]

/-- Where the header of a record is whole, the start of its payload is read off its last word. -/
theorem payloadOffset_eq (inside : i + Record.size ≤ t.window.contents.length) :
    t.payloadOffset (t.start.toNat + i) = (t.headerAt i).offset.toNat := by
  have small : Record.size = 24 := rfl
  have four : ((t.window.contents.drop (i + 20)).take 4).length = 4 := by
    rw [List.length_take, List.length_drop]
    omega
  have last_word : (t.headerAt i).offset = BigEndian.field
      ((t.window.contents.drop i).take Record.size) 20 := rfl
  have four_left : min 4 (Record.size - 20) = 4 := rfl
  rw [BigEndian.field, List.drop_take, List.drop_drop, List.take_take, four_left] at last_word
  rw [last_word, BigEndian.toNat_decode four, payloadOffset, Nat.add_assoc, bytesAt_start_add]

/-- A record header is the one that some bytes spell exactly if it is written as they are. -/
theorem eq_decode_iff {r : Record} {bytes : Bytes} (exact : bytes.length = Record.size) :
    r = Record.decode bytes ↔ r.encode = bytes := by
  constructor
  · rintro rfl
    exact Record.encode_decode exact
  · rintro rfl
    -- what is left of 24 bytes after the four words is a magic
    have magic_exact : r.magic.length = Record.magicSize := by
      have whole : r.encode.length = r.magic.length + 16 := by
        rw [Record.encode, List.length_append]
        rfl
      have small : Record.size = Record.magicSize + 16 := rfl
      omega
    exact (Record.decode_encode magic_exact).symm

/-! ## The rules, at an index -/

theorem endsAt_iff (sound : t.Sound) : t.EndsAt (t.start.toNat + i) ↔ ¬ t.MarkedAt i := by
  have limit_eq := sound.toNat_limit
  have some_left : 0 < Record.magicSize := by decide
  rw [EndsAt, bytesAt_start_add]
  constructor
  · rintro (beyond | tail | foreign) marked
    · have inside := marked.inside
      omega
    · have inside := marked.inside
      omega
    · exact foreign marked
  · exact fun unmarked => .inr (.inr unmarked)

theorem refusedAt_iff (sound : t.Sound) :
    (¬ t.EndsAt (t.start.toNat + i) ∧ t.RefusedAt (t.start.toNat + i) cause) ↔
      t.CorruptAt i cause := by
  have limit_eq := sound.toNat_limit
  have small : 0 < Record.size := by decide
  have size_eq : UInt64.ofNat (t.limit.toNat - t.start.toNat) = t.window.size := by
    rw [limit_eq, Nat.add_sub_cancel_left, ← sound.toNat_size, UInt64.ofNat_toNat]
  rw [endsAt_iff sound, Classical.not_not]
  constructor
  · rintro ⟨marked, refused⟩
    have inside := marked.inside
    cases refused with
    | header cut =>
      rw [size_eq, Nat.add_sub_cancel_left]
      exact .headerCut marked (by omega)
    | room whole short =>
      have header_inside : i + Record.size ≤ t.window.contents.length := by omega
      rw [payloadOffset_eq header_inside] at short ⊢
      rw [UInt32.ofNat_toNat]
      exact .noRoom marked header_inside short
    | name whole room cut =>
      have header_inside : i + Record.size ≤ t.window.contents.length := by omega
      rw [payloadOffset_eq header_inside] at room cut ⊢
      rw [size_eq, Nat.add_sub_cancel_left]
      exact .nameCut marked header_inside room (by omega)
  · intro corrupt
    refine ⟨corrupt.marked, ?_⟩
    cases corrupt with
    | headerCut marked cut =>
      have refused : t.RefusedAt (t.start.toNat + i) _ := .header (by omega)
      rwa [size_eq, Nat.add_sub_cancel_left] at refused
    | noRoom marked header_inside short =>
      rw [← payloadOffset_eq header_inside] at short
      have refused : t.RefusedAt (t.start.toNat + i) _ := .room (by omega) short
      rwa [payloadOffset_eq header_inside, UInt32.ofNat_toNat] at refused
    | nameCut marked header_inside room cut =>
      rw [← payloadOffset_eq header_inside] at room cut
      have refused : t.RefusedAt (t.start.toNat + i) _ := .name (by omega) room (by omega)
      rwa [size_eq, payloadOffset_eq header_inside, Nat.add_sub_cancel_left] at refused

theorem spelledAt_iff (sound : t.Sound) :
    (¬ t.EndsAt (t.start.toNat + i) ∧ t.SpelledAt (t.start.toNat + i) e) ↔ t.EntryAt i e := by
  have limit_eq := sound.toNat_limit
  have small : 0 < Record.size := by decide
  rw [endsAt_iff sound, Classical.not_not]
  constructor
  · rintro ⟨marked, spelled⟩
    have whole := spelled.whole
    have room := spelled.room
    have name_inside := spelled.name_inside
    have name_eq := spelled.name_eq
    have header_inside : i + Record.size ≤ t.window.contents.length := by omega
    have exact_header : ((t.window.contents.drop i).take Record.size).length = Record.size := by
      rw [List.length_take, List.length_drop]
      omega
    have record_eq : e.record = t.headerAt i :=
      (eq_decode_iff exact_header).mpr (spelled.header_eq.trans (t.bytesAt_start_add i _))
    rw [payloadOffset_eq header_inside, ← record_eq] at room name_inside name_eq
    rw [Nat.add_assoc, bytesAt_start_add] at name_eq
    exact ⟨marked, header_inside, record_eq, room, by omega, name_eq, spelled.address_eq⟩
  · intro here
    have header_inside := here.header_inside
    have room := here.room
    have name_inside := here.name_inside
    have offset_eq : t.payloadOffset (t.start.toNat + i) = e.record.offset.toNat := by
      rw [payloadOffset_eq header_inside, ← here.record_eq]
    have exact_header : ((t.window.contents.drop i).take Record.size).length = Record.size := by
      rw [List.length_take, List.length_drop]
      omega
    refine ⟨here.marked, by omega, by omega, by omega, here.address_eq, ?_, ?_⟩
    · rw [bytesAt_start_add]
      exact (eq_decode_iff exact_header).mp here.record_eq
    · rw [offset_eq, Nat.add_assoc, bytesAt_start_add]
      exact here.name_eq

/-! ## The walk goes by the rules -/

/-- **A walk accepts the records that are spelled, and says of each other record why not.** At every
address that a walk over an open table comes to:

* it ends well exactly if no record starts there;
* otherwise it fails exactly if the record is refused, and for the first reason that there is;
* otherwise it finds the entry that the bytes there spell, and no other.

A walk that has ended, in either way, yields nothing more. -/
theorem next_classifies (opened : t.Opened) (reached : t.Reaches a w) :
    ((t.next w).1.outcome = .ok none ↔ t.EndsAt a) ∧
    (∀ cause, (t.next w).1.outcome = .error cause ↔ ¬ t.EndsAt a ∧ t.RefusedAt a cause) ∧
    (∀ e, (t.next w).1.outcome = .ok (some e) ↔ ¬ t.EndsAt a ∧ t.SpelledAt a e) ∧
    ((∀ e, (t.next w).1.outcome ≠ .ok (some e)) →
      t.next (t.next w).2 = (pure none, (t.next w).2)) := by
  have sound := opened.sound
  obtain ⟨i, rfl, rfl⟩ := reached.exists_walkAt sound
  refine ⟨?_, fun cause => ?_, fun e => ?_, next_of_stopped⟩
  · rw [outcome_next_eq_none_iff sound, endsAt_iff sound]
  · rw [outcome_next_eq_error_iff sound, refusedAt_iff sound]
  · rw [outcome_next_eq_some_iff sound, spelledAt_iff sound]

/-- A fresh walk of the small table finds its first file. -/
theorem next_smallTable :
    smallTable.Opened ∧ smallTable.Reaches 0xffffff94 smallTable.walk ∧
      ¬ smallTable.EndsAt 0xffffff94 ∧
      (smallTable.next smallTable.walk).1.outcome =
        .ok (some ⟨0xffffff94, ⟨Record.magicBytes, 3, 0x50, 0, 26⟩, ⟨[0x61, 0]⟩⟩) := by
  have marked : ¬ smallTable.EndsAt 0xffffff94 := by decide +kernel
  have found := ((next_classifies opened_smallTable .start).2.2.1
    ⟨0xffffff94, ⟨Record.magicBytes, 3, 0x50, 0, 26⟩, ⟨[0x61, 0]⟩⟩).mpr
      ⟨marked, by decide +kernel, by decide +kernel, by decide +kernel, rfl, by decide +kernel,
        by decide +kernel⟩
  exact ⟨opened_smallTable, .start, marked, found⟩

end BootRom.Table

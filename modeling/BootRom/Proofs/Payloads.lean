import BootRom.Proofs.Admission
import BootRom.Proofs.Spacing

/-!
# Payloads, from the table and from memory

A table is a copy of a range of memory, and a payload is cut out of the copy. It could be read
from memory as well, at the address where its record says that it starts. Both have their own
checks: the table compares addresses with its limit and indices with its size, the image compares
an offset with the number of its bytes. They come to the same:

* `ReadsAlike`: a payload is read from the table and from memory under one condition, that it ends
  within the table, and then it is the same bytes; otherwise each refuses it in its own way;
* `Covers.payloadBytes_eq`: the bytes are the same since the table is a window on the image;
* `payload_reads_alike`: this holds of every entry whose payload does not start below the table,
  whether a walk has found it or not.
-/

namespace BootRom.Table

open Format Memory

variable {bytes : ByteArray} {base top : UInt64} {located : LocatedHeader} {t : Table} {e : Entry}

/-- What memory has where the payload of an entry is said to be. -/
def payloadIn (memory : Memory) (e : Entry) : Except Error Bytes :=
  (memory.read e.dataStart e.record.len.toUInt64).outcome.map Bytes.contents

/-- The payload of an entry is read alike from a table and from memory. -/
structure ReadsAlike (memory : Memory) (t : Table) (e : Entry) : Prop where
  /-- it starts at a plain sum -/
  dataStart_eq : e.dataStart.toNat = e.address.toNat + e.record.offset.toNat
  /-- the table answers exactly if it ends within the table, and with the bytes at its place -/
  payload_eq_ok_iff : ∀ data, t.payload e = .ok data ↔
    e.reach ≤ t.limit.toNat ∧ data = t.payloadBytes e
  /-- memory answers exactly then as well, and with the same bytes -/
  payloadIn_eq_ok_iff : ∀ data, payloadIn memory e = .ok data ↔
    e.reach ≤ t.limit.toNat ∧ data = t.payloadBytes e
  /-- otherwise the table says that it is truncated, and nothing else -/
  payload_eq_error_iff : ∀ cause, t.payload e = .error cause ↔
    t.limit.toNat < e.reach ∧
      cause = .truncatedFile e.name.display e.dataStart e.record.len t.limit
  /-- and memory that nothing backs it -/
  payloadIn_eq_error_iff : ∀ cause, payloadIn memory e = .error cause ↔
    t.limit.toNat < e.reach ∧ cause = .unbackedRange e.dataStart e.record.len.toUInt64

/-- A payload that ends within a table is a run of bytes of the image that the table covers. -/
theorem Covers.payloadBytes_eq (covers : Covers base top bytes located t)
    (above : base.toNat ≤ t.start.toNat)
    (start_le : t.start.toNat ≤ e.address.toNat + e.record.offset.toNat)
    (inside : e.reach ≤ top.toNat) :
    t.payloadBytes e =
      ((Bytes.contents bytes).drop (e.address.toNat + e.record.offset.toNat - base.toNat)).take
        e.record.len.toNat := by
  have start_eq := covers.start_eq
  rw [Entry.reach] at inside
  rw [payloadBytes, covers.contents_eq, ← start_eq, List.drop_take, List.drop_drop,
    List.take_take, Nat.min_eq_left (by omega)]
  congr 2
  omega

/-- A length of a payload is never too long for a buffer. -/
theorem read_payload (memory : Memory) (e : Entry) :
    memory.read e.dataStart e.record.len.toUInt64 =
      memory.fetch e.dataStart e.record.len.toUInt64 := by
  apply read_eq_fetch
  rw [UInt32.toNat_toUInt64]
  exact e.record.len.toNat_lt

/-- What an image has in the place of a payload. -/
theorem payloadIn_of_inside (backed : base.toNat + bytes.size = top.toNat)
    (above : base.toNat ≤ e.address.toNat + e.record.offset.toNat)
    (inside : e.reach ≤ top.toNat) :
    payloadIn (.image base bytes) e =
      .ok (((Bytes.contents bytes).drop
        (e.address.toNat + e.record.offset.toNat - base.toNat)).take e.record.len.toNat) := by
  have top_lt := top.toNat_lt
  have len_eq := UInt32.toNat_toUInt64 e.record.len
  rw [Entry.reach] at inside
  have data_eq : e.dataStart.toNat = _ := toNat_dataStart (by omega)
  have read : ((Memory.image base bytes).fetch e.dataStart e.record.len.toUInt64).outcome = _ :=
    fetch_image_of_inside (i := e.address.toNat + e.record.offset.toNat - base.toNat) (by omega)
      (by omega) (by omega)
  rw [payloadIn, read_payload, read, len_eq]
  exact congrArg Except.ok (Bytes.contents_extract _ _ _)

theorem payloadIn_of_outside (backed : base.toNat + bytes.size = top.toNat)
    (inSpace : e.address.toNat + e.record.offset.toNat < 0x10000000000000000)
    (outside : top.toNat < e.reach) :
    payloadIn (.image base bytes) e =
      .error (.unbackedRange e.dataStart e.record.len.toUInt64) := by
  have top_lt := top.toNat_lt
  have data_eq := toNat_dataStart inSpace
  have len_eq := UInt32.toNat_toUInt64 e.record.len
  rw [Entry.reach] at outside
  have refused : ((Memory.image base bytes).fetch e.dataStart e.record.len.toUInt64).outcome = _ :=
    fetch_image_of_outside (by omega) (.inr (by omega))
  rw [payloadIn, read_payload, refused]
  rfl

/-- A payload ends within a table or beyond it, so what is known of both cases says exactly how it
is read. -/
theorem read_iff_of_reach {outcome : Except Error Bytes} {refusal : Error}
    (within : e.reach ≤ t.limit.toNat → outcome = .ok (t.payloadBytes e))
    (beyond : t.limit.toNat < e.reach → outcome = .error refusal) :
    (∀ data, outcome = .ok data ↔ e.reach ≤ t.limit.toNat ∧ data = t.payloadBytes e) ∧
      ∀ cause, outcome = .error cause ↔ t.limit.toNat < e.reach ∧ cause = refusal := by
  apply Traced.outcome_iff_of_settled
  · rcases Nat.lt_or_ge t.limit.toNat e.reach with outside | inside
    · exact .inr ⟨_, outside, rfl⟩
    · exact .inl ⟨_, inside, rfl⟩
  · rintro data ⟨inside, rfl⟩
    exact within inside
  · rintro cause ⟨outside, rfl⟩
    exact beyond outside

theorem readsAlike (backed : base.toNat + bytes.size = top.toNat)
    (opened : (ofHeader (.image base bytes) located top).outcome = .ok t)
    (start_le : t.start.toNat ≤ e.address.toNat + e.record.offset.toNat)
    (inSpace : e.address.toNat + e.record.offset.toNat < 0x10000000000000000) :
    ReadsAlike (.image base bytes) t e := by
  have sound := Opened.sound ⟨_, _, _, opened⟩
  obtain ⟨admits, covers⟩ := ((ofHeader_image_iff backed located top).1 t).mp opened
  have above : base.toNat ≤ t.start.toNat := by
    rw [covers.start_eq]
    exact admits.above
  obtain ⟨payload_ok, payload_error⟩ := read_iff_of_reach (payload_of_inside sound start_le)
    (payload_of_outside inSpace)
  have within : e.reach ≤ t.limit.toNat →
      payloadIn (.image base bytes) e = .ok (t.payloadBytes e) := by
    intro inside
    rw [covers.limit_eq] at inside
    rw [covers.payloadBytes_eq above start_le inside]
    exact payloadIn_of_inside backed (Nat.le_trans above start_le) inside
  have beyond : t.limit.toNat < e.reach →
      payloadIn (.image base bytes) e =
        .error (.unbackedRange e.dataStart e.record.len.toUInt64) := by
    intro outside
    rw [covers.limit_eq] at outside
    exact payloadIn_of_outside backed inSpace outside
  obtain ⟨memory_ok, memory_error⟩ := read_iff_of_reach within beyond
  exact ⟨toNat_dataStart inSpace, payload_ok, memory_ok, payload_error, memory_error⟩

/-- **A payload is what memory has in its place.** Let a table be opened in an image, below the top
that the image ends at. The payload of every entry that does not start below the table is read from
the table exactly if it ends within the table, exactly if it can be read from the image as well, and
then it is the same bytes. The entry need not be one of the table, and its length may take it past
the end of the address space; it is refused as truncated then, and by the image as not backed. Every
entry that the walk finds is one of these. -/
theorem payload_reads_alike (backed : base.toNat + bytes.size = top.toNat)
    (opened : (ofHeader (.image base bytes) located top).outcome = .ok t) :
    (∀ e : Entry, t.start.toNat ≤ e.address.toNat + e.record.offset.toNat →
      e.address.toNat + e.record.offset.toNat < 0x10000000000000000 →
      ReadsAlike (.image base bytes) t e) ∧
    ∀ e ∈ t.course.entries, t.start.toNat ≤ e.address.toNat + e.record.offset.toNat ∧
      e.address.toNat + e.record.offset.toNat < 0x10000000000000000 := by
  refine ⟨fun e => readsAlike backed opened, fun e found => ?_⟩
  obtain ⟨above, below⟩ := (Opened.sound ⟨_, _, _, opened⟩).entry_bounds found
  have limit_lt := t.limit.toNat_lt
  constructor <;> omega

/-- An entry that the small table does not have is read from it as if it had, up to its end; one
byte more, and it is truncated. -/
theorem payload_reads_alike_smallTable :
    UInt64.toNat 0xffffff94 + smallImage.size = topOfSpace.toNat ∧
      (ofHeader (.image 0xffffff94 smallImage) ⟨0xffffffdc, smallHeader⟩ topOfSpace).outcome =
        .ok smallTable ∧
      smallTable.payload ⟨0xfffffff8, ⟨[], 4, 0, 0, 4⟩, ⟨[]⟩⟩ =
        .ok (Footer.encode (-36)) ∧
      smallTable.payload ⟨0xfffffff8, ⟨[], 5, 0, 0, 4⟩, ⟨[0x61]⟩⟩ =
        .error (.truncatedFile "a" 0xfffffffc 5 0x100000000) := by
  have backed : UInt64.toNat 0xffffff94 + smallImage.size = topOfSpace.toNat := by
    decide +kernel
  have opened : (ofHeader (.image 0xffffff94 smallImage) ⟨0xffffffdc, smallHeader⟩
      topOfSpace).outcome = .ok smallTable := by
    decide +kernel
  obtain ⟨alike, -⟩ := payload_reads_alike backed opened
  have exact_end := alike ⟨0xfffffff8, ⟨[], 4, 0, 0, 4⟩, ⟨[]⟩⟩ (by decide) (by decide)
  have one_more := alike ⟨0xfffffff8, ⟨[], 5, 0, 0, 4⟩, ⟨[0x61]⟩⟩ (by decide) (by decide)
  exact ⟨backed, opened, (exact_end.payload_eq_ok_iff _).mpr (by decide +kernel),
    (one_more.payload_eq_error_iff _).mpr (by decide +kernel)⟩

end BootRom.Table

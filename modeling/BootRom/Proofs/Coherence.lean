import BootRom.Proofs.Grammar
import BootRom.Proofs.Progress
import BootRom.Proofs.Unread

/-!
# The two halves of the cursor

A walk keeps track of where it stands twice, by an address and by an index. The address decides
whether it goes on, and the index where it reads. Each of them stops at the end of its own range,
and since a table may start anywhere, one may have stopped while the other has not. They agree all
the same wherever a byte is read.

* `Coherent` says how the halves of a cursor go together: they name one byte of the table, or both
  lie beyond its bytes. `Coherent.advance` keeps this however far the cursor is moved, and so do a
  call (`Coherent.next`) and any number of calls (`coherent_walkAfter`).
* `reads` are the ranges of the window that a call reads, and `next_congr_of_reads` says that what
  it does depends on no other bytes.
* `Coherent.agreesOn`: what is read by index is what stands at the address.
* `reads_walkAfter_of_limit_le`: from the limit on nothing is read, by any later call.

`walk_coherent` puts this together. Of what opening a table checks it needs no more than that the
table ends in the address space.
-/

namespace BootRom

open Format Memory

/-- A range of a window that is read: from which index on, and how many bytes. -/
structure Memory.Window.Range where
  /-- the index of the first byte -/
  index : UInt64
  /-- the number of bytes -/
  len : UInt64
  deriving DecidableEq, Repr

namespace Table

variable {t t' : Table} {c : Cursor} {w : Walk} {r : Window.Range} {n : Nat}

/-! ## Halves that go together -/

/-- Both halves of a cursor name one byte of the table. -/
structure Within (t : Table) (c : Cursor) : Prop where
  /-- the address is below the limit -/
  below : c.address < t.limit
  /-- the index is its distance from the start -/
  address_eq : c.address.toNat = t.start.toNat + c.index.toNat
  /-- there is a byte at the index -/
  inside : c.index.toNat < t.window.contents.length

/-- Neither half of a cursor names a byte of the table. -/
structure Beyond (t : Table) (c : Cursor) : Prop where
  /-- the address is not below the limit -/
  limit_le : t.limit ≤ c.address
  /-- there is no byte at the index -/
  length_le : t.window.contents.length ≤ c.index.toNat

/-- The halves of a cursor go together. Beyond the bytes they need not be the same distance away. -/
def Coherent (t : Table) (c : Cursor) : Prop := t.Within c ∨ t.Beyond c

section Fitting

variable (fits : t.start.toNat + t.window.contents.length < 0x10000000000000000)

include fits

/-- A cursor at the start of a table is beyond its bytes only if it has none. -/
theorem coherent_start : t.Coherent ⟨t.start, 0⟩ := by
  have limit_eq := toNat_limit_of_fits fits
  rcases Nat.eq_zero_or_pos t.window.contents.length with none | some_byte
  · rw [none, Nat.add_zero] at limit_eq
    exact .inr ⟨UInt64.le_iff_toNat_le.mpr (Nat.le_of_eq limit_eq), Nat.le_of_eq none⟩
  · exact .inl ⟨UInt64.lt_iff_toNat_lt.mpr (limit_eq ▸ Nat.lt_add_of_pos_right some_byte), rfl,
      some_byte⟩

/-- Moving a cursor on keeps its halves together, whatever the distance. If the sum of address and
distance is below the limit, neither half is cut off. Otherwise the index, cut off or not, is no
less than the length of the table. -/
theorem Coherent.advance (coherent : t.Coherent c) (distance : UInt64) :
    t.Coherent (c.advance distance) := by
  have limit_eq := toNat_limit_of_fits fits
  have address_eq : (c.advance distance).address.toNat = _ := Address.toNat_saturatingAdd _ _
  have index_eq : (c.advance distance).index.toNat = _ := Address.toNat_saturatingAdd _ _
  rcases coherent with ⟨below, at_index, inside⟩ | ⟨limit_le, length_le⟩
  · rcases Nat.lt_or_ge (c.address.toNat + distance.toNat) t.limit.toNat with still | past
    · exact .inl ⟨UInt64.lt_iff_toNat_lt.mpr (by omega), by omega, by omega⟩
    · exact .inr ⟨UInt64.le_iff_toNat_le.mpr (by omega), by omega⟩
  · have := UInt64.le_iff_toNat_le.mp limit_le
    exact .inr ⟨UInt64.le_iff_toNat_le.mpr (by omega), by omega⟩

/-- A half that is at the end of its range is beyond the bytes of the table, and so is the other. -/
theorem Coherent.beyond_of_last (coherent : t.Coherent c)
    (last : c.address = Address.last ∨ c.index = Address.last) : t.Beyond c := by
  rcases coherent with ⟨below, at_index, inside⟩ | beyond
  · have last_eq : Address.last.toNat = 0xffffffffffffffff := rfl
    have limit_eq := toNat_limit_of_fits fits
    have below_nat := UInt64.lt_iff_toNat_lt.mp below
    -- a byte of the table has neither the last address nor the last index
    rcases last with at_end | at_end
    · rw [at_end] at below_nat
      omega
    · rw [at_end] at inside
      omega
  · exact beyond

end Fitting

/-! ## Calls -/

/-- A call leaves the cursor where it is, or moves it on. -/
theorem cursor_next (t : Table) (w : Walk) :
    (t.next w).2.cursor = w.cursor ∨
      ∃ distance, (t.next w).2.cursor = w.cursor.advance distance := by
  rw [next]
  split
  · exact .inl rfl
  · dsimp only
    split
    · rename_i entry cursor found
      obtain ⟨-, -, read⟩ := step_eq_some_iff.mp found
      obtain ⟨-, -, distance, -, -, -, -, moved⟩ := readEntry_eq_ok_iff.mp read
      exact .inr ⟨distance, moved⟩
    · exact .inl rfl
    · exact .inl rfl

theorem Coherent.next
    (fits : t.start.toNat + t.window.contents.length < 0x10000000000000000)
    (coherent : t.Coherent w.cursor) : t.Coherent (t.next w).2.cursor := by
  rcases cursor_next t w with stayed | ⟨distance, moved⟩
  · rw [stayed]
    exact coherent
  · rw [moved]
    exact coherent.advance fits distance

theorem coherent_walkAfter
    (fits : t.start.toNat + t.window.contents.length < 0x10000000000000000) (n : Nat) :
    t.Coherent (t.walkAfter n).cursor := by
  induction n with
  | zero => exact coherent_start fits
  | succ n ih => exact ih.next fits

/-- From the limit on, a call finds nothing and leaves the cursor where it is. -/
theorem next_of_limit_le (limit_le : t.limit ≤ w.cursor.address) :
    t.next w = (pure none, ⟨w.cursor, true⟩) := by
  obtain ⟨cursor, ended⟩ := w
  cases ended with
  | true => rfl
  | false =>
    have nothing : t.step cursor = pure none := if_pos limit_le
    simp only [Table.next, nothing]
    rfl

theorem cursor_walkAfter_of_limit_le (limit_le : t.limit ≤ (t.walkAfter n).cursor.address)
    (k : Nat) : (t.walkAfter (n + k)).cursor = (t.walkAfter n).cursor := by
  induction k with
  | zero => rfl
  | succ k ih =>
    rw [← Nat.add_assoc, walkAfter, next_of_limit_le (by rw [ih]; exact limit_le)]
    exact ih

/-! ## What is read -/

/-- The range that the name of a record is read from, if the record leaves room for one. -/
def nameReads (index : UInt64) (record : Record) : List Window.Range :=
  match record.nameCapacity, Address.checkedAdd index (UInt64.ofNat Record.size) with
  | some capacity, some start => [⟨start, UInt64.ofNat capacity⟩]
  | _, _ => []

/-- The ranges that an entry is read from: its record header, and then its name. -/
def entryReads (t : Table) (c : Cursor) : List Window.Range :=
  ⟨c.index, UInt64.ofNat Record.size⟩ ::
    match t.window.recordAt c.index with
    | .ok record => nameReads c.index record
    | .error _ => []

/-- The ranges that a step reads: below the limit the magic, and at a record's magic the entry. -/
def stepReads (t : Table) (c : Cursor) : List Window.Range :=
  if t.limit ≤ c.address then []
  else
    ⟨c.index, UInt64.ofNat Record.magicSize⟩ ::
      if t.window.magicAt c.index = some Record.magicBytes then t.entryReads c else []

/-- The ranges that the next call of a walk reads: none, once it has ended. -/
def reads (t : Table) (w : Walk) : List Window.Range :=
  if w.ended then [] else t.stepReads w.cursor

/-- From the limit on nothing is read, however often the walk is called. -/
theorem reads_walkAfter_of_limit_le (limit_le : t.limit ≤ (t.walkAfter n).cursor.address)
    (k : Nat) : t.reads (t.walkAfter (n + k)) = [] := by
  rw [reads, stepReads, cursor_walkAfter_of_limit_le limit_le, if_pos limit_le, ite_self]

/-! ## Nothing else is read -/

theorem nameAt_congr_of_reads {v v' : Window} {index : UInt64} {record : Record}
    (base_eq : v'.base = v.base)
    (same : ∀ r ∈ nameReads index record, v'.slice r.index r.len = v.slice r.index r.len) :
    v'.nameAt index record = v.nameAt index record := by
  rw [Window.nameAt, Window.nameAt, base_eq]
  rcases reserved : record.nameCapacity with _ | capacity
  · rfl
  · rcases added : Address.checkedAdd index (UInt64.ofNat Record.size) with _ | start
    · rfl
    · have read : nameReads index record = [⟨start, UInt64.ofNat capacity⟩] := by
        rw [nameReads, reserved, added]
      rw [read] at same
      simp only [same _ (List.mem_singleton.mpr rfl)]

theorem readEntry_congr_of_reads (alike : t.Alike t')
    (same : ∀ r ∈ t.entryReads c, t'.window.slice r.index r.len = t.window.slice r.index r.len) :
    t'.readEntry c = t.readEntry c := by
  apply readEntry_congr alike
  · rw [Window.recordAt, Window.recordAt, same ⟨c.index, _⟩ List.mem_cons_self]
  · intro record read
    refine nameAt_congr_of_reads alike.base_eq fun r named => same r ?_
    rw [entryReads, read]
    exact List.mem_cons_of_mem _ named

theorem step_congr_of_reads (alike : t.Alike t')
    (same : ∀ r ∈ t.stepReads c, t'.window.slice r.index r.len = t.window.slice r.index r.len) :
    t'.step c = t.step c := by
  rw [stepReads] at same
  split at same
  · rename_i limit_le
    rw [step, step, alike.limit_eq, if_pos limit_le, if_pos limit_le]
  · apply step_congr alike
    · rw [Window.magicAt, Window.magicAt, same ⟨c.index, _⟩ List.mem_cons_self]
    · intro marked
      rw [if_pos marked] at same
      exact readEntry_congr_of_reads alike fun r found => same r (List.mem_cons_of_mem _ found)

/-- A table that answers alike for what a call reads is taken alike by the call. -/
theorem next_congr_of_reads (alike : t.Alike t')
    (same : ∀ r ∈ t.reads w, t'.window.slice r.index r.len = t.window.slice r.index r.len) :
    t'.next w = t.next w := by
  rw [reads] at same
  rw [next, next]
  split
  · rfl
  · rename_i going
    rw [if_neg going] at same
    rw [step_congr_of_reads alike same]

/-! ## What stands there -/

theorem index_le_of_mem_nameReads {index : UInt64} {record : Record}
    (found : r ∈ nameReads index record) : index.toNat ≤ r.index.toNat := by
  rw [nameReads] at found
  split at found
  · rename_i capacity start _ added
    obtain rfl := List.mem_singleton.mp found
    obtain ⟨-, start_eq⟩ := Address.checkedAdd_eq_some_iff.mp added
    exact start_eq ▸ Nat.le_add_right _ _
  · cases found

theorem index_le_of_mem_entryReads (found : r ∈ t.entryReads c) :
    c.index.toNat ≤ r.index.toNat := by
  rcases List.mem_cons.mp found with rfl | named
  · exact Nat.le_refl _
  · split at named
    · exact index_le_of_mem_nameReads named
    · cases named

theorem index_le_of_mem_stepReads (found : r ∈ t.stepReads c) :
    c.address < t.limit ∧ c.index.toNat ≤ r.index.toNat := by
  rw [stepReads] at found
  split at found
  · cases found
  · rename_i below
    refine ⟨UInt64.not_le.mp below, ?_⟩
    rcases List.mem_cons.mp found with rfl | found
    · exact Nat.le_refl _
    · split at found
      · exact index_le_of_mem_entryReads found
      · cases found

/-- Whatever is read is read below the limit, from the index of the cursor on. -/
theorem index_le_of_mem_reads (found : r ∈ t.reads w) :
    w.cursor.address < t.limit ∧ w.cursor.index.toNat ≤ r.index.toNat := by
  rw [reads] at found
  split at found
  · cases found
  · exact index_le_of_mem_stepReads found

/-- The halves of a cursor agree on a range: what it answers by index stands as far behind the
address of the cursor as the range starts behind its index. -/
structure AgreesOn (t : Table) (c : Cursor) (r : Window.Range) : Prop where
  /-- the cursor names a byte -/
  within : t.Within c
  /-- the range starts at that byte or after it -/
  after : c.index.toNat ≤ r.index.toNat
  /-- what the range answers ends by the limit -/
  inside : ∀ run, t.window.slice r.index r.len = .ok run →
    c.address.toNat + (r.index.toNat - c.index.toNat) + r.len.toNat ≤ t.limit.toNat
  /-- and is what stands at the address -/
  run_eq : ∀ run, t.window.slice r.index r.len = .ok run →
    run = t.bytesAt (c.address.toNat + (r.index.toNat - c.index.toNat)) r.len.toNat

theorem Coherent.agreesOn
    (fits : t.start.toNat + t.window.contents.length < 0x10000000000000000)
    (coherent : t.Coherent w.cursor) (found : r ∈ t.reads w) : t.AgreesOn w.cursor r := by
  have limit_eq := toNat_limit_of_fits fits
  have size_eq : t.window.size.toNat = _ := Window.toNat_size (by omega)
  obtain ⟨below, after⟩ := index_le_of_mem_reads found
  rcases coherent with within | ⟨limit_le, -⟩
  · -- the two ways to the first byte of the range come to one address
    have place_eq : w.cursor.address.toNat + (r.index.toNat - w.cursor.index.toNat) =
        t.start.toNat + r.index.toNat := by
      have := within.address_eq
      omega
    refine ⟨within, after, fun run read => ?_, fun run read => ?_⟩
    · obtain ⟨stop_le, -⟩ := Window.slice_eq_ok_iff.mp read
      omega
    · obtain ⟨-, rfl⟩ := Window.slice_eq_ok_iff.mp read
      rw [place_eq, bytesAt_start_add]
  · exact absurd below (UInt64.not_lt.mpr limit_le)

/-! ## The walk of a table -/

/-- **The halves of the cursor agree wherever something is read.** Let a table end in the address
space, as every table that was opened does. After any number of calls of its walk, whatever strides
its bytes have led to,

* the cursor is below the limit, its index is the distance of its address from the start of the
  table, and there is a byte at that index; or it is not below the limit, there is no byte at its
  index, and neither the next call nor any later one reads from the window;
* if one of its halves is at the end of its range, this is the second case;
* each range that the next call reads answers with the bytes that stand as far behind the address
  of the cursor as the range starts behind its index;
* what that call reports, what it answers and where it goes depends on no other bytes. -/
theorem walk_coherent
    (fits : t.start.toNat + t.window.contents.length < 0x10000000000000000) (n : Nat) :
    (t.Within (t.walkAfter n).cursor ∨
        t.Beyond (t.walkAfter n).cursor ∧ ∀ k, t.reads (t.walkAfter (n + k)) = []) ∧
      ((t.walkAfter n).cursor.address = Address.last ∨
          (t.walkAfter n).cursor.index = Address.last →
        t.Beyond (t.walkAfter n).cursor) ∧
      (∀ r ∈ t.reads (t.walkAfter n), t.AgreesOn (t.walkAfter n).cursor r) ∧
      ∀ t', t.Alike t' →
        (∀ r ∈ t.reads (t.walkAfter n),
          t'.window.slice r.index r.len = t.window.slice r.index r.len) →
        t'.next (t.walkAfter n) = t.next (t.walkAfter n) := by
  have coherent := coherent_walkAfter fits n
  refine ⟨?_, coherent.beyond_of_last fits, fun r found => coherent.agreesOn fits found,
    fun t' alike same => next_congr_of_reads alike same⟩
  rcases coherent with within | beyond
  · exact .inl within
  · exact .inr ⟨beyond, reads_walkAfter_of_limit_le beyond.limit_le⟩

end Table

/-! ## A table at the end of the address space -/

/-- The header of a ROM with one file, whose records are aligned to eight bytes. -/
def endHeader : Header := ⟨Header.magicWord, 0x31313132, 62, 0, 8, 0, 0, 0⟩

/-- A ROM whose only file claims the longest payload that there is. -/
def endImage : ByteArray :=
  ⟨(Record.encode ⟨Record.magicBytes, 0xffffffff, 0x50, 0, 26⟩ ++ [0x61, 0] ++
    endHeader.encode ++ Footer.encode (-36)).toArray⟩

/-- Its table, below the last address of the space. -/
def endTable : Table := ⟨⟨0xffffffffffffffdb, endHeader⟩, ⟨0xffffffffffffffc1, endImage⟩⟩

/-- The first call reads a magic, a record header and a name of two bytes where the cursor stands.
It takes the address to the end of its range, but not the index, which is now further from the start
of the table than the address is; nothing is read from then on. -/
theorem Table.walk_coherent_endTable :
    endTable.Opened ∧
      endTable.Within (endTable.walkAfter 0).cursor ∧
      endTable.reads (endTable.walkAfter 0) = [⟨0, 8⟩, ⟨0, 24⟩, ⟨24, 2⟩] ∧
      endTable.AgreesOn (endTable.walkAfter 0).cursor ⟨24, 2⟩ ∧
      (endTable.walkAfter 1).cursor = ⟨Address.last, 0x100000020⟩ ∧
      endTable.Beyond (endTable.walkAfter 1).cursor ∧
      ∀ k, endTable.reads (endTable.walkAfter (1 + k)) = [] := by
  have located : (Table.locate (.image 0xffffffffffffffc1 endImage) Address.last).outcome =
      .ok endTable := by
    decide +kernel
  have opened : endTable.Opened := Table.opened_of_locate located
  have read : endTable.reads (endTable.walkAfter 0) = [⟨0, 8⟩, ⟨0, 24⟩, ⟨24, 2⟩] := by
    decide +kernel
  have moved : (endTable.walkAfter 1).cursor = ⟨Address.last, 0x100000020⟩ := by decide +kernel
  obtain ⟨-, -, agrees, -⟩ := walk_coherent opened.sound.fits 0
  obtain ⟨placed, saturated, -, -⟩ := walk_coherent opened.sound.fits 1
  have named := agrees ⟨24, 2⟩ (by rw [read]; decide)
  have beyond := saturated (.inl (by rw [moved]))
  refine ⟨opened, named.within, read, named, moved, beyond, ?_⟩
  rcases placed with within | ⟨-, nothing⟩
  · exact absurd within.below (UInt64.not_lt.mpr beyond.limit_le)
  · exact nothing

end BootRom

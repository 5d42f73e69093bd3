import BootRom.Proofs.Images

/-!
# One array of bytes

An image is one array of bytes that begins at some address. It is read by address, or first copied
into a window and then read by index. Each way has its own checks, and they come to the same: what
is read is the run of the array that the range names, and nothing is read that is not there.

* `Backs` says in plain numbers that the image has a range, and `bytesThere` is what it has there.
  `readBytes_classifies`: a read answers with just that, and says otherwise that nothing backs it.
* A range can be cut in two anywhere (`Backs.append_iff`, `Backs.bytesThere_append`), and so can a
  read (`readBytes_append_iff`).
* `OnRange` is what a window on a range answers, whatever it is asked for; `onRange_of_map` says
  that every window on an image does.
* `isArray_of_place` puts this together for every image that is placed below a top.
-/

namespace BootRom.Memory

open Format

/-- What a memory has at an address, as a run of bytes. -/
def readBytes (memory : Memory) (address len : UInt64) : Except Error Bytes :=
  (memory.read address len).outcome.map Bytes.contents

variable {memory : Memory} {bytes : ByteArray} {base top address a b len index : UInt64}
  {w : Window} {run x y : Bytes}

/-! ## Ranges of an image -/

/-- An image from `base` up to `top` has all of a range. An empty range has a place too, and may
stand at either end. -/
structure Backs (base top address len : UInt64) : Prop where
  /-- the image has begun -/
  above : base.toNat ≤ address.toNat
  /-- and not ended -/
  below : address.toNat + len.toNat ≤ top.toNat

/-- What an image from `base` has in a range. -/
def bytesThere (bytes : ByteArray) (base address len : UInt64) : Bytes :=
  ((Bytes.contents bytes).drop (address.toNat - base.toNat)).take len.toNat

/-- It has as many bytes as the range is long. -/
theorem Backs.length_bytesThere (placed : base.toNat + bytes.size = top.toNat)
    (backs : Backs base top address len) :
    (bytesThere bytes base address len).length = len.toNat := by
  obtain ⟨above, below⟩ := backs
  rw [bytesThere, List.length_take, List.length_drop, Bytes.length_contents]
  omega

/-- The end of a range that an image has is an address. -/
theorem Backs.toNat_add (backs : Backs base top address len) :
    (address + len).toNat = address.toNat + len.toNat :=
  Address.toNat_add_of_lt (Nat.lt_of_le_of_lt backs.below top.toNat_lt)

/-- What an image has in part of a range starts further on. -/
theorem Backs.drop_take (bytes : ByteArray) (backs : Backs base top address len)
    (inside : index.toNat + a.toNat ≤ len.toNat) :
    ((bytesThere bytes base address len).drop index.toNat).take a.toNat =
        bytesThere bytes base (address + index) a ∧
      Backs base top (address + index) a := by
  obtain ⟨above, below⟩ := backs
  have top_lt := top.toNat_lt
  have start_eq : (address + index).toNat = address.toNat + index.toNat :=
    Address.toNat_add_of_lt (by omega)
  refine ⟨?_, by omega, by omega⟩
  rw [bytesThere, bytesThere, start_eq, List.drop_take, List.drop_drop, List.take_take,
    Nat.min_eq_left (by omega)]
  congr 2
  omega

/-- A range is there in full if and only if its two parts are, wherever it is cut. -/
theorem Backs.append_iff (short : a.toNat + b.toNat < 0x10000000000000000) :
    Backs base top address (a + b) ↔ Backs base top address a ∧ Backs base top (address + a) b := by
  have sum_eq : (a + b).toNat = a.toNat + b.toNat := Address.toNat_add_of_lt short
  constructor
  · rintro ⟨above, below⟩
    have first : Backs base top address a := ⟨above, by omega⟩
    have next_eq := first.toNat_add
    exact ⟨first, by omega, by omega⟩
  · rintro ⟨first, -, below⟩
    have next_eq := first.toNat_add
    exact ⟨first.above, by omega⟩

/-- What is there is what the first part has, and then what the second part has. -/
theorem Backs.bytesThere_append (short : a.toNat + b.toNat < 0x10000000000000000)
    (first : Backs base top address a) :
    bytesThere bytes base address (a + b) =
      bytesThere bytes base address a ++ bytesThere bytes base (address + a) b := by
  have next_eq := first.toNat_add
  have above := first.above
  rw [bytesThere, bytesThere, bytesThere, Address.toNat_add_of_lt short, List.take_add,
    List.drop_drop, next_eq]
  congr 3
  omega

/-! ## Reading by address -/

/-- Up to the longest buffer, reading depends on what is there and on nothing else. -/
theorem readBytes_eq_fetch (fits : len ≤ maxBuffer) :
    memory.readBytes address len = (memory.fetch address len).outcome.map Bytes.contents := by
  rw [readBytes, read, Backend.read, if_pos fits, backend_fetch]

theorem readBytes_of_backs (placed : base.toNat + bytes.size = top.toNat) (fits : len ≤ maxBuffer)
    (backs : Backs base top address len) :
    (image base bytes).readBytes address len = .ok (bytesThere bytes base address len) := by
  obtain ⟨above, below⟩ := backs
  have top_lt := top.toNat_lt
  have answer : ((image base bytes).fetch address len).outcome = _ :=
    fetch_image_of_inside (i := address.toNat - base.toNat) (by omega) (by omega) (by omega)
  rw [readBytes_eq_fetch fits, answer]
  exact congrArg Except.ok (Bytes.contents_extract ..)

theorem readBytes_of_not_backs (placed : base.toNat + bytes.size = top.toNat)
    (fits : len ≤ maxBuffer) (missing : ¬ Backs base top address len) :
    (image base bytes).readBytes address len = .error (.unbackedRange address len) := by
  have top_lt := top.toNat_lt
  have outside : address.toNat < base.toNat ∨
      base.toNat + bytes.size < address.toNat + len.toNat := by
    rcases Nat.lt_or_ge address.toNat base.toNat with before | above
    · exact .inl before
    · exact .inr (placed ▸ Nat.lt_of_not_ge fun below => missing ⟨above, below⟩)
  rw [readBytes_eq_fetch fits, fetch_image_of_outside (by omega) outside]
  rfl

/-- A read answers exactly if all of its range is there, with what is there, and fails exactly if
not. -/
theorem readBytes_classifies (placed : base.toNat + bytes.size = top.toNat)
    (fits : len ≤ maxBuffer) :
    (∀ run, (image base bytes).readBytes address len = .ok run ↔
        Backs base top address len ∧ run = bytesThere bytes base address len) ∧
      ∀ cause, (image base bytes).readBytes address len = .error cause ↔
        ¬ Backs base top address len ∧ cause = .unbackedRange address len := by
  apply Traced.outcome_iff_of_settled
  · by_cases backs : Backs base top address len
    · exact .inl ⟨_, backs, rfl⟩
    · exact .inr ⟨_, backs, rfl⟩
  · rintro _ ⟨backs, rfl⟩
    exact readBytes_of_backs placed fits backs
  · rintro _ ⟨missing, rfl⟩
    exact readBytes_of_not_backs placed fits missing

/-- One read is as good as two, one after the other. -/
theorem readBytes_append_iff (placed : base.toNat + bytes.size = top.toNat)
    (fits : a.toNat + b.toNat ≤ maxBuffer.toNat) :
    ((image base bytes).readBytes address (a + b) = .ok (x ++ y) ∧ x.length = a.toNat) ↔
      (image base bytes).readBytes address a = .ok x ∧
        (image base bytes).readBytes (address + a) b = .ok y := by
  have buffer_lt := maxBuffer.toNat_lt
  have short : a.toNat + b.toNat < 0x10000000000000000 := by omega
  have sum_eq : (a + b).toNat = a.toNat + b.toNat := Address.toNat_add_of_lt short
  have fits_whole : a + b ≤ maxBuffer := UInt64.le_iff_toNat_le.mpr (by omega)
  have fits_first : a ≤ maxBuffer := UInt64.le_iff_toNat_le.mpr (by omega)
  have fits_second : b ≤ maxBuffer := UInt64.le_iff_toNat_le.mpr (by omega)
  rw [(readBytes_classifies placed fits_whole).1, (readBytes_classifies placed fits_first).1,
    (readBytes_classifies placed fits_second).1, Backs.append_iff short]
  constructor
  · rintro ⟨⟨⟨first, second⟩, joined⟩, long⟩
    -- both sides are cut after `a` bytes
    rw [first.bytesThere_append short] at joined
    obtain ⟨x_eq, y_eq⟩ := List.append_inj joined (by rw [long, first.length_bytesThere placed])
    exact ⟨⟨first, x_eq⟩, second, y_eq⟩
  · rintro ⟨⟨first, rfl⟩, second, rfl⟩
    exact ⟨⟨⟨first, second⟩, (first.bytesThere_append short).symm⟩,
      first.length_bytesThere placed⟩

/-! ## Reading by index -/

/-- An array is the run that a slice of its length is. -/
theorem Window.map_toList_arrayAt (w : Window) (count index : UInt64) :
    (w.arrayAt count index).map Vector.toList = w.slice index count := by
  rw [arrayAt]
  split
  · rename_i run answer
    exact answer.symm
  · rename_i e answer
    exact answer.symm

/-- The magic at an index is the array of eight bytes there, if there is one. -/
theorem Window.magicAt_eq_some_iff_arrayAt {magic : Bytes} :
    w.magicAt index = some magic ↔
      (w.arrayAt (UInt64.ofNat Record.magicSize) index).map Vector.toList = .ok magic := by
  rw [map_toList_arrayAt, magicAt]
  rcases w.slice index (UInt64.ofNat Record.magicSize) with e | found
  · constructor
    · intro found
      cases found
    · intro answer
      cases answer
  · rw [Option.some.injEq, Except.ok.injEq]

/-- A way of reading by index answers for a range that was read as memory answers for addresses,
and refuses to pass the end of the range. -/
structure ReadsWithin (memory : Memory) (address a : UInt64)
    (reader : UInt64 → UInt64 → Except Error Bytes) : Prop where
  /-- within the range, an index stands for an address, and what is there is read -/
  inside : ∀ index len, index.toNat + len.toNat ≤ a.toNat →
    (address + index).toNat = address.toNat + index.toNat ∧
      ∃ run, memory.readBytes (address + index) len = .ok run ∧ reader index len = .ok run
  /-- beyond its end, nothing is read -/
  outside : ∀ index len, a.toNat < index.toNat + len.toNat →
    index.toNat + len.toNat < 0x10000000000000000 →
      reader index len = .error (.outOfBounds index len a)
  /-- and beyond the end of the numbers, for another reason -/
  beyond : ∀ index len, 0x10000000000000000 ≤ index.toNat + len.toNat →
    reader index len = .error .addressOverflow

/-- So it answers exactly within the range. -/
theorem ReadsWithin.eq_ok_iff {reader : UInt64 → UInt64 → Except Error Bytes}
    (within : ReadsWithin memory address a reader) :
    reader index len = .ok run ↔
      index.toNat + len.toNat ≤ a.toNat ∧ memory.readBytes (address + index) len = .ok run := by
  by_cases inside : index.toNat + len.toNat ≤ a.toNat
  · obtain ⟨-, there, read_eq, answer⟩ := within.inside index len inside
    rw [read_eq, answer]
    exact ⟨fun same => ⟨inside, same⟩, And.right⟩
  · have none_there : ∃ cause, reader index len = .error cause := by
      rcases Nat.lt_or_ge (index.toNat + len.toNat) 0x10000000000000000 with inSpace | beyond
      · exact ⟨_, within.outside index len (Nat.lt_of_not_le inside) inSpace⟩
      · exact ⟨_, within.beyond index len beyond⟩
    obtain ⟨cause, refused⟩ := none_there
    rw [refused]
    exact ⟨fun answer => (nomatch answer), fun there => absurd there.1 inside⟩

/-- What a window on a range answers. -/
structure OnRange (memory : Memory) (address a : UInt64) (w : Window) : Prop where
  /-- it begins where the range does -/
  base_eq : w.base = address
  /-- and ends where the range does -/
  limit_eq : w.limit.toNat = address.toNat + a.toNat
  /-- runs of any length are read as memory is -/
  slices : ReadsWithin memory address a w.slice
  /-- and so are arrays -/
  arrays : ReadsWithin memory address a fun index count =>
    (w.arrayAt count index).map Vector.toList
  /-- a magic is read if eight bytes are left -/
  magics : ∀ index magic, w.magicAt index = some magic ↔
    index.toNat + Record.magicSize ≤ a.toNat ∧
      memory.readBytes (address + index) (UInt64.ofNat Record.magicSize) = .ok magic

/-- A window that was mapped is a copy of what is there. -/
theorem map_eq_ok (mapped : (memory.map address a).outcome = .ok w) :
    w.base = address ∧ w.size = a ∧ a ≤ maxBuffer ∧
      memory.readBytes address a = .ok w.contents := by
  obtain ⟨stored, answer, rest⟩ := Traced.outcome_bind_eq_ok.mp mapped
  obtain rfl := Except.ok.inj rest
  refine ⟨rfl, ?_, ?_, ?_⟩
  · rw [Window.size, Backend.size_of_read answer]
    exact UInt64.ofNat_toNat
  · by_cases fits : a ≤ maxBuffer
    · exact fits
    · rw [Backend.read, if_neg fits] at answer
      cases answer
  · rw [readBytes, read, answer]
    rfl

/-- What is mapped is what is read, and where nothing is read nothing is mapped. -/
theorem map_contents_map (memory : Memory) (address a : UInt64) :
    (memory.map address a).outcome.map Window.contents = memory.readBytes address a := by
  rw [readBytes, map, Backend.map, read, Traced.outcome_bind]
  rcases (memory.backend.read address a).outcome with e | stored <;> rfl

/-- Every window on an image reads as the image does. -/
theorem onRange_of_map (placed : base.toNat + bytes.size = top.toNat)
    (mapped : ((image base bytes).map address a).outcome = .ok w) :
    OnRange (image base bytes) address a w := by
  obtain ⟨base_eq, size_eq, fits, copied⟩ := map_eq_ok mapped
  obtain ⟨backs, contents_eq⟩ := ((readBytes_classifies placed fits).1 _).mp copied
  have slices : ReadsWithin (image base bytes) address a w.slice := by
    constructor
    case inside =>
      intro index len inside
      obtain ⟨there, backs'⟩ := backs.drop_take bytes inside
      have fits' : len ≤ maxBuffer := by
        rw [UInt64.le_iff_toNat_le] at fits ⊢
        omega
      have below := backs.below
      have top_lt := top.toNat_lt
      refine ⟨Address.toNat_add_of_lt (by omega), _, readBytes_of_backs placed fits' backs', ?_⟩
      rw [Window.slice_of_inside (by rw [size_eq]; exact inside), contents_eq, there]
    case outside =>
      intro index len outside inSpace
      rw [Window.slice_of_outside inSpace (by rw [size_eq]; exact outside), size_eq]
    case beyond =>
      intro index len beyond
      exact Window.slice_of_beyond beyond
  constructor
  case base_eq => exact base_eq
  case limit_eq =>
    rw [Window.limit, base_eq, size_eq]
    exact backs.toNat_add
  case slices => exact slices
  case arrays => simpa only [Window.map_toList_arrayAt] using slices
  case magics =>
    intro index magic
    rw [Window.magicAt_eq_some_iff_arrayAt, Window.map_toList_arrayAt]
    exact slices.eq_ok_iff

/-! ## An image, however it is read -/

/-- Memory is an array of bytes from `base` up to `top`. -/
structure IsArray (memory : Memory) (bytes : ByteArray) (base top : UInt64) : Prop where
  /-- a read answers exactly if all of its range is there, and with what is there -/
  answers : ∀ address a run, a ≤ maxBuffer →
    (memory.readBytes address a = .ok run ↔
      Backs base top address a ∧ run = bytesThere bytes base address a)
  /-- it fails exactly if not, and names the range -/
  refuses : ∀ address a cause, a ≤ maxBuffer →
    (memory.readBytes address a = .error cause ↔
      ¬ Backs base top address a ∧ cause = .unbackedRange address a)
  /-- one read is two reads, one after the other -/
  joins : ∀ address a b x y, a.toNat + b.toNat ≤ maxBuffer.toNat →
    (memory.readBytes address (a + b) = .ok (x ++ y) ∧ x.length = a.toNat ↔
      memory.readBytes address a = .ok x ∧ memory.readBytes (address + a) b = .ok y)
  /-- a window is mapped wherever a read answers, as a copy of what it answers -/
  maps : ∀ address a,
    (memory.map address a).outcome.map Window.contents = memory.readBytes address a
  /-- and it is read as memory is -/
  windows : ∀ address a w, (memory.map address a).outcome = .ok w → OnRange memory address a w

/-- **Reads and windows of an image are runs of one array.** An image is placed so that it ends at
the top. A read by address answers exactly if the image has all of its range, with the bytes there,
and can be cut in two anywhere. A window by index, whether asked for a run, for an array or for a
magic, answers what memory answers for the same addresses, and refuses whatever passes its end. -/
theorem isArray_of_place (short : bytes.size < 0x8000000000000000)
    (placed : place bytes top = .ok memory) :
    ∃ base, memory = .image base bytes ∧ base.toNat + bytes.size = top.toNat ∧
      IsArray memory bytes base top := by
  obtain ⟨base, rfl, ends⟩ := (place_eq_ok_iff (by omega)).mp placed
  refine ⟨base, rfl, ends, ?_⟩
  constructor
  case answers => exact fun _ _ run fits => (readBytes_classifies ends fits).1 run
  case refuses => exact fun _ _ cause fits => (readBytes_classifies ends fits).2 cause
  case joins => exact fun _ _ _ _ _ fits => readBytes_append_iff ends fits
  case maps => exact map_contents_map _
  case windows => exact fun _ _ _ mapped => onRange_of_map ends mapped

/-- The small ROM below the top of the space is read by address from its first byte to its last. -/
theorem isArray_of_place_smallImage :
    smallImage.size < 0x8000000000000000 ∧
      place smallImage topOfSpace = .ok (.image 0xffffff94 smallImage) ∧
      IsArray (.image 0xffffff94 smallImage) smallImage 0xffffff94 topOfSpace := by
  have short : smallImage.size < 0x8000000000000000 := by decide +kernel
  have placed : place smallImage topOfSpace = .ok (.image 0xffffff94 smallImage) := rfl
  obtain ⟨base, same, -, array⟩ := isArray_of_place short placed
  obtain ⟨rfl, -⟩ := Memory.image.inj same
  exact ⟨short, placed, array⟩

end BootRom.Memory

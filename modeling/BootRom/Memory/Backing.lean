import BootRom.Memory.Window
import BootRom.Traced

/-!
# Physical memory and what backs it

Physical memory is read-only, and is backed in one of three ways:

* a ROM image held in memory and placed below some top address, as the boot
  flash is;
* a plain file whose byte `n` stands for the physical address `n`, read through
  short-lived mappings;
* a directory that was opened like such a file, of which nothing can be mapped.

`Memory.fetch` reads a range. Image and file differ in what they report and in the
error for a range that nothing backs; in range they answer with the same bytes.

All that readers rely on is a `Backend`: a way to fetch ranges that answers in
full. `Backend.read` fetches into a buffer that must be allocated first, and
`Backend.map` makes a window of what was read; `Memory.read` and `Memory.map` are
these for a memory.
-/

namespace BootRom

open Memory

/-- Read-only physical memory. -/
inductive Memory
  /-- an image whose first byte is at `base` -/
  | image (base : UInt64) (bytes : ByteArray)
  /-- a plain file, whose first byte is at address zero -/
  | file (path : String) (bytes : ByteArray)
  /-- a directory in the place of a file -/
  | directory (path : String)

namespace Memory

/-! ## Reading -/

/-- The end of the 32-bit address space, below which the boot flash is decoded. -/
def topOfSpace : UInt64 := 0x100000000

/-- The longest buffer that can be allocated. -/
def maxBuffer : UInt64 := 0x7fffffffffffffff

/-- The bytes of `stored` that `len` bytes from `index` are. -/
def cut (stored : ByteArray) (index len : UInt64) : Except Error ByteArray :=
  match checkRange index len (UInt64.ofNat stored.size) with
  | .ok () => .ok (stored.extract index.toNat (index.toNat + len.toNat))
  | .error e => .error e

/-- Why a range of a directory is not mapped: a mapping is of whole pages, and the last page of
the address space is beyond what can be numbered. -/
def unmappable (address len : UInt64) : IoFault :=
  if 0xfffffffffffff000 < address.toNat + len.toNat then .valueTooLarge else .noSuchDevice

/-- The `len` bytes from a physical address. -/
def fetch : Memory → UInt64 → UInt64 → Traced Event ByteArray
  | image base bytes, address, len =>
    .ofExcept <|
      match Address.checkedSub address base with
      | none => .error (.unbackedRange address len)
      | some index =>
        match cut bytes index len with
        | .ok run => .ok run
        | .error _ => .error (.unbackedRange address len)
  | file path bytes, address, len => do
    Traced.log (.mapping address len)
    .ofExcept <|
      -- an empty range is not mapped, so it needs no bytes to back it
      if len = 0 then .ok ByteArray.empty
      else
        match cut bytes address len with
        | .ok run => .ok run
        | .error _ => .error (.io (.mapping path address) (.plain .unexpectedEnd))
  | directory path, address, len => do
    Traced.log (.mapping address len)
    .ofExcept <|
      if len = 0 then .ok ByteArray.empty
      else .error (.io (.mapping path address) (unmappable address len))

/-! ## Answers in full -/

theorem cut_eq_ok_iff {stored run : ByteArray} {index len : UInt64} :
    cut stored index len = .ok run ↔
      index.toNat + len.toNat ≤ (UInt64.ofNat stored.size).toNat ∧
        run = stored.extract index.toNat (index.toNat + len.toNat) := by
  rw [cut]
  rcases h : checkRange index len (UInt64.ofNat stored.size) with e | u
  · have outside : ¬ index.toNat + len.toNat ≤ (UInt64.ofNat stored.size).toNat := fun within => by
      rw [checkRange_eq_ok_iff.mpr within] at h
      cases h
    exact ⟨fun answer => (nomatch answer), fun answer => absurd answer.1 outside⟩
  · have within := checkRange_eq_ok_iff.mp h
    constructor
    · intro answer
      exact ⟨within, (Except.ok.inj answer).symm⟩
    · rintro ⟨-, rfl⟩
      rfl

/-- A run that is cut out of a store has the length that was asked for. -/
theorem size_of_cut {stored run : ByteArray} {index len : UInt64}
    (answer : cut stored index len = .ok run) : run.size = len.toNat := by
  obtain ⟨within, rfl⟩ := cut_eq_ok_iff.mp answer
  have stored_le : (UInt64.ofNat stored.size).toNat ≤ stored.size := by
    rw [UInt64.toNat_ofNat']
    exact Nat.mod_le _ _
  rw [ByteArray.size_extract]
  omega

/-- Whatever backs a memory, it answers with as many bytes as were asked for. -/
theorem size_of_fetch {memory : Memory} {address len : UInt64} {run : ByteArray}
    (answer : (memory.fetch address len).outcome = .ok run) : run.size = len.toNat := by
  cases memory with
  | image base bytes =>
    simp only [fetch, Traced.outcome_ofExcept] at answer
    split at answer
    · cases answer
    · split at answer
      · obtain rfl := Except.ok.inj answer
        exact size_of_cut ‹_›
      · cases answer
  | file path bytes =>
    simp only [fetch, Traced.log_bind, Traced.outcome_ofExcept] at answer
    split at answer
    · rename_i none_asked
      obtain rfl := Except.ok.inj answer
      rw [none_asked]
      rfl
    · split at answer
      · obtain rfl := Except.ok.inj answer
        exact size_of_cut ‹_›
      · cases answer
  | directory path =>
    simp only [fetch, Traced.log_bind, Traced.outcome_ofExcept] at answer
    split at answer
    · rename_i none_asked
      obtain rfl := Except.ok.inj answer
      rw [none_asked]
      rfl
    · cases answer

end Memory

/-! ## Memory of any kind -/

/-- Physical memory of any kind, as the answers it gives. -/
structure Backend where
  /-- the bytes of a range, read into a buffer -/
  fetch : UInt64 → UInt64 → Traced Event ByteArray
  /-- the buffer is as long as the range -/
  size_of_fetch : ∀ {address len : UInt64} {run : ByteArray},
    (fetch address len).outcome = .ok run → run.size = len.toNat

namespace Backend

variable {b : Backend} {address len : UInt64} {run : ByteArray}

/-- The `len` bytes from a physical address, in a buffer of their own. -/
def read (b : Backend) (address len : UInt64) : Traced Event ByteArray :=
  if len ≤ maxBuffer then b.fetch address len
  else .fail (.io (.allocating len address) (.plain .outOfMemory))

/-- A window on the `len` bytes from a physical address. -/
def map (b : Backend) (address len : UInt64) : Traced Event Window := do
  let bytes ← b.read address len
  return ⟨address, bytes⟩

/-- A length of less than 32 bits is never too long for a buffer. -/
theorem read_eq_fetch (short : len.toNat < 0x100000000) :
    b.read address len = b.fetch address len := by
  have long : maxBuffer.toNat = 0x7fffffffffffffff := rfl
  rw [read, if_pos]
  rw [UInt64.le_iff_toNat_le, long]
  omega

theorem size_of_read (answer : (b.read address len).outcome = .ok run) : run.size = len.toNat := by
  rw [read] at answer
  split at answer
  · exact b.size_of_fetch answer
  · cases answer

end Backend

namespace Memory

/-- Each of the memories that occur is one kind. -/
def backend (memory : Memory) : Backend := ⟨memory.fetch, size_of_fetch⟩

@[simp] theorem backend_fetch (memory : Memory) (address len : UInt64) :
    memory.backend.fetch address len = memory.fetch address len := rfl

/-- The `len` bytes from a physical address, in a buffer of their own. -/
def read (memory : Memory) (address len : UInt64) : Traced Event ByteArray :=
  memory.backend.read address len

theorem read_eq_fetch {memory : Memory} {address len : UInt64} (short : len.toNat < 0x100000000) :
    memory.read address len = memory.fetch address len :=
  Backend.read_eq_fetch short

/-- A window on the `len` bytes from a physical address. -/
def map (memory : Memory) (address len : UInt64) : Traced Event Window :=
  memory.backend.map address len

/-! ## Placing and opening -/

/-- The memory in which an image ends at `top`. -/
def place (bytes : ByteArray) (top : UInt64) : Except Error Memory :=
  match Address.checkedSub top (UInt64.ofNat bytes.size) with
  | some base => .ok (image base bytes)
  | none => .error .addressOverflow

/-- What stands at the end of a path. -/
inductive Node
  /-- a file, with what it holds -/
  | file (bytes : ByteArray)
  /-- a directory -/
  | directory

/-- What a path leads to, or why it leads nowhere. -/
abbrev Files := String → Except IoFault Node

/-- The memory of a ROM image file, placed below the top of the space. -/
def openImage (files : Files) (path : String) : Except Error Memory :=
  match files path with
  | .ok (.file bytes) => place bytes topOfSpace
  | .ok .directory => .error (.io (.readingImage path) .isADirectory)
  | .error fault => .error (.io (.readingImage path) fault)

/-- The memory that a plain file stands for. A directory is opened too, and only its use fails. -/
def openFile (files : Files) (path : String) : Except Error Memory :=
  match files path with
  | .ok (.file bytes) => .ok (file path bytes)
  | .ok .directory => .ok (directory path)
  | .error fault => .error (.io (.opening path) fault)

end Memory

end BootRom

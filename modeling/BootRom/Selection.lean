import BootRom.Format.Name
import BootRom.Format.Record

/-!
# Entries and selections

An `Entry` is a record as a walk finds it: where it is, its header and its
name. A `Selection` says what is wanted of a file table: the names, the
payload of one file, and possibly only files of one type.

* `Selection.Considers` says which records the filter on types leaves, and `Selection.admits`
  is the filter.
* `Selection.targets` asks whether an entry is the one whose payload is wanted.
-/

namespace BootRom

open Format

/-! ## Entries -/

/-- A record of a file table. -/
structure Entry where
  /-- the address of the record's first byte -/
  address : UInt64
  /-- its header -/
  record : Record
  /-- its name -/
  name : Name
  deriving DecidableEq, Repr

/-- The address of an entry's payload. -/
def Entry.dataStart (e : Entry) : UInt64 := e.address + e.record.offset.toUInt64

/-! ## Selections -/

/-- What to do with the entries of a file table. -/
structure Selection where
  /-- write the name of each entry -/
  list : Bool
  /-- write the payload of the first entry with this name -/
  read : Option String
  /-- consider entries of this type only -/
  fileType : Option UInt32
  deriving DecidableEq, Repr

namespace Selection

/-- Nothing is asked for. -/
def nothing : Selection := ⟨false, none, none⟩

/-- All names are asked for. -/
def listing : Selection := { nothing with list := true }

/-- The payload of one file is asked for. -/
def reading (name : String) : Selection := { nothing with read := some name }

/-- The same request, of one type of file only. -/
def ofType (s : Selection) (fileType : UInt32) : Selection := { s with fileType := some fileType }

/-- A record is considered if no type is asked for, or its own. -/
def Considers (s : Selection) (r : Record) : Prop :=
  s.fileType = none ∨ s.fileType = some r.fileType

instance (s : Selection) : DecidablePred s.Considers := fun _ => inferInstanceAs (Decidable (_ ∨ _))

/-- Whether a record passes the filter on types. -/
def admits (s : Selection) (r : Record) : Bool :=
  match s.fileType with
  | some fileType => r.fileType == fileType
  | none => true

/-- The filter lets through what is considered, and nothing else. -/
theorem admits_iff {s : Selection} {r : Record} : s.admits r = true ↔ s.Considers r := by
  rw [admits, Considers]
  cases s.fileType with
  | none => exact ⟨fun _ => .inl rfl, fun _ => rfl⟩
  | some fileType =>
    rw [beq_iff_eq, Option.some.injEq]
    exact ⟨fun same => .inr same.symm, fun asked => (asked.resolve_left nofun).symm⟩

/-- Whether an entry's payload is the one asked for. -/
def targets (s : Selection) (e : Entry) : Bool :=
  match s.read with
  | some name => s.admits e.record && e.name.accepts (Text.encode name)
  | none => false

end Selection

/-- What a listing or an extraction did. -/
structure Summary where
  /-- how many records were examined -/
  scanned : Nat
  /-- how many names were written -/
  listed : Nat
  /-- the address and the length of the payload that was written -/
  extracted : Option (UInt64 × UInt32)
  deriving DecidableEq, Repr

/-- Nothing has been done yet. -/
def Summary.empty : Summary := ⟨0, 0, none⟩

end BootRom

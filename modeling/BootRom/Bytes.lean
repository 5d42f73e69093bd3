/-!
# Bytes: stored contents and the short runs read out of them

Two shapes of byte data occur. What is *stored* (a ROM image, the window a file
table is read through) is a packed `ByteArray`. What is *read out of a store*
(a magic, a name, a payload, an offer to a writer) is a plain list, `Bytes`.

* `Bytes.contents` is the list a store holds; every statement about a store is
  a statement about its contents.
* `Bytes.window store index len` is the run of `len` bytes from `index`; it is
  `drop` and `take` of the contents (`window_eq_take_drop`), so nothing is
  invented.
-/

namespace BootRom

/-- A short run of bytes, read out of a store or offered to a writer. -/
abbrev Bytes := List UInt8

namespace Bytes

/-! ## Contents and windows -/

/-- The bytes that a store holds, in order. -/
def contents (store : ByteArray) : Bytes := store.data.toList

/-- The run of at most `len` bytes that starts at `index`. -/
def window (store : ByteArray) (index len : Nat) : Bytes :=
  contents (store.extract index (index + len))

@[simp] theorem length_contents (store : ByteArray) :
    (contents store).length = store.size := by
  simp [contents]

/-- Copying a run out of a store cuts the same run out of its contents. -/
theorem contents_extract (store : ByteArray) (index len : Nat) :
    contents (store.extract index (index + len)) = ((contents store).drop index).take len := by
  simp [contents, ByteArray.data_extract, Array.toList_extract, List.extract_eq_take_drop]

theorem window_eq_take_drop (store : ByteArray) (index len : Nat) :
    window store index len = ((contents store).drop index).take len :=
  contents_extract store index len

/-- Stores with the same contents are the same store. -/
theorem contents_injective {a b : ByteArray} (h : contents a = contents b) : a = b :=
  ByteArray.ext (Array.toList_inj.mp h)

end Bytes

end BootRom

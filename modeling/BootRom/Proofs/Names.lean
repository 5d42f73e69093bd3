import BootRom.Format.Name
import Mathlib.Data.List.TakeWhile

/-!
# What a name accepts

Names and targets are compared byte by byte, and the comparison ends at a zero or at the
end of the name's buffer. Said without the comparison: the name is the target up to its
first zero, as much of it as the buffer could hold.

* `Name.accepts_iff` says this.
* `Name.accepts_bytes`: a name accepts itself, whether or not a zero ends it.
* `Name.bytes_eq_of_accepts`: a name that a zero ends accepts nothing but itself, and
  `Name.accepts_iff_prefix`: a name that fills its buffer accepts all that it begins.
* `compareStrings` is the usual comparison of zero-ended strings with a bound on its length, and
  `StringOf` says which bytes of a buffer are its string; `Name.accepts_classifies` puts what a
  name accepts in both ways.
-/

namespace BootRom.Format

/-- The bytes before the first zero: the string that a run of bytes begins with. -/
def beforeZero (bytes : Bytes) : Bytes := bytes.takeWhile (· != 0)

theorem beforeZero_cons_of_ne {b : UInt8} (some_byte : b ≠ 0) (rest : Bytes) :
    beforeZero (b :: rest) = b :: beforeZero rest :=
  List.takeWhile_cons_of_pos (bne_iff_ne.mpr some_byte)

theorem zero_notMem_beforeZero (bytes : Bytes) : 0 ∉ beforeZero bytes := by
  intro found
  have passed := List.all_eq_true.mp List.all_takeWhile 0 found
  exact bne_iff_ne.mp passed rfl

/-- A run without a zero is a string as a whole. -/
theorem beforeZero_of_notMem {bytes : Bytes} (no_zero : 0 ∉ bytes) : beforeZero bytes = bytes :=
  List.takeWhile_eq_self_iff.mpr fun _ found =>
    bne_iff_ne.mpr fun same => no_zero (same ▸ found)

/-- A zero leaves the string shorter than the run. -/
theorem length_beforeZero_lt {bytes : Bytes} (closed : 0 ∈ bytes) :
    (beforeZero bytes).length < bytes.length := by
  have shorter := (List.takeWhile_prefix (l := bytes) (· != 0)).length_le
  refine Nat.lt_of_le_of_ne shorter fun same => ?_
  -- nothing was cut off, so the zero would be part of the string
  have whole : beforeZero bytes = bytes :=
    (List.takeWhile_prefix (· != 0)).eq_of_length same
  exact zero_notMem_beforeZero bytes (whole.symm ▸ closed)

/-- Bytes are the string of a buffer if there is no zero among them, and in the buffer a zero
follows them or nothing does. -/
structure StringOf (buffer string : Bytes) : Prop where
  /-- the string has not ended before -/
  unended : 0 ∉ string
  /-- it ends where the buffer has a zero, or where the buffer ends -/
  ended : ∃ rest, buffer = string ++ rest ∧ ∀ b ∈ rest.head?, b = 0

/-- Every buffer has one string. -/
theorem stringOf_iff {buffer string : Bytes} :
    StringOf buffer string ↔ string = beforeZero buffer := by
  constructor
  · rintro ⟨unended, rest, rfl, ended⟩
    have cut : rest.takeWhile (· != 0) = [] := by
      cases rest with
      | nil => rfl
      | cons b rest =>
        obtain rfl := ended b rfl
        rfl
    have kept : ∀ b ∈ string, (b != 0) = true := fun b found =>
      bne_iff_ne.mpr fun same => unended (same ▸ found)
    rw [beforeZero, List.takeWhile_append_of_pos kept, cut, List.append_nil]
  · rintro rfl
    refine ⟨zero_notMem_beforeZero buffer, buffer.dropWhile (· != 0),
      List.takeWhile_append_dropWhile.symm, fun b first => ?_⟩
    have stops := List.head?_dropWhile_not (· != 0) buffer
    rw [Option.mem_def.mp first] at stops
    exact bne_eq_false_iff_eq.mp stops

/-- The comparison of two zero-ended strings, as `strncmp` makes it: at most so many bytes of each
are looked at, none after a zero, and the result is how the first two differ that do, or zero.
There is no result if bytes would be looked at that are not there. -/
def compareStrings : Nat → Bytes → Bytes → Option Int
  | 0, _, _ => some 0
  | most + 1, a :: s, b :: t =>
    if a = b then
      if a = 0 then some 0 else compareStrings most s t
    else
      some ((a.toNat : Int) - b.toNat)
  | _ + 1, _, _ => none

/-- Bytes that differ are no zero apart. -/
theorem toNat_sub_toNat_ne_zero {a b : UInt8} (differ : a ≠ b) : (a.toNat : Int) - b.toNat ≠ 0 := by
  have differ' : a.toNat ≠ b.toNat := mt UInt8.toNat_inj.mp differ
  omega

namespace Name

/-- The comparison ends at a zero on both sides, or at the end of the buffer; until then the bytes
agree. The induction is on the buffer. -/
theorem agreesOver_iff {buffer target : Bytes} :
    agreesOver buffer target = true ↔
      beforeZero buffer = (beforeZero target).take buffer.length := by
  induction buffer generalizing target with
  | nil => exact ⟨fun _ => rfl, fun _ => rfl⟩
  | cons a buffer ih =>
    cases target with
    | nil =>
      -- a target that has ended goes on with zeros
      by_cases zero : a = 0
      · simp [agreesOver, beforeZero, zero]
      · simp [agreesOver, beforeZero, zero]
    | cons b target =>
      by_cases same : a = b
      · subst same
        by_cases zero : a = 0
        · simp [agreesOver, beforeZero, zero]
        · simp [agreesOver, zero, ih, beforeZero_cons_of_ne zero]
      · by_cases zero : b = 0
        · subst zero
          simp [agreesOver, beforeZero, same]
        · by_cases zero' : a = 0
          · subst zero'
            simp [agreesOver, beforeZero, zero, same]
          · simp [agreesOver, same, beforeZero_cons_of_ne zero, beforeZero_cons_of_ne zero']

/-- A name accepts a target exactly if it is what fits into its buffer of the target's string. -/
theorem accepts_iff {n : Name} {target : Bytes} :
    n.accepts target = true ↔ n.bytes = (beforeZero target).take n.capacity :=
  agreesOver_iff

theorem zero_notMem_bytes (n : Name) : 0 ∉ n.bytes := zero_notMem_beforeZero n.buffer

theorem length_bytes_le (n : Name) : n.bytes.length ≤ n.capacity :=
  (List.takeWhile_prefix (· != 0)).length_le

/-- Every name accepts itself. -/
theorem accepts_bytes (n : Name) : n.accepts n.bytes = true := by
  rw [accepts_iff, beforeZero_of_notMem n.zero_notMem_bytes,
    List.take_of_length_le n.length_bytes_le]

/-- A name that ends before its buffer does accepts only targets that spell it. -/
theorem bytes_eq_of_accepts {n : Name} {target : Bytes} (closed : 0 ∈ n.buffer)
    (accepted : n.accepts target = true) : n.bytes = beforeZero target := by
  have spelled := accepts_iff.mp accepted
  have shorter : n.bytes.length < n.capacity := length_beforeZero_lt closed
  -- the buffer had room for more, so the target's string was not cut
  rw [spelled, List.length_take] at shorter
  rw [spelled, List.take_of_length_le (by omega)]

/-- A name that fills its buffer accepts the targets whose string it begins. -/
theorem accepts_iff_prefix {n : Name} {target : Bytes} (filled : 0 ∉ n.buffer) :
    n.accepts target = true ↔ n.bytes <+: beforeZero target := by
  have whole : n.bytes = n.buffer := beforeZero_of_notMem filled
  rw [accepts_iff, List.prefix_iff_eq_take, whole, capacity]

/-- A buffer agrees with a target over its length exactly if the bounded comparison with the target
and a zero finds no difference. The zero is there to be found, so the comparison has a result. The
induction is on the buffer. -/
theorem compareStrings_eq (buffer target : Bytes) :
    ∃ order, compareStrings buffer.length buffer (target ++ [0]) = some order ∧
      (agreesOver buffer target = true ↔ order = 0) := by
  induction buffer generalizing target with
  | nil => exact ⟨0, rfl, iff_of_true rfl rfl⟩
  | cons a buffer ih =>
    cases target with
    | nil =>
      by_cases zero : a = 0
      · subst zero
        exact ⟨0, rfl, iff_of_true rfl rfl⟩
      · refine ⟨_, if_neg zero, iff_of_false ?_ (toNat_sub_toNat_ne_zero zero)⟩
        rw [agreesOver, List.headD_nil, if_neg zero]
        exact Bool.false_ne_true
    | cons b target =>
      by_cases same : a = b
      · subst same
        by_cases zero : a = 0
        · subst zero
          exact ⟨0, rfl, iff_of_true rfl rfl⟩
        · obtain ⟨order, compared, agrees⟩ := ih target
          refine ⟨order, ?_, ?_⟩
          · rw [← compared]
            exact (if_pos rfl).trans (if_neg zero)
          · rw [← agrees, agreesOver, List.headD_cons, if_pos rfl, if_neg zero, List.tail_cons]
      · refine ⟨_, if_neg same, iff_of_false ?_ (toNat_sub_toNat_ne_zero same)⟩
        rw [agreesOver, List.headD_cons, if_neg same]
        exact Bool.false_ne_true

/-- **A name is compared as far as its buffer reaches.** For all buffers and all targets, with zeros
anywhere in them, these say the same:

* the name accepts the target;
* the comparison of strings that is bounded by the size of the buffer finds no difference between the
  buffer and the target with a zero after it, and it never looks beyond either;
* the name is what fits into its buffer of the target's string, or what is the string of that much of
  the target.

The name is the one string that the buffer has; bytes behind its end make no difference. So a name
that a zero ends accepts the targets whose string it is, and a name that fills its buffer those whose
string it begins. -/
theorem accepts_classifies (n : Name) (target : Bytes) :
    (∃ order, compareStrings n.capacity n.buffer (target ++ [0]) = some order ∧
      (n.accepts target = true ↔ order = 0)) ∧
    (n.accepts target = true ↔ n.bytes = (beforeZero target).take n.capacity) ∧
    (n.accepts target = true ↔ n.bytes = beforeZero (target.take n.capacity)) ∧
    (∀ string, StringOf n.buffer string ↔ string = n.bytes) ∧
    (0 ∈ n.buffer → (n.accepts target = true ↔ n.bytes = beforeZero target)) ∧
    (0 ∉ n.buffer → (n.accepts target = true ↔ n.bytes <+: beforeZero target)) := by
  refine ⟨compareStrings_eq n.buffer target, accepts_iff, ?_, fun string => stringOf_iff,
    fun closed => ⟨bytes_eq_of_accepts closed, fun spelled => ?_⟩, accepts_iff_prefix⟩
  · rw [accepts_iff, beforeZero, List.take_takeWhile]
    rfl
  · rw [accepts_iff, ← spelled, List.take_of_length_le n.length_bytes_le]

/-- A name that a zero ends accepts a target that goes on behind a zero, and one that fills its buffer
a target that is longer, but not one that is shorter. -/
theorem accepts_classifies_bootblock :
    0 ∈ (⟨[0x62, 0x6f, 0, 0x74]⟩ : Name).buffer ∧ 0 ∉ (⟨[0x62, 0x6f]⟩ : Name).buffer ∧
      (⟨[0x62, 0x6f, 0, 0x74]⟩ : Name).accepts [0x62, 0x6f, 0, 0x78] = true ∧
      (⟨[0x62, 0x6f]⟩ : Name).accepts [0x62, 0x6f, 0x6f, 0x74] = true ∧
      ¬ (⟨[0x62, 0x6f]⟩ : Name).accepts [0x62] = true := by
  have closed : 0 ∈ (⟨[0x62, 0x6f, 0, 0x74]⟩ : Name).buffer := by decide
  have filled : 0 ∉ (⟨[0x62, 0x6f]⟩ : Name).buffer := by decide
  obtain ⟨-, -, -, -, ended, -⟩ :=
    accepts_classifies ⟨[0x62, 0x6f, 0, 0x74]⟩ [0x62, 0x6f, 0, 0x78]
  obtain ⟨-, -, -, -, -, longer⟩ := accepts_classifies ⟨[0x62, 0x6f]⟩ [0x62, 0x6f, 0x6f, 0x74]
  obtain ⟨-, -, -, -, -, shorter⟩ := accepts_classifies ⟨[0x62, 0x6f]⟩ [0x62]
  exact ⟨closed, filled, (ended closed).mpr (by decide), (longer filled).mpr (by decide),
    mt (shorter filled).mp (by decide)⟩

end Name

end BootRom.Format

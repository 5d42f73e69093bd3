import BootRom.Command.Hex
import BootRom.Traced
import Mathlib.Data.List.Basic
import Mathlib.Data.List.Induction
import Mathlib.Data.Nat.Digits.Defs

/-!
# The language of hexadecimal numerals

A type on the command line is a numeral in base 16. What a numeral is, and what its value is,
is said here without reading it from the left:

* `place` is the place of a character among the sixteen digits, `Spells` the positional value of
  a text of digits, and `Numeral` a text that spells a 32-bit number.
* `unmarked` and `unsigned` take away the mark and the sign that may stand before a numeral.
* `NoNumeral` names the first thing that is wrong with a text, in words.

`readDigits_of_spells` says that digits which spell a number that fits are read through, and
`spells_or_stops` that there is nothing to be met but digits and a place to stop. With them
`parseHex_classifies` says what is made of every text. `readHex_hex` is about the numerals that are
written: they are read as what they were written for.
-/

namespace BootRom.Command

/-! ## Digits and values -/

/-- The digits, each at the place of its value. -/
def hexDigits : List Char := "0123456789abcdef".toList

/-- The place of a character among the digits, in either case. -/
def place (c : Char) : Option Nat := hexDigits.idxOf? c.toLower

/-- A text consists of digits, and this is their value in base 16. -/
def Spells (text : List Char) (n : Nat) : Prop :=
  ∃ values : List Nat, text.map place = values.map some ∧ n = Nat.ofDigits 16 values.reverse

/-- A text is a numeral, whose value is a 32-bit number. -/
structure Numeral (text : List Char) (n : Nat) : Prop where
  /-- there is a digit -/
  nonempty : text ≠ []
  /-- there are only digits, with this value -/
  spelled : Spells text n
  /-- the value fits -/
  small : n < 0x100000000

/-- What follows the mark of a text: `0x` or, failing that, `0X`, if it begins with one. -/
def unmarked (text : List Char) : List Char :=
  if ['0', 'x'] <+: text then text.drop 2
  else if ['0', 'X'] <+: text then text.drop 2
  else text

/-- What follows the plus sign of a text, if it begins with one. -/
def unsigned (text : List Char) : List Char :=
  if ['+'] <+: text then text.drop 1 else text

/-- Why a text without its mark is no numeral. Digits are looked at from the left, and the first
character that cannot be read on with decides. -/
inductive NoNumeral (text : List Char) : String → Prop
  /-- there is nothing at all -/
  | empty (nothing : text = []) : NoNumeral text "cannot parse integer from empty string"
  /-- there is a sign and nothing else -/
  | signOnly (sign : text = ['+']) : NoNumeral text "invalid digit found in string"
  /-- a character is no digit -/
  | foreign {before after : List Char} {c : Char} {n : Nat}
    (found : unsigned text = before ++ c :: after) (read : Spells before n)
    (small : n < 0x100000000) (no_digit : place c = none) :
    NoNumeral text "invalid digit found in string"
  /-- a digit makes the value too large -/
  | large {before after : List Char} {c : Char} {n m : Nat}
    (found : unsigned text = before ++ c :: after) (read : Spells before n)
    (small : n < 0x100000000) (grown : Spells (before ++ [c]) m) (beyond : 0x100000000 ≤ m) :
    NoNumeral text "number too large to fit in target type"

/-! ## Spelling, digit by digit -/

theorem spells_nil : Spells [] 0 := ⟨[], rfl, rfl⟩

theorem eq_zero_of_spells_nil {n : Nat} (spelled : Spells [] n) : n = 0 := by
  obtain ⟨values, values_eq, rfl⟩ := spelled
  obtain rfl : values = [] := List.map_eq_nil_iff.mp values_eq.symm
  rfl

/-- One more digit is worth its place, and makes the others worth sixteen times as much. -/
theorem spells_snoc_iff {text : List Char} {c : Char} {m : Nat} :
    Spells (text ++ [c]) m ↔ ∃ n d, Spells text n ∧ place c = some d ∧ m = n * 16 + d := by
  have worth : ∀ (values : List Nat) (d : Nat), Nat.ofDigits 16 (values ++ [d]).reverse =
      Nat.ofDigits 16 values.reverse * 16 + d := fun values d => by
    rw [List.reverse_append, List.reverse_singleton, List.singleton_append, Nat.ofDigits_cons]
    omega
  constructor
  · rintro ⟨values, values_eq, rfl⟩
    rw [List.map_append, List.append_eq_map_iff] at values_eq
    obtain ⟨before, last, rfl, before_eq, last_eq⟩ := values_eq
    rw [List.map_singleton, List.map_eq_singleton_iff] at last_eq
    obtain ⟨d, rfl, digit⟩ := last_eq
    exact ⟨_, d, ⟨before, before_eq.symm, rfl⟩, digit.symm, worth before d⟩
  · rintro ⟨_, d, ⟨values, values_eq, rfl⟩, digit, rfl⟩
    refine ⟨values ++ [d], ?_, (worth values d).symm⟩
    rw [List.map_append, List.map_append, values_eq, List.map_singleton, digit]
    rfl

/-- A text of digits has one value. -/
theorem Spells.unique {text : List Char} {n m : Nat} (first : Spells text n)
    (second : Spells text m) : n = m := by
  obtain ⟨values, values_eq, rfl⟩ := first
  obtain ⟨values', values_eq', rfl⟩ := second
  have same : values = values' :=
    List.map_injective_iff.mpr (Option.some_injective Nat) (values_eq.symm.trans values_eq')
  rw [same]

/-- Every character of a text of digits is a digit. -/
theorem Spells.place_ne_none {text : List Char} {n : Nat} (spelled : Spells text n) :
    ∀ c ∈ text, place c ≠ none := by
  obtain ⟨values, values_eq, -⟩ := spelled
  intro c found none_there
  have mapped : place c ∈ values.map some := values_eq ▸ List.mem_map_of_mem found
  obtain ⟨d, -, digit⟩ := List.mem_map.mp mapped
  rw [none_there] at digit
  cases digit

/-- Either a text consists of digits whose value fits, or there is a first character at which that
comes to an end. The induction is on the text from its last character. -/
theorem spells_or_stops (text : List Char) :
    (∃ n, Spells text n ∧ n < 0x100000000) ∨
      ∃ before c after n, text = before ++ c :: after ∧ Spells before n ∧ n < 0x100000000 ∧
        (place c = none ∨ ∃ m, Spells (before ++ [c]) m ∧ 0x100000000 ≤ m) := by
  induction text using List.reverseRecOn with
  | nil => exact .inl ⟨0, spells_nil, by decide⟩
  | append_singleton text c ih =>
    rcases ih with ⟨n, spelled, small⟩ | ⟨before, b, after, n, rfl, spelled, small, stops⟩
    · -- everything before the last character is read through
      rcases digit : place c with _ | d
      · exact .inr ⟨text, c, [], n, rfl, spelled, small, .inl digit⟩
      · have grown : Spells (text ++ [c]) (n * 16 + d) :=
          spells_snoc_iff.mpr ⟨n, d, spelled, digit, rfl⟩
        rcases Nat.lt_or_ge (n * 16 + d) 0x100000000 with fits | beyond
        · exact .inl ⟨_, grown, fits⟩
        · exact .inr ⟨text, c, [], n, rfl, spelled, small, .inr ⟨_, grown, beyond⟩⟩
    · exact .inr ⟨before, b, after ++ [c], n, by simp, spelled, small, stops⟩

/-! ## Scanning -/

/-- The values that scanning knows are the places of the digits. Beyond the first 128 characters
there are no digits; those are looked at one by one. -/
theorem digitValue_eq_place (c : Char) : digitValue c = place c := by
  have first : ∀ k ∈ List.range 128, digitValue (Char.ofNat k) = place (Char.ofNat k) := by
    decide +kernel
  have digits_below : hexDigits.all (fun d => d.toNat < 128) = true := by decide +kernel
  rcases Nat.lt_or_ge c.toNat 128 with below | above
  · have known := first c.toNat (List.mem_range.mpr below)
    rwa [Char.ofNat_toNat] at known
  · have beyond : ∀ d : Char, d.toNat < 128 → ¬ c ≤ d := fun d below le => by
      have le_nat : c.toNat ≤ d.toNat := UInt32.le_iff_toNat_le.mp (Char.le_def.mp le)
      omega
    have lower_eq : c.toLower = c := by
      delta Char.toLower
      rw [dif_neg]
      exact fun upper => beyond 'Z' (by decide) (Char.le_def.mpr upper.2)
    have no_place : place c = none := by
      rw [place, List.idxOf?_eq_none_iff, lower_eq]
      intro found
      have below := of_decide_eq_true (List.all_eq_true.mp digits_below c found)
      exact Nat.not_lt.mpr above below
    rw [no_place]
    simp [digitValue, beyond]

/-- Digits that spell a number that fits are read through. The induction is on the digits from the
last one; the value of those before it is smaller, and fits too. -/
theorem readDigits_of_spells {digits : List Char} {n : Nat} (spelled : Spells digits n)
    (small : n < 0x100000000) (rest : List Char) :
    readDigits 0 (digits ++ rest) = readDigits n rest := by
  induction digits using List.reverseRecOn generalizing n rest with
  | nil => rw [eq_zero_of_spells_nil spelled, List.nil_append]
  | append_singleton digits c ih =>
    obtain ⟨m, d, before, digit, rfl⟩ := spells_snoc_iff.mp spelled
    rw [List.append_assoc, ih before (by omega), List.singleton_append, readDigits,
      digitValue_eq_place, digit]
    exact if_pos small

/-- Scanning stops at a character that is no digit. -/
theorem readDigits_of_foreign {c : Char} (no_digit : place c = none) (n : Nat)
    (after : List Char) : readDigits n (c :: after) = .error .invalidDigit := by
  rw [readDigits, digitValue_eq_place, no_digit]

/-- Scanning stops at a digit with which the value does not fit. -/
theorem readDigits_of_large {c : Char} {n d : Nat} (digit : place c = some d)
    (beyond : 0x100000000 ≤ n * 16 + d) (after : List Char) :
    readDigits n (c :: after) = .error .tooLarge := by
  rw [readDigits, digitValue_eq_place, digit]
  exact if_neg (Nat.not_lt.mpr beyond)

/-! ## Marks and signs -/

theorem afterMark_eq_unmarked (text : List Char) : afterMark text = unmarked text := by
  rw [unmarked]
  split
  · rename_i begins
    obtain ⟨rest, rfl⟩ := begins
    rfl
  · rename_i lower
    split
    · rename_i begins
      obtain ⟨rest, rfl⟩ := begins
      rfl
    · rename_i upper
      rw [afterMark]
      · exact fun rest same => lower ⟨rest, same.symm⟩
      · exact fun rest same => upper ⟨rest, same.symm⟩

/-- Where something stands behind the sign, digits are scanned. -/
theorem readUnmarked_eq {text : List Char} (something : unsigned text ≠ []) :
    readUnmarked text = readDigits 0 (unsigned text) := by
  rw [unsigned] at something ⊢
  split at something
  · rename_i begins
    obtain ⟨rest, rfl⟩ := begins
    rw [if_pos (List.prefix_append _ _)]
    rw [List.singleton_append, readUnmarked]
    · rfl
    · exact something
  · rename_i unsigned_text
    rw [if_neg unsigned_text, readUnmarked]
    · exact something
    · exact fun same => unsigned_text ⟨[], same.symm⟩
    · exact fun rest same => unsigned_text ⟨rest, same.symm⟩

/-- A text is empty without its sign only if it has nothing else. -/
theorem eq_of_unsigned_eq_nil {text : List Char} (nothing : unsigned text = []) :
    text = [] ∨ text = ['+'] := by
  rw [unsigned] at nothing
  split at nothing
  · rename_i begins
    obtain ⟨rest, rfl⟩ := begins
    obtain rfl : rest = [] := nothing
    exact .inr rfl
  · exact .inl nothing

/-- Without a mark, only digits stand behind the sign: nothing is taken for a mark or for one more
sign, since neither has an `x` or a plus sign among them. -/
theorem unmarked_unsigned_of_digits {digits sign : List Char} (known : ∀ c ∈ digits, place c ≠ none)
    (allowed : sign ∈ [[], ['+']]) :
    unmarked (sign ++ digits) = sign ++ digits ∧ unsigned (sign ++ digits) = digits := by
  have unmarked_digits : ∀ x ∈ ['x', 'X'], ¬ ['0', x] <+: digits := by
    rintro x letter ⟨rest, rfl⟩
    have no_place : ['x', 'X'].all (fun x => (place x).isNone) = true := by decide +kernel
    exact known x (by simp) (Option.isNone_iff_eq_none.mp (List.all_eq_true.mp no_place x letter))
  have unsigned_digits : ¬ ['+'] <+: digits := by
    rintro ⟨rest, rfl⟩
    exact known '+' (by simp) (by decide)
  rw [unmarked, unsigned]
  rcases List.mem_pair.mp allowed with rfl | rfl
  · rw [List.nil_append, if_neg (unmarked_digits 'x' (by decide)),
      if_neg (unmarked_digits 'X' (by decide)), if_neg unsigned_digits]
    exact ⟨rfl, rfl⟩
  · rw [if_neg (by simp), if_neg (by simp), if_pos (List.prefix_append _ _)]
    exact ⟨rfl, rfl⟩

/-! ## Whole texts -/

/-- The numeral of a text is read. -/
theorem readHex_of_numeral {text : String} {v : UInt32}
    (numeral : Numeral (unsigned (unmarked text.toList)) v.toNat) : readHex text = .ok v := by
  have scanned := readDigits_of_spells numeral.spelled numeral.small []
  rw [List.append_nil] at scanned
  rw [readHex, afterMark_eq_unmarked, readUnmarked_eq numeral.nonempty, scanned, readDigits]
  exact congrArg Except.ok UInt32.ofNat_toNat

/-- A numeral is read behind any mark and any sign, and without them. -/
theorem readHex_of_spelling {mark sign : String} {digits : List Char} {v : UInt32}
    (marked : mark ∈ ["", "0x", "0X"]) (signed : sign ∈ ["", "+"])
    (numeral : Numeral digits v.toNat) : readHex (mark ++ sign ++ String.ofList digits) = .ok v := by
  have known : ∀ c ∈ digits, place c ≠ none := numeral.spelled.place_ne_none
  have signed' : sign.toList ∈ [[], ['+']] := by
    rcases List.mem_pair.mp signed with rfl | rfl <;> decide
  obtain ⟨no_mark, no_sign⟩ := unmarked_unsigned_of_digits known signed'
  have behind_mark : unmarked (mark.toList ++ (sign.toList ++ digits)) = sign.toList ++ digits := by
    simp only [List.mem_cons, List.not_mem_nil, or_false] at marked
    rcases marked with rfl | rfl | rfl
    · exact no_mark
    · rfl
    · rfl
  apply readHex_of_numeral
  rw [String.toList_append, String.toList_append, String.toList_ofList, List.append_assoc,
    behind_mark, no_sign]
  exact numeral

theorem spells_toDigits (n : Nat) : Spells (Nat.toDigits 16 n) n := by
  have one_digit : ∀ d < 16, place (Nat.digitChar d) = some d := by decide
  induction n using Nat.strongRecOn with
  | ind n ih =>
    rw [Nat.toDigits_eq_if (by decide)]
    split
    · rename_i below
      exact spells_snoc_iff.mpr ⟨0, n, spells_nil, one_digit n below, by omega⟩
    · rename_i above
      exact spells_snoc_iff.mpr
        ⟨n / 16, n % 16, ih (n / 16) (by omega), one_digit _ (by omega), by omega⟩

/-- A number that is written in hexadecimal is read as itself. -/
theorem readHex_hex (v : UInt32) : readHex (Text.hex v.toNat) = .ok v := by
  have numeral : Numeral (Nat.toDigits 16 v.toNat) v.toNat := by
    refine ⟨?_, spells_toDigits _, v.toNat_lt⟩
    exact Nat.toDigits_ne_nil
  have read : readHex ("" ++ "" ++ Text.hex v.toNat) = .ok v :=
    readHex_of_spelling (by decide) (by decide) numeral
  rwa [String.empty_append, String.empty_append] at read

/-- What is no numeral is refused, for the first thing that is wrong with it. -/
theorem parseHex_of_noNumeral {text reason : String}
    (refused : NoNumeral (unmarked text.toList) reason) :
    parseHex text = .error ("invalid hex value '" ++ text ++ "': " ++ reason) := by
  have in_words : ∀ mistake, readUnmarked (unmarked text.toList) = .error mistake →
      parseHex text = .error ("invalid hex value '" ++ text ++ "': " ++ mistake.message) := by
    intro mistake failed
    rw [parseHex, readHex, afterMark_eq_unmarked, failed]
    rfl
  cases refused with
  | empty nothing => exact in_words .empty (by rw [nothing, readUnmarked])
  | signOnly sign => exact in_words .invalidDigit (by rw [sign, readUnmarked])
  | foreign found read small no_digit =>
    refine in_words .invalidDigit ?_
    rw [readUnmarked_eq (by simp [found]), found, readDigits_of_spells read small,
      readDigits_of_foreign no_digit]
  | large found read small grown beyond =>
    refine in_words .tooLarge ?_
    obtain ⟨n, d, before, digit, rfl⟩ := spells_snoc_iff.mp grown
    obtain rfl := before.unique read
    rw [readUnmarked_eq (by simp [found]), found, readDigits_of_spells read small,
      readDigits_of_large digit beyond]

/-- A text either is a numeral, behind its mark and its sign, or there is something wrong with it. -/
theorem numeral_or_not (text : List Char) :
    (∃ v : UInt32, Numeral (unsigned text) v.toNat) ∨ ∃ reason, NoNumeral text reason := by
  by_cases nothing : unsigned text = []
  · rcases eq_of_unsigned_eq_nil nothing with rfl | rfl
    · exact .inr ⟨_, .empty rfl⟩
    · exact .inr ⟨_, .signOnly rfl⟩
  · rcases spells_or_stops (unsigned text) with ⟨n, spelled, small⟩ |
      ⟨before, c, after, n, found, read, small, no_digit | ⟨m, grown, beyond⟩⟩
    · refine .inl ⟨UInt32.ofNat n, ?_⟩
      rw [UInt32.toNat_ofNat', Nat.mod_eq_of_lt small]
      exact ⟨nothing, spelled, small⟩
    · exact .inr ⟨_, .foreign found read small no_digit⟩
    · exact .inr ⟨_, .large found read small grown beyond⟩

/-- **Hexadecimal texts are read exactly.** Of any text, whatever its length:

* it is read as a number if and only if what stands behind its mark and its sign, either of which
  may be missing, is a numeral with this value;
* otherwise it is refused, and the refusal names the first thing that is wrong with it and nothing
  else.

So every spelling of a 32-bit number is read as that number: with either mark or none, with a plus
sign or none, in digits of either case, and with any number of leading zeros. -/
theorem parseHex_classifies :
    (∀ (text : String) (v : UInt32),
      parseHex text = .ok v ↔ Numeral (unsigned (unmarked text.toList)) v.toNat) ∧
    (∀ text message : String, parseHex text = .error message ↔
      ∃ reason, NoNumeral (unmarked text.toList) reason ∧
        message = "invalid hex value '" ++ text ++ "': " ++ reason) ∧
    ∀ mark ∈ ["", "0x", "0X"], ∀ sign ∈ ["", "+"], ∀ (digits : List Char) (v : UInt32),
      Numeral digits v.toNat → parseHex (mark ++ sign ++ String.ofList digits) = .ok v := by
  have read : ∀ {text : String} {v : UInt32}, readHex text = .ok v → parseHex text = .ok v :=
    fun found => by rw [parseHex, found]; rfl
  have settled : ∀ text : String,
      (∀ v, parseHex text = .ok v ↔ Numeral (unsigned (unmarked text.toList)) v.toNat) ∧
      ∀ message, parseHex text = .error message ↔
        ∃ reason, NoNumeral (unmarked text.toList) reason ∧
          message = "invalid hex value '" ++ text ++ "': " ++ reason := by
    intro text
    apply Traced.outcome_iff_of_settled
    · rcases numeral_or_not (unmarked text.toList) with numeral | ⟨reason, refused⟩
      · exact .inl numeral
      · exact .inr ⟨_, reason, refused, rfl⟩
    · exact fun v numeral => read (readHex_of_numeral numeral)
    · rintro message ⟨reason, refused, rfl⟩
      exact parseHex_of_noNumeral refused
  exact ⟨fun text => (settled text).1, fun text => (settled text).2,
    fun mark marked sign signed digits v numeral => read (readHex_of_spelling marked signed numeral)⟩

/-- A spelling with the other mark, a sign, leading zeros and both cases, and a text in which the
number becomes too large before a character that is no digit. -/
theorem parseHex_classifies_mixed :
    Numeral "00fFfFfFf1".toList 0xfffffff1 ∧ parseHex "0X+00fFfFfFf1" = .ok 0xfffffff1 ∧
      NoNumeral "100000000g".toList "number too large to fit in target type" ∧
      parseHex "0x100000000g" = .error
        "invalid hex value '0x100000000g': number too large to fit in target type" := by
  obtain ⟨-, refusals, spellings⟩ := parseHex_classifies
  have numeral : Numeral "00fFfFfFf1".toList 0xfffffff1 :=
    ⟨by decide, ⟨[0, 0, 15, 15, 15, 15, 15, 15, 15, 1], by decide +kernel, by decide +kernel⟩,
      by decide⟩
  have eight : Spells "10000000".toList 0x10000000 :=
    ⟨[1, 0, 0, 0, 0, 0, 0, 0], by decide +kernel, by decide +kernel⟩
  have nine : Spells ("10000000".toList ++ ['0']) 0x100000000 :=
    ⟨[1, 0, 0, 0, 0, 0, 0, 0, 0], by decide +kernel, by decide +kernel⟩
  have found : unsigned "100000000g".toList = "10000000".toList ++ '0' :: ['g'] := by
    decide +kernel
  have refused : NoNumeral "100000000g".toList "number too large to fit in target type" :=
    .large found eight (by decide) nine (by decide)
  have spelled : "0X" ++ "+" ++ String.ofList "00fFfFfFf1".toList = "0X+00fFfFfFf1" := by
    decide +kernel
  have behind : unmarked "0x100000000g".toList = "100000000g".toList := by decide +kernel
  refine ⟨numeral, ?_, refused, (refusals "0x100000000g" _).mpr ⟨_, behind ▸ refused, ?_⟩⟩
  · rw [← spelled]
    exact spellings "0X" (by decide) "+" (by decide) _ 0xfffffff1 numeral
  · decide +kernel

end BootRom.Command

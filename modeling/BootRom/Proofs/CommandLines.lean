import BootRom.Proofs.Numerals
import BootRom.Proofs.Spellings

/-!
# What command lines are read as

A command line is read as the options that its requests come to (`parse_eq_ok_iff`). Those are
known from the requests alone: `Asks` says which requests ask for which options, and they come to
these (`Asks.holds`) and to no others (`asks_of_holds`).

`parse_spelled` is the result: neither order nor spelling matters, every command line that is read
asks for something, and it can be written again from what it was read as.
-/

namespace BootRom.Command

/-! ## Command lines -/

variable {o : Options} {k : Nat} {selection : Selection} {rom : Option String}
  {asked : List Request} {line : List String}

/-- A command line is read exactly if it spells requests that come to options. -/
theorem parse_eq_ok_iff : Options.parse line = .ok o ↔
    ∃ (asked : List Request) (d : Draft), Spelled none asked line ∧ d.Holds asked ∧
      d.finish = .ok o := by
  have steps : Options.parse line = (Draft.empty.takeAll line >>= Draft.finish) := by
    unfold Options.parse
    cases Draft.empty.takeAll line <;> rfl
  have taken (d : Draft) : (Draft.empty.awaiting none).takeAll line = .ok d ↔
      ∃ asked, Spelled none asked line ∧ d.Holds asked :=
    Draft.takeAll_eq_ok_iff Draft.holds_empty
  rw [Draft.awaiting] at taken
  rw [steps, bind_eq_ok]
  simp only [taken]
  constructor
  · rintro ⟨d, ⟨asked, spelled, held⟩, done⟩
    exact ⟨asked, d, spelled, held, done⟩
  · rintro ⟨asked, d, spelled, held, done⟩
    exact ⟨d, ⟨asked, spelled, held⟩, done⟩

/-- What a draft comes to in the end. -/
theorem finish_eq_ok_iff {d : Draft} : d.finish = .ok o ↔
    (d.list = true ∨ d.read.isSome) ∧ o = ⟨d.verbose, ⟨d.list, d.read, d.fileType⟩, d.rom⟩ := by
  rw [Draft.finish, ← Bool.or_eq_true]
  by_cases asks : (d.list || d.read.isSome) = true
  · simp only [asks, if_true, true_and, Except.ok.injEq, eq_comm]
  · simp only [asks, if_false, false_and, reduceCtorEq]

/-- Requests for reports, for a list and for values, in one order. -/
def requestsFor (k : Nat) (list : Bool) (read typeText rom : Option String) : List Request :=
  List.replicate k .verbose ++ (if list then [.list] else []) ++
    (read.map (.value .read ·)).toList ++ (typeText.map (.value .fileType ·)).toList ++
    (rom.map (.value .rom ·)).toList

theorem count_verbose (k : Nat) (list : Bool) (read typeText rom : Option String) :
    (requestsFor k list read typeText rom).count .verbose = k := by
  cases list <;> cases read <;> cases typeText <;> cases rom <;> simp [requestsFor]

theorem count_list (k : Nat) (list : Bool) (read typeText rom : Option String) :
    (requestsFor k list read typeText rom).count .list = list.toNat := by
  cases list <;> cases read <;> cases typeText <;> cases rom <;>
    simp [requestsFor, List.count_replicate]

theorem texts_replicate_verbose (s : Setting) (k : Nat) :
    texts s (List.replicate k .verbose) = [] := by
  rw [texts, List.filterMap_replicate]
  rfl

theorem texts_values (s s' : Setting) (value : Option String) :
    texts s (value.map (.value s' ·)).toList = if s' = s then value.toList else [] := by
  cases value with
  | none => exact (ite_self _).symm
  | some text =>
    rw [Option.map_some, Option.toList_some, texts_singleton, Request.textFor]
    split <;> rfl

theorem texts_requestsFor (k : Nat) (list : Bool) (read typeText rom : Option String) (s : Setting) :
    texts s (requestsFor k list read typeText rom) =
      match s with
      | .read => read.toList
      | .fileType => typeText.toList
      | .rom => rom.toList := by
  have no_text : texts s (if list then [.list] else []) = [] := by
    cases list <;> rfl
  simp only [requestsFor, texts_append, texts_replicate_verbose, no_text, texts_values]
  cases s <;> simp

/-- Requests ask for so many reports, for what is wanted of a table and for an image, in any order:
each value is given once, and the type by any numeral for it. -/
def Asks (asked : List Request) (k : Nat) (selection : Selection) (rom : Option String) : Prop :=
  ∃ typeText : Option String, typeText.map readHex = selection.fileType.map .ok ∧
    asked.Perm (requestsFor k selection.list selection.read typeText rom)

/-- What such requests come to. -/
theorem Asks.holds (asks : Asks asked k selection rom) (path : rom ≠ some "") :
    Draft.Holds ⟨UInt8.ofNat (min k 255), selection.list, selection.read, selection.fileType, rom,
      none⟩ asked := by
  obtain ⟨typeText, numeral, perm⟩ := asks
  refine Draft.Holds.perm ⟨rfl, ?_, count_list .., fun s => ?_⟩ perm.symm
  · rw [count_verbose, UInt8.toNat_ofNat']
    omega
  · rw [texts_requestsFor]
    cases s with
    | read => rfl
    | fileType =>
      have same : typeText.toList.map readHex = selection.fileType.toList.map .ok := by
        rw [← Option.toList_map, ← Option.toList_map, numeral]
      exact same
    | rom => exact ⟨rfl, by simpa [eq_comm] using path⟩

theorem count_value (s : Setting) (text : String) (asked : List Request) :
    asked.count (.value s text) = (texts s asked).count text := by
  induction asked with
  | nil => rfl
  | cons r asked ih =>
    have texts_cons : texts s (r :: asked) = (r.textFor s).toList ++ texts s asked := by
      rw [← texts_singleton, ← texts_append, List.singleton_append]
    rw [List.count_cons, ih, texts_cons, List.count_append, Nat.add_comm]
    congr 1
    cases r with
    | verbose => rfl
    | list => rfl
    | value s' text' =>
      by_cases same : s' = s
      · simp [Request.textFor, same, List.count_singleton]
      · simp [Request.textFor, same]

/-- What comes to something asks for it. -/
theorem asks_of_holds {d : Draft} (held : d.Holds asked) :
    Asks asked (asked.count .verbose) ⟨d.list, d.read, d.fileType⟩ d.rom := by
  have typed : (texts .fileType asked).map readHex = d.fileType.toList.map .ok :=
    held.filled .fileType
  obtain ⟨typeText, text_eq, numeral⟩ : ∃ typeText : Option String,
      texts .fileType asked = typeText.toList ∧ typeText.map readHex = d.fileType.map .ok := by
    rcases set : d.fileType with _ | t <;> rw [set] at typed
    · exact ⟨none, List.map_eq_nil_iff.mp typed, rfl⟩
    · obtain ⟨text, text_eq, numeral⟩ := List.map_eq_singleton_iff.mp typed
      exact ⟨some text, text_eq, congrArg some numeral⟩
  refine ⟨typeText, numeral, List.perm_iff_count.mpr fun r => ?_⟩
  cases r with
  | verbose => rw [count_verbose]
  | list => rw [count_list, held.listed]
  | value s text =>
    rw [count_value, count_value, texts_requestsFor]
    cases s with
    | read => rw [show texts .read asked = _ from held.filled .read]
    | fileType => rw [text_eq]
    | rom => rw [(held.filled .rom).1]

/-! ## Writing a command line -/

/-- The way in which a request is written where there is no reason for another. -/
def Request.argument : Request → String
  | .verbose => "-v"
  | .list => "--list"
  | .value s text => s.name ++ "=" ++ text

theorem argument_argument (r : Request) : Argument [r] none r.argument := by
  cases r with
  | verbose => exact .letters (.verbose .nil) (List.cons_ne_nil _ _)
  | list => exact .list
  | value s text => exact .joined s text

/-- Requests that are written one by one are spelled. -/
theorem spelled_arguments (asked : List Request) :
    Spelled none asked (asked.map Request.argument) := by
  induction asked with
  | nil => exact .nil
  | cons r asked ih => exact .option (argument_argument r) ih

/-- Options are written by requests for them. -/
theorem arguments_eq (o : Options) : o.arguments =
    (requestsFor o.verbose.toNat o.selection.list o.selection.read
      (o.selection.fileType.map fun t => Text.hex t.toNat) o.rom).map Request.argument := by
  obtain ⟨verbose, ⟨list, read, fileType⟩, rom⟩ := o
  cases list <;> cases read <;> cases fileType <;> cases rom <;>
    simp [Options.arguments, requestsFor, Request.argument, Setting.name]

/-- Options are asked for by the command line that is written for them. -/
theorem exists_asks_arguments (o : Options) :
    ∃ asked, Asks asked o.verbose.toNat o.selection o.rom ∧ Spelled none asked o.arguments := by
  have numeral : (o.selection.fileType.map fun t => Text.hex t.toNat).map readHex =
      o.selection.fileType.map .ok := by
    rw [Option.map_map]
    exact Option.map_congr fun t _ => readHex_hex t
  exact ⟨_, ⟨_, numeral, .refl _⟩, arguments_eq o ▸ spelled_arguments _⟩

/-- **Neither order nor spelling of a command line matters, and what is read can be written.**

* Some requests for more reports, a list if it is wanted, and the values of some options once each,
  with a list or a file asked for, are read as just that: in every order, and however they are
  spelled. Requests for more reports are counted up to 255.
* Nothing else is read. What a command line is read as asks for a list or a file, counts no further
  than that, and can be written as a command line again that is read as the same. -/
theorem parse_spelled :
    (∀ (k : Nat) (selection : Selection) (rom : Option String) (asked : List Request)
        (line : List String),
      (selection.list = true ∨ selection.read.isSome) → rom ≠ some "" →
      Asks asked k selection rom → Spelled none asked line →
      Options.parse line = .ok ⟨UInt8.ofNat (min k 255), selection, rom⟩) ∧
    ∀ (line : List String) (o : Options), Options.parse line = .ok o →
      (∃ (k : Nat) (asked : List Request), o.verbose.toNat = min k 255 ∧
        Asks asked k o.selection o.rom ∧ Spelled none asked line) ∧
      (o.selection.list = true ∨ o.selection.read.isSome) ∧ o.rom ≠ some "" ∧
      o.verbose.toNat ≤ 255 ∧ Options.parse o.arguments = .ok o := by
  have reads : ∀ (k : Nat) (selection : Selection) (rom : Option String) (asked : List Request)
      (line : List String), (selection.list = true ∨ selection.read.isSome) → rom ≠ some "" →
      Asks asked k selection rom → Spelled none asked line →
      Options.parse line = .ok ⟨UInt8.ofNat (min k 255), selection, rom⟩ := by
    intro k selection rom asked line something path asks spelled
    exact parse_eq_ok_iff.mpr
      ⟨asked, _, spelled, asks.holds path, finish_eq_ok_iff.mpr ⟨something, rfl⟩⟩
  refine ⟨reads, fun line o read => ?_⟩
  obtain ⟨asked, d, spelled, held, done⟩ := parse_eq_ok_iff.mp read
  obtain ⟨something, rfl⟩ := finish_eq_ok_iff.mp done
  have path : d.rom ≠ some "" := by
    obtain ⟨same, no_empty⟩ := held.filled .rom
    intro empty
    rw [same, empty] at no_empty
    exact no_empty (List.mem_singleton_self _)
  have bound : d.verbose.toNat ≤ 255 := Nat.le_of_lt_succ d.verbose.toNat_lt
  refine ⟨⟨_, asked, held.counted, asks_of_holds held, spelled⟩, something, path, bound, ?_⟩
  obtain ⟨asked', asks', spelled'⟩ :=
    exists_asks_arguments ⟨d.verbose, ⟨d.list, d.read, d.fileType⟩, d.rom⟩
  have verbose_eq : UInt8.ofNat (min d.verbose.toNat 255) = d.verbose := by
    rw [min_eq_left bound, UInt8.ofNat_toNat]
  rw [reads _ _ _ _ _ something path asks' spelled', verbose_eq]

/-- Bundled letters whose last one takes the next argument, a path with an equals sign, and a name
that looks like a flag. -/
theorem parse_spelled_mixed :
    Options.parse ["-vlt", "0X+010", "--rom=a=b", "-r=--list", "--verbose"] =
        .ok ⟨2, ⟨true, some "--list", some 16⟩, some "a=b"⟩ ∧
      Options.parse ["-v", "-v", "--list", "--read=--list", "--type=10", "--rom=a=b"] =
        .ok ⟨2, ⟨true, some "--list", some 16⟩, some "a=b"⟩ := by
  obtain ⟨reads, again⟩ := parse_spelled
  have letters : Argument [.verbose, .list] (some .fileType) "-vlt" :=
    .letters (.verbose (.list (.last .fileType))) (List.cons_ne_nil _ _)
  have path : Argument [.value .rom "a=b"] none "--rom=a=b" := .joined .rom "a=b"
  have file : Argument [.value .read "--list"] none "-r=--list" :=
    .letters (.joined .read "--list".toList) (List.cons_ne_nil _ _)
  have spelled : Spelled none [.verbose, .list, .value .fileType "0X+010", .value .rom "a=b",
      .value .read "--list", .verbose] ["-vlt", "0X+010", "--rom=a=b", "-r=--list", "--verbose"] :=
    .option letters (.value (.inl (by decide)) (.option path (.option file (.option .verbose .nil))))
  have asks : Asks [.verbose, .list, .value .fileType "0X+010", .value .rom "a=b",
      .value .read "--list", .verbose] 2 ⟨true, some "--list", some 16⟩ (some "a=b") :=
    ⟨some "0X+010", by decide +kernel, by decide +kernel⟩
  have read := reads 2 _ _ _ _ (.inl rfl) (by decide) asks spelled
  exact ⟨read, (again _ _ read).2.2.2.2⟩

end BootRom.Command

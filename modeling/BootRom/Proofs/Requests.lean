import BootRom.Command.Options.Parser
import Mathlib.Data.List.Basic

/-!
# What a command line asks for

A command line makes requests, one after the other: for more reports, for a list, or for a value
of some option. Here is what a row of requests comes to, without regard to how they are written.

* `Draft.Holds` says that a draft of the options is what a row of requests comes to. There is
  at most one such draft (`Draft.Holds.unique`).
* `Draft.take` takes in one more request. It succeeds exactly if the longer row comes to something
  (`Draft.Holds.take`, `Draft.Holds.not_of_refused`), and then leaves what it comes to.
* `Draft.Holds.perm`: the order of requests does not matter.
-/

namespace BootRom.Command

/-! ## Requests -/

/-- One thing that a command line asks for. -/
inductive Request
  /-- more reports -/
  | verbose
  /-- the names -/
  | list
  /-- a value for an option -/
  | value (s : Setting) (text : String)
  deriving DecidableEq, Repr

/-- The value that a request gives an option. -/
def Request.textFor (s : Setting) : Request → Option String
  | .value s' text => if s' = s then some text else none
  | _ => none

/-- The values that requests give an option, in order. -/
def texts (s : Setting) (asked : List Request) : List String := asked.filterMap (Request.textFor s)

@[simp] theorem texts_append (s : Setting) (asked more : List Request) :
    texts s (asked ++ more) = texts s asked ++ texts s more :=
  List.filterMap_append

@[simp] theorem texts_singleton (s : Setting) (r : Request) :
    texts s [r] = (r.textFor s).toList := by
  cases h : r.textFor s <;> simp [texts, h]

namespace Draft

/-! ## What requests come to -/

/-- The values that an option is given leave what a draft has for it: there is one of them, or none
and then the option is left out; a type is given by a numeral, and an image by a path. -/
def Filled (d : Draft) (values : List String) : Setting → Prop
  | .read => values = d.read.toList
  | .fileType => values.map readHex = d.fileType.toList.map .ok
  | .rom => values = d.rom.toList ∧ "" ∉ values

/-- A draft is what requests come to. -/
structure Holds (d : Draft) (asked : List Request) : Prop where
  /-- no option waits for its value -/
  settled : d.waiting = none
  /-- requests for more reports are counted, up to what can be counted -/
  counted : d.verbose.toNat = min (asked.count .verbose) 255
  /-- a list is asked for once, or not at all -/
  listed : asked.count .list = d.list.toNat
  /-- each other option has what it is given -/
  filled : ∀ s, d.Filled (texts s asked) s

theorem holds_empty : Draft.empty.Holds [] := by
  refine ⟨rfl, rfl, rfl, fun s => ?_⟩
  cases s with
  | read => rfl
  | fileType => rfl
  | rom => exact ⟨rfl, List.not_mem_nil⟩

variable {d d' : Draft} {asked asked' more : List Request} {r : Request} {s s' : Setting}
  {text : String} {values : List String} {e : UsageError}

theorem toList_injective {α : Type} {o o' : Option α} (same : o.toList = o'.toList) : o = o' := by
  rw [← o.head?_toList, ← o'.head?_toList, same]

/-- Requests come to one thing only. -/
theorem Holds.unique (first : d.Holds asked) (second : d'.Holds asked) : d = d' := by
  have verbose : d.verbose = d'.verbose :=
    UInt8.toNat_inj.mp (first.counted.trans second.counted.symm)
  have list : d.list = d'.list := by
    rw [Bool.eq_iff_iff, ← Bool.toNat_eq_one, ← Bool.toNat_eq_one, ← first.listed, second.listed]
  have read : d.read = d'.read :=
    toList_injective ((first.filled .read).symm.trans (second.filled .read))
  have fileType : d.fileType = d'.fileType := by
    have same := (first.filled .fileType).symm.trans (second.filled .fileType)
    exact toList_injective (List.map_injective_iff.mpr (fun _ _ => Except.ok.inj) same)
  have rom : d.rom = d'.rom :=
    toList_injective ((first.filled .rom).1.symm.trans (second.filled .rom).1)
  have waiting : d.waiting = d'.waiting := first.settled.trans second.settled.symm
  cases d; cases d'
  simp_all

/-- A list that has at most one element has only one order. -/
theorem eq_toList_of_perm {α : Type} {l : List α} {o : Option α} (perm : l.Perm o.toList) :
    l = o.toList := by
  rcases o with _ | a
  · exact perm.eq_nil
  · exact perm.eq_singleton

/-- The order of requests does not matter. -/
theorem Holds.perm (held : d.Holds asked) (perm : asked.Perm asked') : d.Holds asked' := by
  refine ⟨held.settled, perm.count_eq _ ▸ held.counted, perm.count_eq _ ▸ held.listed,
    fun s => ?_⟩
  have same_texts : (texts s asked').Perm (texts s asked) := (perm.filterMap _).symm
  have filled := held.filled s
  cases s with
  | read => exact eq_toList_of_perm (filled ▸ same_texts)
  | fileType =>
    have typed := same_texts.map readHex
    rw [show (texts .fileType asked).map readHex = _ from filled, ← Option.toList_map] at typed
    exact (eq_toList_of_perm typed).trans Option.toList_map
  | rom =>
    exact ⟨eq_toList_of_perm (filled.1 ▸ same_texts), fun empty => filled.2 (same_texts.mem_iff.mp empty)⟩

/-! ## One more request -/

/-- Take in one more request. -/
def take (d : Draft) : Request → Except UsageError Draft
  | .verbose => d.flip .verbose
  | .list => d.flip .list
  | .value s text => d.store s text

theorem settle_of_settled (settled : d.waiting = none) : d.settle = .ok d := by
  rw [settle, settled]

/-- Counting goes on by one, and stops at the end. -/
theorem toNat_counted (n : UInt8) :
    (if n = 255 then 255 else n + 1 : UInt8).toNat = min (n.toNat + 1) 255 := by
  have bound := n.toNat_lt
  split
  · rename_i last
    rw [last]
    rfl
  · rename_i earlier
    have earlier_nat : n.toNat ≠ 255 := fun same => earlier (UInt8.toNat_inj.mp same)
    have one : (1 : UInt8).toNat = 1 := rfl
    rw [UInt8.toNat_add]
    omega

/-- What it takes to store a value, and what has changed then. -/
theorem store_eq_ok_iff : d.store s text = .ok d' ↔
    match s with
    | .read => d.read = none ∧ d' = { d with read := some text }
    | .fileType => d.fileType = none ∧ ∃ t, readHex text = .ok t ∧ d' = { d with fileType := some t }
    | .rom => d.rom = none ∧ text ≠ "" ∧ d' = { d with rom := some text } := by
  cases s with
  | read =>
    rcases unset : d.read with _ | v
    · simp [store, unset, eq_comm]
    · simp [store, unset]
  | fileType =>
    rcases unset : d.fileType with _ | v
    · rcases numeral : parseHex text with reason | t
      · simp [store, unset, numeral, ← parseHex_eq_ok_iff]
      · simp [store, unset, numeral, parseHex_eq_ok_iff.mp numeral, eq_comm]
    · simp [store, unset]
  | rom =>
    rcases unset : d.rom with _ | v
    · by_cases empty : text = ""
      · simp [store, unset, empty]
      · simp [store, unset, empty, eq_comm]
    · simp [store, unset]

/-- Storing a value for one option touches nothing else. -/
theorem store_keeps (stored : d.store s text = .ok d') :
    d'.waiting = d.waiting ∧ d'.verbose = d.verbose ∧ d'.list = d.list ∧
      ∀ s', s' ≠ s → ∀ values, d.Filled values s' → d'.Filled values s' := by
  have changed := store_eq_ok_iff.mp stored
  cases s with
  | read =>
    obtain ⟨-, rfl⟩ := changed
    refine ⟨rfl, rfl, rfl, fun s' other values filled => ?_⟩
    cases s' <;> first | exact filled | exact absurd rfl other
  | fileType =>
    obtain ⟨-, t, -, rfl⟩ := changed
    refine ⟨rfl, rfl, rfl, fun s' other values filled => ?_⟩
    cases s' <;> first | exact filled | exact absurd rfl other
  | rom =>
    obtain ⟨-, -, rfl⟩ := changed
    refine ⟨rfl, rfl, rfl, fun s' other values filled => ?_⟩
    cases s' <;> first | exact filled | exact absurd rfl other

/-- A value that is stored is the one that the option is given. -/
theorem Filled.store (filled : d.Filled values s) (stored : d.store s text = .ok d') :
    d'.Filled (values ++ [text]) s := by
  have changed := store_eq_ok_iff.mp stored
  cases s with
  | read =>
    obtain ⟨unset, rfl⟩ := changed
    have filled' : values = d.read.toList := filled
    rw [unset] at filled'
    rw [filled']
    rfl
  | fileType =>
    obtain ⟨unset, t, numeral, rfl⟩ := changed
    have filled' : values.map readHex = d.fileType.toList.map .ok := filled
    rw [unset] at filled'
    rw [List.map_eq_nil_iff.mp filled']
    exact congrArg (fun read => [read]) numeral
  | rom =>
    obtain ⟨unset, path, rfl⟩ := changed
    have filled' : values = d.rom.toList := filled.1
    rw [unset] at filled'
    rw [filled']
    exact ⟨rfl, fun empty => path (List.mem_singleton.mp empty).symm⟩

/-- After a value that is refused, nothing more makes the option what it is given. -/
theorem Filled.not_of_refused (filled : d.Filled values s) (refused : d.store s text = .error e)
    (later : List String) : ¬ d'.Filled (values ++ text :: later) s := by
  -- an option has at most one value
  have one_at_most : ∀ {α : Type} {o : Option α} {a b : α} {l : List α}, a :: b :: l ≠ o.toList :=
    fun {α o a b l} same => by cases o <;> cases same
  intro filled'
  cases s with
  | read =>
    have filled : values = d.read.toList := filled
    have filled' : values ++ text :: later = d'.read.toList := filled'
    rcases set : d.read with _ | v
    · simp [Draft.store, set] at refused
    · rw [filled, set] at filled'
      exact one_at_most filled'
  | fileType =>
    have filled : values.map readHex = d.fileType.toList.map .ok := filled
    have filled' : (values ++ text :: later).map readHex = d'.fileType.toList.map .ok := filled'
    rw [List.map_append, List.map_cons, filled, ← Option.toList_map, ← Option.toList_map]
      at filled'
    rcases set : d.fileType with _ | v
    · rcases numeral : readHex text with mistake | t
      · rw [set, numeral] at filled'
        rcases set' : d'.fileType with _ | v'
        · rw [set'] at filled'
          cases filled'
        · rw [set'] at filled'
          cases filled'
      · simp [Draft.store, set, parseHex_eq_ok_iff.mpr numeral] at refused
    · rw [set] at filled'
      exact one_at_most filled'
  | rom =>
    have filled : values = d.rom.toList := filled.1
    obtain ⟨filled', path⟩ : values ++ text :: later = d'.rom.toList ∧ "" ∉ values ++ text :: later :=
      filled'
    rcases set : d.rom with _ | v
    · by_cases empty : text = ""
      · exact path (by simp [empty])
      · simp [Draft.store, set, empty] at refused
    · rw [filled, set] at filled'
      exact one_at_most filled'

/-- A request that is taken in belongs to what the draft comes to. -/
theorem Holds.take (held : d.Holds asked) (taken : d.take r = .ok d') :
    d'.Holds (asked ++ [r]) := by
  cases r with
  | verbose =>
    rw [Draft.take, flip, settle_of_settled held.settled] at taken
    obtain rfl := Except.ok.inj taken
    refine ⟨held.settled, ?_, by simpa using held.listed, fun s => ?_⟩
    · rw [toNat_counted, List.count_append, List.count_singleton_self, held.counted]
      omega
    · rw [texts_append, texts_singleton]
      exact (List.append_nil _).symm ▸ held.filled s
  | list =>
    rw [Draft.take, flip, settle_of_settled held.settled] at taken
    dsimp only at taken
    split at taken
    · cases taken
    · rename_i unlisted
      obtain rfl := Except.ok.inj taken
      refine ⟨held.settled, by simpa using held.counted, ?_, fun s => ?_⟩
      · have off : d.list = false := by simpa using unlisted
        rw [List.count_append, List.count_singleton_self, held.listed, off]
        rfl
      · rw [texts_append, texts_singleton]
        exact (List.append_nil _).symm ▸ held.filled s
  | value s text =>
    obtain ⟨waiting_eq, verbose_eq, list_eq, kept⟩ := store_keeps taken
    refine ⟨waiting_eq.trans held.settled, ?_, ?_, fun s' => ?_⟩
    · rw [verbose_eq]
      simpa using held.counted
    · rw [list_eq]
      simpa using held.listed
    · rw [texts_append, texts_singleton, Request.textFor]
      by_cases same : s = s'
      · subst same
        rw [if_pos rfl]
        exact (held.filled s).store taken
      · rw [if_neg same, Option.toList_none, List.append_nil]
        exact kept s' (Ne.symm same) _ (held.filled s')

/-- After a request that is refused, nothing more makes the requests come to something. -/
theorem Holds.not_of_refused (held : d.Holds asked) (refused : d.take r = .error e)
    (more : List Request) : ¬ d'.Holds (asked ++ r :: more) := by
  intro held'
  cases r with
  | verbose =>
    rw [Draft.take, flip, settle_of_settled held.settled] at refused
    cases refused
  | list =>
    rw [Draft.take, flip, settle_of_settled held.settled] at refused
    dsimp only at refused
    split at refused
    · rename_i on
      -- a second request for a list is one too many
      have count := held'.listed
      have once := d'.list.toNat_le
      rw [List.count_append, List.count_cons_self, held.listed, on, Bool.toNat_true] at count
      omega
    · cases refused
  | value s text =>
    have filled' := held'.filled s
    rw [List.append_cons, texts_append, texts_append, texts_singleton, Request.textFor,
      if_pos rfl, List.append_assoc] at filled'
    exact (held.filled s).not_of_refused refused _ filled'

/-- A request that belongs to what comes to something is taken in. -/
theorem Holds.exists_take (held : d.Holds asked)
    (held' : d'.Holds (asked ++ r :: more)) :
    ∃ d'', d.take r = .ok d'' ∧ d''.Holds (asked ++ [r]) := by
  rcases taken : d.take r with e | d''
  · exact absurd held' (held.not_of_refused taken more)
  · exact ⟨d'', rfl, held.take taken⟩

end Draft

end BootRom.Command

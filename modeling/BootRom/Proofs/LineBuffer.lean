import BootRom.Output.StandardOutput
import BootRom.Proofs.Conversation
import Mathlib.Data.List.TakeWhile

/-!
# Standard output and its device

Behind a working device standard output never fails. Behind a refusing one it may
still take something, since it keeps what ends no line; but it refuses as soon as a
line is ended, and at the latest when it is asked to pass on what it keeps.

* `unfailing_onto_working` is the first half.
* `Stalled` is the state of the second half: the device refuses, and no line end is kept.
  `Absorbs` is what comes of writing to it then, and `play_absorbs` says so of every
  performance without a flush.
* `play_of_silent`: a performance that writes nothing is not cut short by any device.
* `Script.Closes.perform_refusing` and `Script.Breaks.perform_refusing`: a script that writes
  something fails on a refusing device, unless it breaks off within its first line.
-/

namespace BootRom.Output

namespace StandardOutput

variable {o : StandardOutput} {fault : IoFault} {offered : Bytes}

/-! ## Offers and their lines -/

/-- An offer without a line end has no finished lines. -/
theorem splitLines_of_notMem (unended : newline ∉ offered) :
    splitLines offered = ([], offered) := by
  have all : offered.reverse.takeWhile (· != newline) = offered.reverse := by
    rw [List.takeWhile_eq_self_iff]
    intro b found
    rw [bne_iff_ne]
    rintro rfl
    exact unended (List.mem_reverse.mp found)
  simp only [splitLines, all, List.length_reverse, Nat.sub_self, List.take_zero, List.drop_zero]

/-- An offer with a line end has some. -/
theorem splitLines_of_mem (ended : newline ∈ offered) : (splitLines offered).1 ≠ [] := by
  have shorter : (offered.reverse.takeWhile (· != newline)).length < offered.length := by
    by_contra whole
    have all := (List.takeWhile_prefix (l := offered.reverse) (· != newline)).eq_of_length_le
      (by rw [List.length_reverse]; omega)
    have unended := List.takeWhile_eq_self_iff.mp all newline (List.mem_reverse.mpr ended)
    rw [bne_self_eq_false] at unended
    cases unended
  rw [← List.length_pos_iff, splitLines, List.length_take]
  omega

/-! ## Passing on what is kept -/

theorem drain_of_kept_nil (empty : o.kept = []) : o.drain = .ok o := by
  rw [drain, empty]
  rfl

theorem drain_of_working (working : o.device = .working) :
    ∃ o', o.drain = .ok o' ∧ o'.device = .working := by
  rcases empty : o.kept with _ | ⟨b, rest⟩
  · exact ⟨o, drain_of_kept_nil empty, working⟩
  · exact ⟨{ o with kept := [] }, by rw [drain, empty, working]; rfl, working⟩

theorem drain_of_refusing (refusing : o.device = .refusing fault) (some_kept : o.kept ≠ []) :
    o.drain = .error fault := by
  obtain ⟨b, rest, kept_eq⟩ := List.exists_cons_of_ne_nil some_kept
  rw [drain, kept_eq, refusing]
  rfl

/-! ## Behind a working device -/

theorem keep_of_working (working : o.device = .working) (offered : Bytes) :
    ∃ o', o.keep offered = (.ok offered.length, o') ∧ o'.device = .working := by
  have room : ∃ o', (if offered.length > capacity - o.kept.length then o.drain else .ok o) =
      .ok o' ∧ o'.device = .working := by
    split
    · exact drain_of_working working
    · exact ⟨o, rfl, working⟩
  obtain ⟨o', made, working'⟩ := room
  rw [keep]
  split
  · exact ⟨_, rfl, working⟩
  · rw [made]
    dsimp only
    split
    · exact ⟨o', by rw [pass, working'], working'⟩
    · exact ⟨_, rfl, working'⟩

/-- Behind a working device something is taken of every offer. -/
theorem write_of_working (working : o.device = .working) (some_offered : offered ≠ []) :
    ∃ n o', o.write offered = (.ok n, o') ∧ 0 < n ∧ o'.device = .working := by
  rcases lines_eq : splitLines offered with ⟨_ | ⟨b, lines⟩, rest⟩
  · have drained : ∃ o', o.drainLine = .ok o' ∧ o'.device = .working := by
      rw [drainLine]
      split
      · exact drain_of_working working
      · exact ⟨o, rfl, working⟩
    obtain ⟨o₁, drained, working₁⟩ := drained
    obtain ⟨o₂, taken, working₂⟩ := keep_of_working working₁ offered
    exact ⟨_, o₂, by simp only [write, lines_eq, drained, taken],
      List.length_pos_iff.mpr some_offered, working₂⟩
  · obtain ⟨o', drained, working'⟩ := drain_of_working working
    have passed : o'.pass (b :: lines) = .ok (lines.length + 1) := by
      rw [pass, working']
      rfl
    simp only [write, lines_eq, drained, passed]
    split
    · exact ⟨_, o', rfl, Nat.succ_pos _, working'⟩
    · exact ⟨_, _, rfl, by omega, working'⟩

/-- Behind a working device standard output never fails. -/
theorem unfailing_onto_working : Unfailing (onto .working) := by
  refine ⟨fun v => v.device = .working, rfl, ?_, ?_⟩
  · intro v offered working some_offered
    exact write_of_working working some_offered
  · intro v working
    obtain ⟨v', drained, working'⟩ := drain_of_working working
    exact ⟨v', by simp only [Writer.flush, flush, drained], working'⟩

/-! ## Behind a refusing device -/

/-- Standard output that can only keep: its device refuses everything, and no line end is kept. -/
structure Stalled (o : StandardOutput) (fault : IoFault) : Prop where
  /-- what the device answers -/
  refusing : o.device = .refusing fault
  /-- no line is waiting to be passed on -/
  unended : newline ∉ o.kept

/-- Standard output when it has kept some more. -/
def keeping (o : StandardOutput) (more : Bytes) : StandardOutput :=
  { o with kept := o.kept ++ more }

@[simp] theorem keeping_nil (o : StandardOutput) : o.keeping [] = o := by
  simp [keeping]

theorem keeping_keeping (o : StandardOutput) (first second : Bytes) :
    (o.keeping first).keeping second = o.keeping (first ++ second) := by
  simp [keeping]

theorem stalled_onto (fault : IoFault) : (onto (.refusing fault)).Stalled fault :=
  ⟨rfl, List.not_mem_nil⟩

theorem Stalled.keeping (stalled : o.Stalled fault) {more : Bytes} (unended : newline ∉ more) :
    (o.keeping more).Stalled fault := by
  refine ⟨stalled.refusing, fun found => ?_⟩
  rcases List.mem_append.mp found with found | found
  · exact stalled.unended found
  · exact unended found

theorem Stalled.drainLine (stalled : o.Stalled fault) : o.drainLine = .ok o := by
  rw [StandardOutput.drainLine, if_neg]
  exact fun last => stalled.unended (List.mem_of_getLast? last)

theorem pass_of_refusing (refusing : o.device = .refusing fault) (offered : Bytes) :
    o.pass offered = .error fault := by
  rw [pass, refusing]

/-- Behind a refusing device bytes are kept if they fit beside what is kept, and refused if not. -/
theorem keep_of_refusing (refusing : o.device = .refusing fault) (offered : Bytes) :
    (∃ o', o.keep offered = (.error fault, o')) ∨
      o.keep offered = (.ok offered.length, o.keeping offered) := by
  simp only [keep]
  split
  · exact .inr rfl
  · by_cases overfull : offered.length > capacity - o.kept.length
    · left
      by_cases empty : o.kept = []
      · -- what does not fit into an empty buffer is passed on directly
        have huge : offered.length ≥ capacity := by
          rw [empty] at overfull
          exact Nat.le_of_lt overfull
        exact ⟨o, by
          simp only [if_pos overfull, drain_of_kept_nil empty, if_pos huge,
            pass_of_refusing refusing]⟩
      · exact ⟨o, by simp only [if_pos overfull, drain_of_refusing refusing empty]⟩
    · simp only [if_neg overfull, pass_of_refusing refusing]
      split
      · exact .inl ⟨o, rfl⟩
      · exact .inr rfl

/-- A stalled output keeps an offer that ends no line and fits, and refuses any other. -/
theorem Stalled.write (stalled : o.Stalled fault) (offered : Bytes) :
    (∃ o', o.write offered = (.error fault, o')) ∨
      newline ∉ offered ∧ o.write offered = (.ok offered.length, o.keeping offered) := by
  by_cases ended : newline ∈ offered
  · -- whole lines go to the device
    left
    rcases lines_eq : splitLines offered with ⟨_ | ⟨b, lines⟩, rest⟩
    · exact absurd (congrArg Prod.fst lines_eq) (splitLines_of_mem ended)
    · by_cases empty : o.kept = []
      · exact ⟨o, by
          simp only [StandardOutput.write, lines_eq, drain_of_kept_nil empty,
            pass_of_refusing stalled.refusing]⟩
      · exact ⟨o, by
          simp only [StandardOutput.write, lines_eq, drain_of_refusing stalled.refusing empty]⟩
  · have answer : o.write offered = o.keep offered := by
      simp only [StandardOutput.write, splitLines_of_notMem ended, stalled.drainLine]
    rw [answer]
    exact (keep_of_refusing stalled.refusing offered).imp id fun kept => ⟨ended, kept⟩

/-- Asked to pass on what it keeps, it refuses. -/
theorem flush_of_refusing (refusing : o.device = .refusing fault) (some_kept : o.kept ≠ []) :
    o.flush = (.error fault, o) := by
  simp only [flush, drain_of_refusing refusing some_kept]

/-- With nothing kept there is nothing to refuse, whatever the device. -/
theorem flush_of_kept_nil (empty : o.kept = []) : o.flush = (.ok (), o) := by
  simp only [flush, drain_of_kept_nil empty]

end StandardOutput

open StandardOutput

/-! ## What a stalled output absorbs -/

/-- What comes of an attempt to write data to a stalled output: some of it is refused, or it ends no
line and is kept. -/
inductive Absorbs (o : StandardOutput) (fault : IoFault) (data : Bytes) :
    Option IoFault → StandardOutput → Prop
  /-- it was refused -/
  | refused (left : StandardOutput) : Absorbs o fault data (some fault) left
  /-- it is kept -/
  | kept (unended : newline ∉ data) : Absorbs o fault data none (o.keeping data)

namespace Absorbs

variable {o left : StandardOutput} {fault : IoFault} {data rest : Bytes}
  {stopped : Option IoFault}

theorem nothing (o : StandardOutput) (fault : IoFault) : Absorbs o fault [] none o := by
  have kept : Absorbs o fault [] none (o.keeping []) := .kept List.not_mem_nil
  rwa [keeping_nil] at kept

theorem of_none (h : Absorbs o fault data none left) :
    newline ∉ data ∧ left = o.keeping data := by
  cases h with
  | kept unended => exact ⟨unended, rfl⟩

theorem of_some {refusal : IoFault} (h : Absorbs o fault data (some refusal) left) :
    refusal = fault := by
  cases h with
  | refused left => rfl

/-- What is written after something that was kept. -/
theorem append (unended : newline ∉ data)
    (later : Absorbs (o.keeping data) fault rest stopped left) :
    Absorbs o fault (data ++ rest) stopped left := by
  cases later with
  | refused left => exact .refused left
  | kept unended' =>
    rw [keeping_keeping]
    refine .kept fun found => ?_
    rcases List.mem_append.mp found with found | found
    · exact unended found
    · exact unended' found

end Absorbs

variable {o : StandardOutput} {fault : IoFault} {α : Type}

theorem deliver_absorbs (stalled : o.Stalled fault) (data : Bytes) :
    Absorbs o fault data (deliver o data).fault (deliver o data).writer := by
  by_cases empty : data = []
  · rw [empty, deliver_nil]
    exact .nothing o fault
  · rcases stalled.write data with ⟨o', refused⟩ | ⟨unended, taken⟩
    · rw [deliver_of_error empty refused]
      exact .refused o'
    · -- all of it was taken at once
      rw [deliver_of_ok empty (List.length_pos_iff.mpr empty) taken, List.drop_length, deliver_nil]
      exact .kept unended

theorem Delivery.andThen_absorbs {first : Delivery StandardOutput}
    {second : StandardOutput → Delivery StandardOutput} {data rest : Bytes}
    (begun : Absorbs o fault data first.fault first.writer)
    (continued : newline ∉ data →
      Absorbs (o.keeping data) fault rest (second (o.keeping data)).fault
        (second (o.keeping data)).writer) :
    Absorbs o fault (data ++ rest) (first.andThen second).fault (first.andThen second).writer := by
  obtain ⟨calls, stopped, left⟩ := first
  cases begun with
  | refused left => exact .refused left
  | kept unended => exact .append unended (continued unended)

theorem Action.deliver_absorbs (stalled : o.Stalled fault) {action : Action}
    (offer : action ≠ .flush) :
    Absorbs o fault action.output (action.deliver o).fault (action.deliver o).writer := by
  cases action with
  | report event => exact .nothing o fault
  | line name =>
    exact Delivery.andThen_absorbs (Output.deliver_absorbs stalled name.bytes) fun unended =>
      Output.deliver_absorbs (stalled.keeping unended) [newline]
  | payload data => exact Output.deliver_absorbs stalled data
  | flush => exact absurd rfl offer

/-- A performance without a flush is refused, or it ends no line and all of it is kept. -/
theorem play_absorbs (stalled : o.Stalled fault) {actions : List Action}
    (offers : ∀ a ∈ actions, a ≠ .flush) :
    Absorbs o fault (actions.flatMap Action.output) (play o actions).fault
      (play o actions).writer := by
  induction actions generalizing o with
  | nil => exact .nothing o fault
  | cons action rest ih =>
    have begun := Action.deliver_absorbs stalled (offers action List.mem_cons_self)
    rw [List.flatMap_cons]
    rcases stopped : (action.deliver o).fault with _ | refusal
    · rw [play_cons_of_none stopped]
      rw [stopped] at begun
      obtain ⟨unended, left_eq⟩ := begun.of_none
      rw [left_eq]
      exact .append unended (ih (stalled.keeping unended) fun a found =>
        offers a (List.mem_cons_of_mem _ found))
    · rw [stopped] at begun
      rw [play_cons_of_some stopped, begun.of_some]
      exact .refused _

/-- A flush is refused as soon as something is kept. -/
theorem play_flush_of_refusing (refusing : o.device = .refusing fault) (some_kept : o.kept ≠ []) :
    (play o [.flush]).fault = some fault := by
  have refused : Writer.flush o = (.error fault, o) := flush_of_refusing refusing some_kept
  simp only [play, Action.deliver, deliverFlush, refused]

/-! ## Performances that write nothing -/

/-- An action that writes nothing leaves an empty output as it is, whatever its device. -/
theorem Action.deliver_of_silent (empty : o.kept = []) {action : Action}
    (silent : action.output = []) :
    (action.deliver o).fault = none ∧ (action.deliver o).writer = o := by
  cases action with
  | report event => exact ⟨rfl, rfl⟩
  | line name => exact absurd silent (List.append_ne_nil_of_right_ne_nil _ (List.cons_ne_nil _ _))
  | payload data =>
    rw [show data = [] from silent, deliver, deliver_nil]
    exact ⟨rfl, rfl⟩
  | flush =>
    have answer : Writer.flush o = (.ok (), o) := flush_of_kept_nil empty
    simp only [deliver, deliverFlush, answer, and_self]

/-- A performance that writes nothing is not cut short, not even by a flush. -/
theorem play_of_silent (empty : o.kept = []) {actions : List Action}
    (silent : actions.flatMap Action.output = []) : (play o actions).fault = none := by
  induction actions with
  | nil => rfl
  | cons action rest ih =>
    obtain ⟨silent_now, silent_later⟩ := List.append_eq_nil_iff.mp silent
    obtain ⟨done, same⟩ := Action.deliver_of_silent empty silent_now
    rw [play_cons_of_none done, same]
    exact ih silent_later

/-! ## Scripts on a refusing device -/

namespace Script

variable {script : Script α} {data : Bytes}

/-- A script that writes nothing ends on any device as it ends by itself. -/
theorem perform_of_silent (silent : script.output = []) (device : Device) :
    (play (onto device) script.trail).fault = none ∧
      (script.perform (onto device)).outcome = script.outcome := by
  have through : (play (onto device) script.trail).fault = none := play_of_silent rfl silent
  exact ⟨through, by simp only [perform, through]⟩

/-- A script that closes and writes something fails: what is not refused before is refused when it
is to be passed on. -/
theorem Closes.perform_refusing (closes : script.Closes data) (some_data : data ≠ []) :
    (script.perform (onto (.refusing fault))).outcome = .error (.writeFailure fault) := by
  obtain ⟨body, offers, trail_eq, rfl⟩ := closes
  have absorbed := play_absorbs (stalled_onto fault) offers
  obtain ⟨going, stopped⟩ := play_append (onto (.refusing fault)) body [.flush]
  have failed : (play (onto (.refusing fault)) script.trail).fault = some fault := by
    rw [trail_eq]
    rcases ended : (play (onto (.refusing fault)) body).fault with _ | refusal
    · rw [ended] at absorbed
      obtain ⟨-, left_eq⟩ := absorbed.of_none
      rw [(going ended).2, left_eq]
      exact play_flush_of_refusing rfl some_data
    · rw [ended] at absorbed
      rw [(stopped refusal ended).2, absorbed.of_some]
  simp only [Script.perform, failed]

/-- A script that breaks off after it ended a line fails for its output, not for its own reasons. -/
theorem Breaks.perform_refusing (breaks : script.Breaks data) (ended : newline ∈ data) :
    (script.perform (onto (.refusing fault))).outcome = .error (.writeFailure fault) := by
  obtain ⟨offers, rfl⟩ := breaks
  have absorbed := play_absorbs (stalled_onto fault) offers
  rcases stopped : (play (onto (.refusing fault)) script.trail).fault with _ | refusal
  · rw [stopped] at absorbed
    exact absurd ended absorbed.of_none.1
  · rw [stopped] at absorbed
    obtain rfl := absorbed.of_some
    simp only [Script.perform, stopped]

end Script

end BootRom.Output

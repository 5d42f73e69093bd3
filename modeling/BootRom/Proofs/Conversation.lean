import BootRom.Output.Script
import BootRom.Output.Scripted

/-!
# What a conversation with a writer gets through

A writer may take any part of what it is offered, take nothing, or fail, and
all of that is in the list of calls. `Conveys calls fault data` says how an
attempt to get `data` through went: either every offer was taken in part and
together they are the data, or the last offer was refused and what was taken
before it is a proper first part of the data.

* `deliver_conveys`, `play_conveys`: this is how every delivery goes, and every
  performance of actions other than a flush, whatever the writer does.
* `play_append`: a performance goes on from where an earlier one stopped.
* `Converses` ties a list of calls to the writer that answers them; `play_converses`: the calls of
  a performance are the conversation with its writer, to the end. `Holds.of_converses`: the writer
  then holds what was accepted in it.
* `Unfailing`: a writer that takes something of every offer, now and later;
  `play_of_unfailing` says that it lets every performance come to its end.
-/

namespace BootRom.Output

open Format

/-! ## Calls -/

/-- The fault of an offer that was refused: the writer's own, or that it took nothing. -/
def Call.refusal : Call → Option IoFault
  | .write _ (.ok 0) => some (.plain .writeZero)
  | .write _ (.ok (_ + 1)) => none
  | .write _ (.error fault) => some fault
  | .flush _ => none

/-- A call that asks the writer to pass on what it took. -/
def Call.IsFlush : Call → Prop
  | .write _ _ => False
  | .flush _ => True

/-- An offer of which something was taken. -/
def Call.Taken (call : Call) : Prop := ¬ call.IsFlush ∧ call.refusal = none

/-- An offer that is refused gets nothing through. -/
theorem Call.accepted_of_refusal {call : Call} {fault : IoFault}
    (refused : call.refusal = some fault) : call.accepted = [] := by
  cases call with
  | write offered answer =>
    cases answer with
    | error fault' => rfl
    | ok n =>
      cases n with
      | zero => rfl
      | succ m => cases refused
  | flush answer => cases refused

/-! ## Conveying -/

/-- How an attempt to get data through to a writer went. -/
inductive Conveys : List Call → Option IoFault → Bytes → Prop
  /-- all of it was taken -/
  | whole {calls : List Call} {data : Bytes} (taken : ∀ call ∈ calls, call.Taken)
    (all : accepted calls = data) : Conveys calls none data
  /-- an offer was refused when some of it was still left -/
  | cut {earlier : List Call} {last : Call} {fault : IoFault} {data : Bytes}
    (taken : ∀ call ∈ earlier, call.Taken) (offer : ¬ last.IsFlush)
    (refused : last.refusal = some fault) (part : accepted earlier <+: data)
    (proper : accepted earlier ≠ data) : Conveys (earlier ++ [last]) (some fault) data

namespace Conveys

variable {calls more : List Call} {fault : Option IoFault} {f : IoFault} {data rest : Bytes}

theorem of_none (h : Conveys calls none data) :
    (∀ call ∈ calls, call.Taken) ∧ accepted calls = data := by
  cases h with
  | whole taken all => exact ⟨taken, all⟩

/-- Where something was refused, that was the last thing said, and not all of the data got
through. -/
theorem of_some (h : Conveys calls (some f) data) :
    (∃ earlier last, calls = earlier ++ [last] ∧ (∀ call ∈ earlier, call.Taken) ∧
        ¬ last.IsFlush ∧ last.refusal = some f) ∧
      accepted calls <+: data ∧ accepted calls ≠ data := by
  cases h with
  | @cut earlier last fault data taken offer refused part proper =>
    have nothing_more : accepted (earlier ++ [last]) = accepted earlier := by
      rw [accepted_append, accepted_cons, last.accepted_of_refusal refused]
      exact List.append_nil _
    rw [nothing_more]
    exact ⟨⟨earlier, last, rfl, taken, offer, refused⟩, part, proper⟩

/-- Nothing is flushed while data is conveyed. -/
theorem no_flush (h : Conveys calls fault data) : ∀ call ∈ calls, ¬ call.IsFlush := by
  cases h with
  | whole taken all => exact fun call found => (taken call found).1
  | cut taken offer refused part proper =>
    intro call found
    rcases List.mem_append.mp found with found | found
    · exact (taken call found).1
    · rw [List.mem_singleton.mp found]
      exact offer

/-- Any offer that was refused is the last one, and its fault is the one that is reported. -/
theorem of_refused (h : Conveys calls (some f) data) {call : Call} {f' : IoFault}
    (found : call ∈ calls) (refused : call.refusal = some f') :
    f' = f ∧ ∃ earlier, calls = earlier ++ [call] ∧ ∀ c ∈ earlier, c.refusal = none := by
  obtain ⟨⟨earlier, last, rfl, taken, -, refused'⟩, -⟩ := h.of_some
  rcases List.mem_append.mp found with found | found
  · rw [(taken call found).2] at refused
    cases refused
  · obtain rfl := List.mem_singleton.mp found
    rw [refused] at refused'
    exact ⟨Option.some.inj refused', earlier, rfl, fun c mem => (taken c mem).2⟩

/-- Only the last offer may have been refused. -/
theorem refusal_dropLast (h : Conveys calls fault data) :
    ∀ call ∈ calls.dropLast, call.refusal = none := by
  cases h with
  | whole taken all => exact fun call found => (taken call (List.dropLast_subset calls found)).2
  | cut taken offer refused part proper =>
    rw [List.dropLast_concat]
    exact fun call found => (taken call found).2

/-- A refusal is what stopped the attempt. -/
theorem fault_eq_some (h : Conveys calls fault data) {call : Call} (found : call ∈ calls)
    (refused : call.refusal = some f) : fault = some f := by
  rcases fault with _ | f'
  · rw [(h.of_none.1 call found).2] at refused
    cases refused
  · rw [(h.of_refused found refused).1]

/-- It was not stopped exactly if all of the data got through. -/
theorem fault_eq_none_iff (h : Conveys calls fault data) : fault = none ↔ accepted calls = data := by
  rcases fault with _ | f
  · exact iff_of_true rfl h.of_none.2
  · exact iff_of_false (fun none => nomatch none) h.of_some.2.2

/-- Nor is it stopped if nothing is refused. -/
theorem fault_eq_none (h : Conveys calls fault data)
    (unrefused : ∀ call ∈ calls, call.refusal = none) : fault = none := by
  rcases fault with _ | f
  · rfl
  · obtain ⟨⟨earlier, last, rfl, -, -, refused⟩, -⟩ := h.of_some
    rw [unrefused last (List.mem_append_right earlier List.mem_cons_self)] at refused
    cases refused

theorem nothing : Conveys [] none [] := .whole (fun _ found => absurd found List.not_mem_nil) rfl

/-- A single refusal, of data that is not empty. -/
theorem refusal {call : Call} (offer : ¬ call.IsFlush) (refused : call.refusal = some f)
    (some_left : data ≠ []) : Conveys [call] (some f) data :=
  have none_before : ∀ c ∈ ([] : List Call), c.Taken := fun _ found => absurd found List.not_mem_nil
  .cut none_before offer refused List.nil_prefix some_left.symm

/-- What comes after a full conveyance is conveyed in its turn. -/
theorem append (first : Conveys calls none data) (second : Conveys more fault rest) :
    Conveys (calls ++ more) fault (data ++ rest) := by
  obtain ⟨taken, rfl⟩ := first.of_none
  have both : ∀ later : List Call, (∀ call ∈ later, call.Taken) →
      ∀ call ∈ calls ++ later, call.Taken := by
    intro later taken' call found
    rcases List.mem_append.mp found with found | found
    · exact taken call found
    · exact taken' call found
  cases second with
  | whole taken' all =>
    exact .whole (both _ taken') (by rw [accepted_append, all])
  | @cut earlier last fault data taken' offer refused part proper =>
    rw [← List.append_assoc]
    refine .cut (both _ taken') offer refused ?_ ?_
    · rw [accepted_append]
      exact (List.prefix_append_right_inj _).mpr part
    · rw [accepted_append]
      exact fun same => proper (List.append_cancel_left same)

/-- What a refusal cut short is also cut short as part of something longer. -/
theorem extend (first : Conveys calls (some f) data) (rest : Bytes) :
    Conveys calls (some f) (data ++ rest) := by
  cases first with
  | @cut earlier last fault data taken offer refused part proper =>
    -- a proper first part is shorter, so it cannot become the whole when something is added
    refine .cut taken offer refused (part.trans (List.prefix_append _ _)) fun same => ?_
    have longer := congrArg List.length same
    rw [List.length_append] at longer
    exact proper (part.eq_of_length_le (by omega))

end Conveys

/-! ## Deliveries -/

variable {σ α : Type}

theorem Delivery.andThen_conveys {first : Delivery σ} {second : σ → Delivery σ}
    {data rest : Bytes} (begun : Conveys first.calls first.fault data)
    (continued : ∀ w', Conveys (second w').calls (second w').fault rest) :
    Conveys (first.andThen second).calls (first.andThen second).fault (data ++ rest) := by
  rw [Delivery.andThen]
  split
  · rename_i fault stopped
    rw [stopped] at begun ⊢
    exact begun.extend rest
  · rename_i whole
    rw [whole] at begun
    exact begun.append (continued first.writer)

variable [Writer σ]

/-- A delivery conveys its data. The induction is along the delivery itself. -/
theorem deliver_conveys (w : σ) (data : Bytes) :
    Conveys (deliver w data).calls (deliver w data).fault data := by
  induction w, data using deliver.induct with
  | case1 w =>
    rw [deliver_nil]
    exact .nothing
  | case2 w b rest fault w' answer =>
    rw [deliver_of_error (List.cons_ne_nil b rest) answer]
    exact .refusal id rfl (List.cons_ne_nil b rest)
  | case3 w b rest w' answer =>
    rw [deliver_of_zero (List.cons_ne_nil b rest) answer]
    exact .refusal id rfl (List.cons_ne_nil b rest)
  | case4 w b rest n w' answer ih =>
    -- taken in part, and what is left is conveyed next
    rw [deliver_of_ok (List.cons_ne_nil b rest) (Nat.succ_pos n) answer]
    have first : Conveys [.write (b :: rest) (.ok (n + 1))] none ((b :: rest).take (n + 1)) :=
      .whole (fun call found => by rw [List.mem_singleton.mp found]; exact ⟨id, rfl⟩)
        (List.append_nil _)
    have both : Conveys _ _ ((b :: rest).take (n + 1) ++ (b :: rest).drop (n + 1)) :=
      first.append ih
    rwa [List.take_append_drop] at both

/-- Every action but a flush conveys what it writes. -/
theorem Action.deliver_conveys (w : σ) {action : Action} (offer : action ≠ .flush) :
    Conveys (action.deliver w).calls (action.deliver w).fault action.output := by
  cases action with
  | report event => exact .nothing
  | line name =>
    exact Delivery.andThen_conveys (Output.deliver_conveys w name.bytes)
      fun w' => Output.deliver_conveys w' [newline]
  | payload data => exact Output.deliver_conveys w data
  | flush => exact absurd rfl offer

/-! ## Performances -/

theorem play_cons_of_none {w : σ} {action : Action} {rest : List Action}
    (h : (action.deliver w).fault = none) :
    play w (action :: rest) =
      let later := play (action.deliver w).writer rest
      ⟨action.events ++ later.events, (action.deliver w).calls ++ later.calls, later.fault,
        later.writer⟩ := by
  rw [play]
  simp only [h]

theorem play_cons_of_some {w : σ} {action : Action} {rest : List Action} {fault : IoFault}
    (h : (action.deliver w).fault = some fault) :
    play w (action :: rest) =
      ⟨action.events, (action.deliver w).calls, some fault, (action.deliver w).writer⟩ := by
  rw [play]
  simp only [h]

/-- A performance without a flush conveys what its actions write. -/
theorem play_conveys (w : σ) {actions : List Action} (offers : ∀ a ∈ actions, a ≠ .flush) :
    Conveys (play w actions).calls (play w actions).fault (actions.flatMap Action.output) := by
  induction actions generalizing w with
  | nil => exact .nothing
  | cons action rest ih =>
    have begun := Action.deliver_conveys w (offers action List.mem_cons_self)
    rw [List.flatMap_cons]
    rcases stopped : (action.deliver w).fault with _ | fault
    · rw [stopped] at begun
      rw [play_cons_of_none stopped]
      exact begun.append (ih _ fun a found => offers a (List.mem_cons_of_mem _ found))
    · rw [stopped] at begun
      rw [play_cons_of_some stopped]
      exact begun.extend _

/-- A flush is one call, and its answer decides whether it was cut short. -/
theorem play_flush (w : σ) :
    ∃ answer, (play w [.flush]).calls = [.flush answer] ∧
      (play w [.flush]).fault =
        match answer with
        | .ok () => none
        | .error fault => some fault := by
  rcases answer : Writer.flush w with ⟨fault | ⟨⟩, w'⟩
  · exact ⟨.error fault, by simp [play, Action.deliver, deliverFlush, answer]⟩
  · exact ⟨.ok (), by simp [play, Action.deliver, deliverFlush, answer]⟩

/-- A performance goes on from where an earlier one stopped, unless that was at a fault. -/
theorem play_append (w : σ) (first second : List Action) :
    ((play w first).fault = none →
      (play w (first ++ second)).calls =
          (play w first).calls ++ (play (play w first).writer second).calls ∧
        (play w (first ++ second)).fault = (play (play w first).writer second).fault) ∧
    (∀ fault, (play w first).fault = some fault →
      (play w (first ++ second)).calls = (play w first).calls ∧
        (play w (first ++ second)).fault = some fault) := by
  induction first generalizing w with
  | nil => exact ⟨fun _ => ⟨rfl, rfl⟩, fun fault stopped => (nomatch stopped)⟩
  | cons action rest ih =>
    rw [List.cons_append]
    rcases stopped : (action.deliver w).fault with _ | fault
    · rw [play_cons_of_none stopped, play_cons_of_none stopped]
      obtain ⟨going, ended⟩ := ih (action.deliver w).writer
      refine ⟨fun none_so_far => ?_, fun fault later => ?_⟩
      · obtain ⟨calls_eq, fault_eq⟩ := going none_so_far
        exact ⟨by dsimp only; rw [calls_eq, List.append_assoc], fault_eq⟩
      · obtain ⟨calls_eq, fault_eq⟩ := ended fault later
        exact ⟨by dsimp only; rw [calls_eq], fault_eq⟩
    · -- what was still to come makes no difference after a fault
      rw [play_cons_of_some stopped, play_cons_of_some stopped]
      exact ⟨fun h => (nomatch h), fun fault' h => ⟨rfl, h⟩⟩

/-! ## Conversations -/

/-- What passes when a writer is called again and again: each call has the answer that the writer
gives to it, and the last writer is what the calls have left. -/
inductive Converses : σ → List Call → σ → Prop
  /-- nothing is said -/
  | silence (w : σ) : Converses w [] w
  /-- an offer is answered -/
  | write {w w' w'' : σ} {offered : Bytes} {answer : Except IoFault Nat} {calls : List Call}
    (said : Writer.write w offered = (answer, w')) (later : Converses w' calls w'') :
    Converses w (.write offered answer :: calls) w''
  /-- a request to flush is answered -/
  | flush {w w' w'' : σ} {answer : Except IoFault Unit} {calls : List Call}
    (said : Writer.flush w = (answer, w')) (later : Converses w' calls w'') :
    Converses w (.flush answer :: calls) w''

theorem Converses.append {w w' w'' : σ} {calls more : List Call} (first : Converses w calls w')
    (second : Converses w' more w'') : Converses w (calls ++ more) w'' := by
  induction first with
  | silence w => exact second
  | write said later ih => exact .write said (ih second)
  | flush said later ih => exact .flush said (ih second)

theorem Delivery.andThen_converses {w : σ} {first : Delivery σ} {second : σ → Delivery σ}
    (begun : Converses w first.calls first.writer)
    (continued : ∀ w', Converses w' (second w').calls (second w').writer) :
    Converses w (first.andThen second).calls (first.andThen second).writer := by
  rw [Delivery.andThen]
  split
  · exact begun
  · exact begun.append (continued first.writer)

theorem deliver_converses (w : σ) (data : Bytes) :
    Converses w (deliver w data).calls (deliver w data).writer := by
  induction w, data using deliver.induct with
  | case1 w =>
    rw [deliver_nil]
    exact .silence w
  | case2 w b rest fault w' answer =>
    rw [deliver_of_error (List.cons_ne_nil b rest) answer]
    exact .write answer (.silence w')
  | case3 w b rest w' answer =>
    rw [deliver_of_zero (List.cons_ne_nil b rest) answer]
    exact .write answer (.silence w')
  | case4 w b rest n w' answer ih =>
    rw [deliver_of_ok (List.cons_ne_nil b rest) (Nat.succ_pos n) answer]
    exact .write answer ih

theorem Action.deliver_converses (w : σ) (action : Action) :
    Converses w (action.deliver w).calls (action.deliver w).writer := by
  cases action with
  | report event => exact .silence w
  | line name =>
    exact Delivery.andThen_converses (Output.deliver_converses w name.bytes)
      fun w' => Output.deliver_converses w' [newline]
  | payload data => exact Output.deliver_converses w data
  | flush =>
    rcases answer : Writer.flush w with ⟨fault | ⟨⟩, w'⟩
    · simp only [deliver, deliverFlush, answer]
      exact .flush answer (.silence w')
    · simp only [deliver, deliverFlush, answer]
      exact .flush answer (.silence w')

/-- The calls of a performance are the conversation that its writer had. -/
theorem play_converses (w : σ) (actions : List Action) :
    Converses w (play w actions).calls (play w actions).writer := by
  induction actions generalizing w with
  | nil => exact .silence w
  | cons action rest ih =>
    have begun := action.deliver_converses w
    rcases stopped : (action.deliver w).fault with _ | fault
    · rw [play_cons_of_none stopped]
      exact begun.append (ih (action.deliver w).writer)
    · rw [play_cons_of_some stopped]
      exact begun

/-! ## What a writer holds -/

/-- A view of a writer that shows all that it has accepted: an offer adds to it what was taken, and a
flush leaves it as it is. -/
structure Holds (held : σ → Bytes) : Prop where
  /-- what is accepted of an offer comes after what was there -/
  write : ∀ {w w' : σ} {offered : Bytes} {answer : Except IoFault Nat},
    Writer.write w offered = (answer, w') →
    held w' = held w ++ (Call.write offered answer).accepted
  /-- what was there is passed on, and still counts -/
  flush : ∀ {w w' : σ} {answer : Except IoFault Unit},
    Writer.flush w = (answer, w') → held w' = held w

/-- After a conversation a writer holds what it accepted in it. -/
theorem Holds.of_converses {held : σ → Bytes} (holds : Holds held) {w w' : σ} {calls : List Call}
    (said : Converses w calls w') : held w' = held w ++ accepted calls := by
  induction said with
  | silence w => exact (List.append_nil _).symm
  | write said later ih => rw [ih, holds.write said, accepted_cons, List.append_assoc]
  | flush said later ih =>
    rw [ih, holds.flush said]
    rfl

/-! ## Writers that never fail -/

/-- A writer that takes something of every offer and passes on whatever it took, now and after
every call. -/
def Unfailing (w : σ) : Prop :=
  ∃ good : σ → Prop, good w ∧
    (∀ v offered, good v → offered ≠ [] →
      ∃ n v', Writer.write v offered = (.ok n, v') ∧ 0 < n ∧ good v') ∧
    ∀ v, good v → ∃ v', Writer.flush v = (.ok (), v') ∧ good v'

namespace Unfailing

variable {w : σ}

theorem write (unfailing : Unfailing w) {offered : Bytes} (some_left : offered ≠ []) :
    ∃ n w', Writer.write w offered = (.ok n, w') ∧ 0 < n ∧ Unfailing w' := by
  obtain ⟨good, now, writes, flushes⟩ := unfailing
  obtain ⟨n, w', answer, taken, later⟩ := writes w offered now some_left
  exact ⟨n, w', answer, taken, good, later, writes, flushes⟩

theorem flush (unfailing : Unfailing w) :
    ∃ w', Writer.flush w = (.ok (), w') ∧ Unfailing w' := by
  obtain ⟨good, now, writes, flushes⟩ := unfailing
  obtain ⟨w', answer, later⟩ := flushes w now
  exact ⟨w', answer, good, later, writes, flushes⟩

theorem deliver (unfailing : Unfailing w) (data : Bytes) :
    (deliver w data).fault = none ∧ Unfailing (deliver w data).writer := by
  induction w, data using deliver.induct with
  | case1 w =>
    rw [deliver_nil]
    exact ⟨rfl, unfailing⟩
  | case2 w b rest fault w' answer =>
    obtain ⟨n, v, taken, -⟩ := unfailing.write (List.cons_ne_nil b rest)
    cases answer.symm.trans taken
  | case3 w b rest w' answer =>
    obtain ⟨n, v, taken, pos, -⟩ := unfailing.write (List.cons_ne_nil b rest)
    cases answer.symm.trans taken
    cases pos
  | case4 w b rest n w' answer ih =>
    obtain ⟨m, v, taken, -, later⟩ := unfailing.write (List.cons_ne_nil b rest)
    obtain ⟨-, rfl⟩ := Prod.mk.inj (answer.symm.trans taken)
    rw [deliver_of_ok (List.cons_ne_nil b rest) (Nat.succ_pos n) answer]
    exact ih later

theorem action (unfailing : Unfailing w) (action : Action) :
    (action.deliver w).fault = none ∧ Unfailing (action.deliver w).writer := by
  cases action with
  | report event => exact ⟨rfl, unfailing⟩
  | line name =>
    obtain ⟨named, later⟩ := unfailing.deliver name.bytes
    simp only [Action.deliver, deliverName, Delivery.andThen, named]
    exact later.deliver [newline]
  | payload data => exact unfailing.deliver data
  | flush =>
    obtain ⟨w', answer, later⟩ := unfailing.flush
    simp only [Action.deliver, deliverFlush, answer]
    exact ⟨trivial, later⟩

end Unfailing

/-- A writer that never fails lets every performance come to its end, and takes all that is
written. -/
theorem play_of_unfailing {w : σ} (unfailing : Unfailing w) (actions : List Action) :
    (play w actions).fault = none ∧
      accepted (play w actions).calls = actions.flatMap Action.output := by
  induction actions generalizing w with
  | nil => exact ⟨rfl, rfl⟩
  | cons action rest ih =>
    obtain ⟨done, later⟩ := unfailing.action action
    obtain ⟨none_later, all_later⟩ := ih later
    have here : accepted (action.deliver w).calls = action.output := by
      by_cases flushing : action = .flush
      · obtain ⟨w', answer, -⟩ := unfailing.flush
        simp only [flushing, Action.deliver, deliverFlush, answer]
        rfl
      · have begun := Action.deliver_conveys w flushing
        rw [done] at begun
        exact begun.of_none.2
    rw [play_cons_of_none done, List.flatMap_cons]
    exact ⟨none_later, by dsimp only; rw [accepted_append, here, all_later]⟩

/-- A writer that takes two bytes at a time never fails. -/
theorem unfailing_twoByTwo : Unfailing (⟨[], [], some 2⟩ : ScriptedWriter) := by
  refine ⟨fun v => v = ⟨[], [], some 2⟩, rfl, ?_, ?_⟩
  · rintro v offered rfl some_left
    have pos := List.length_pos_iff.mpr some_left
    refine ⟨min 2 offered.length, _, rfl, ?_, rfl⟩
    omega
  · rintro v rfl
    exact ⟨_, rfl, rfl⟩

/-! ## Scripts that end with a flush, and scripts that break off -/

/-- A script that writes data and has it passed on at the end, but not before. -/
def Script.Closes (script : Script α) (data : Bytes) : Prop :=
  ∃ body, (∀ a ∈ body, a ≠ .flush) ∧ script.trail = body ++ [.flush] ∧
    body.flatMap Action.output = data

/-- A script that writes data and never has it passed on. -/
def Script.Breaks (script : Script α) (data : Bytes) : Prop :=
  (∀ a ∈ script.trail, a ≠ .flush) ∧ script.output = data

namespace Script

variable {script : Script α} {data : Bytes}

theorem Closes.output_eq (closes : script.Closes data) : script.output = data := by
  obtain ⟨body, -, trail_eq, rfl⟩ := closes
  rw [output, trail_eq, List.flatMap_append]
  exact List.append_nil _

/-- A writer that never fails gets all that a script writes, and the script ends as it ends. -/
theorem perform_of_unfailing {w : σ} (unfailing : Unfailing w) (script : Script α) :
    (script.perform w).outcome = script.outcome ∧
      accepted (script.perform w).calls = script.output := by
  obtain ⟨done, all⟩ := play_of_unfailing unfailing script.trail
  refine ⟨?_, all⟩
  simp only [perform, done]

/-- A script that breaks off conveys its data, and fails if that is cut short. -/
theorem Breaks.perform (breaks : script.Breaks data) (w : σ) :
    Conveys (script.perform w).calls none data ∧
        (script.perform w).outcome = script.outcome ∨
      ∃ fault, Conveys (script.perform w).calls (some fault) data ∧
        (script.perform w).outcome = .error (.writeFailure fault) := by
  obtain ⟨offers, rfl⟩ := breaks
  have conveyed := play_conveys w offers
  rcases ended : (play w script.trail).fault with _ | fault
  · rw [ended] at conveyed
    exact .inl ⟨conveyed, by simp only [Script.perform, ended]⟩
  · rw [ended] at conveyed
    exact .inr ⟨fault, conveyed, by simp only [Script.perform, ended]⟩

/-- A script that closes conveys its data, and then its one flush has the last word. -/
theorem Closes.perform (closes : script.Closes data) (w : σ) :
    (∃ offers answer, Conveys offers none data ∧
        (script.perform w).calls = offers ++ [.flush answer] ∧
        (script.perform w).outcome =
          match answer with
          | .ok () => script.outcome
          | .error fault => .error (.writeFailure fault)) ∨
      ∃ fault, Conveys (script.perform w).calls (some fault) data ∧
        (script.perform w).outcome = .error (.writeFailure fault) := by
  obtain ⟨body, offers, trail_eq, rfl⟩ := closes
  have conveyed := play_conveys w offers
  obtain ⟨going, stopped⟩ := play_append w body [.flush]
  simp only [Script.perform, trail_eq]
  rcases ended : (play w body).fault with _ | fault
  · rw [ended] at conveyed
    obtain ⟨calls_eq, fault_eq⟩ := going ended
    obtain ⟨answer, flush_calls, flush_fault⟩ := play_flush (play w body).writer
    refine .inl ⟨(play w body).calls, answer, conveyed, by rw [calls_eq, flush_calls], ?_⟩
    rw [fault_eq, flush_fault]
    cases answer <;> rfl
  · rw [ended] at conveyed
    obtain ⟨calls_eq, fault_eq⟩ := stopped fault ended
    refine .inr ⟨fault, ?_, ?_⟩
    · rw [calls_eq]
      exact conveyed
    · rw [fault_eq]

end Script

/-! ## What a writer hears of a script -/

/-- Whether an action is a report, which no writer takes part in. -/
def Action.isReport : Action → Bool
  | .report _ => true
  | .line _ => false
  | .payload _ => false
  | .flush => false

/-- What a script says to its writer: its actions without the reports. -/
def Script.said (script : Script α) : List Action := script.trail.filter fun a => !a.isReport

/-- A writer does not notice whether reports are made between its calls. -/
theorem play_filter (w : σ) (actions : List Action) :
    (play w (actions.filter fun a => !a.isReport)).calls = (play w actions).calls ∧
      (play w (actions.filter fun a => !a.isReport)).fault = (play w actions).fault ∧
      (play w (actions.filter fun a => !a.isReport)).writer = (play w actions).writer := by
  induction actions generalizing w with
  | nil => exact ⟨rfl, rfl, rfl⟩
  | cons action rest ih =>
    by_cases report : action.isReport = true
    · -- a report says nothing to the writer, and is left out
      have silent : action.deliver w = ⟨[], none, w⟩ := by
        cases action with
        | report event => rfl
        | line name => cases report
        | payload data => cases report
        | flush => cases report
      have none_said : (action.deliver w).fault = none := by rw [silent]
      rw [List.filter_cons_of_neg (by rw [report]; decide), play_cons_of_none none_said, silent]
      exact ih w
    · rw [List.filter_cons_of_pos (by rw [Bool.not_eq_true] at report; rw [report]; rfl)]
      rcases stopped : (action.deliver w).fault with _ | fault
      · obtain ⟨calls_eq, fault_eq, writer_eq⟩ := ih (action.deliver w).writer
        rw [play_cons_of_none stopped, play_cons_of_none stopped]
        exact ⟨by dsimp only; rw [calls_eq], fault_eq, writer_eq⟩
      · rw [play_cons_of_some stopped, play_cons_of_some stopped]
        exact ⟨rfl, rfl, rfl⟩

/-- Scripts that say the same are performed alike: their writer hears the same calls, and is left
the same. -/
theorem Script.perform_of_said {β : Type} {script : Script α} {script' : Script β}
    (same : script'.said = script.said) (w : σ) :
    (script'.perform w).calls = (script.perform w).calls ∧
      (play w script'.trail).fault = (play w script.trail).fault ∧
      (script'.perform w).writer = (script.perform w).writer := by
  obtain ⟨calls_eq, fault_eq, writer_eq⟩ := play_filter w script.trail
  obtain ⟨calls_eq', fault_eq', writer_eq'⟩ := play_filter w script'.trail
  rw [← Script.said, same, Script.said] at calls_eq' fault_eq' writer_eq'
  exact ⟨calls_eq'.symm.trans calls_eq, fault_eq'.symm.trans fault_eq,
    writer_eq'.symm.trans writer_eq⟩

end BootRom.Output

import BootRom.Proofs.Conversation

/-!
# What a writer is offered

Bytes are offered to a writer until it has taken all of them, and each offer is of just those that
it has not taken yet. Nothing is passed over or offered once more after it was taken, and nothing is
tried again after a refusal, be it one that another attempt might have got round.

* `OffersRest` says what each offer consists of. `deliver_offersRest` and `length_calls_deliver_le`
  are inductions along a delivery: its offers are of this kind, and no more than there are bytes.
* `emit` performs one action by itself. `PutThrough` is how bytes fare then, and `emit_line` says
  that a name fares as its bytes do and then the end of its line.
* `emitAll` performs several actions on one writer; `emitAll_holds`: what the writer has in the end
  is what each of them got through.
-/

namespace BootRom.Output

open Format

variable {σ : Type} [Writer σ]

/-! ## Offers of what is left -/

/-- Each of the calls offers what the calls before it have left of the data, and there is something
left. -/
def OffersRest (data : Bytes) (calls : List Call) : Prop :=
  ∀ earlier call later, calls = earlier ++ call :: later →
    ∃ rest answer, call = .write rest answer ∧ accepted earlier ++ rest = data ∧ rest ≠ []

namespace OffersRest

variable {data left : Bytes} {calls : List Call} {answer : Except IoFault Nat}

theorem nil (data : Bytes) : OffersRest data [] := by
  intro earlier call later said
  exact absurd said.symm (List.append_ne_nil_of_right_ne_nil earlier (List.cons_ne_nil call later))

/-- All of the data is offered first, and then what the answer leaves of it. -/
theorem cons (some_left : data ≠ []) (parts : (Call.write data answer).accepted ++ left = data)
    (next : OffersRest left calls) : OffersRest data (.write data answer :: calls) := by
  intro earlier call later said
  obtain ⟨rfl, same⟩ | ⟨earlier, rfl, said'⟩ := List.cons_eq_append_iff.mp said
  · obtain ⟨rfl, -⟩ := List.cons.inj same
    exact ⟨data, answer, rfl, rfl, some_left⟩
  · obtain ⟨rest, answer', rfl, together, some_rest⟩ := next earlier call later said'
    refine ⟨rest, answer', rfl, ?_, some_rest⟩
    rw [accepted_cons, List.append_assoc, together, parts]

end OffersRest

theorem deliver_offersRest (w : σ) (data : Bytes) : OffersRest data (deliver w data).calls := by
  induction w, data using deliver.induct with
  | case1 w =>
    rw [deliver_nil]
    exact .nil []
  | case2 w b rest fault w' answer =>
    rw [deliver_of_error (List.cons_ne_nil b rest) answer]
    exact .cons (List.cons_ne_nil b rest) rfl (.nil (b :: rest))
  | case3 w b rest w' answer =>
    rw [deliver_of_zero (List.cons_ne_nil b rest) answer]
    exact .cons (List.cons_ne_nil b rest) rfl (.nil (b :: rest))
  | case4 w b rest n w' answer ih =>
    rw [deliver_of_ok (List.cons_ne_nil b rest) (Nat.succ_pos n) answer]
    exact .cons (List.cons_ne_nil b rest) (List.take_append_drop (n + 1) (b :: rest)) ih

/-- Each offer but the last gets at least one byte through. -/
theorem length_calls_deliver_le (w : σ) (data : Bytes) :
    (deliver w data).calls.length ≤ data.length := by
  induction w, data using deliver.induct with
  | case1 w =>
    rw [deliver_nil]
    exact Nat.le_refl 0
  | case2 w b rest fault w' answer =>
    rw [deliver_of_error (List.cons_ne_nil b rest) answer]
    exact Nat.succ_le_succ (Nat.zero_le _)
  | case3 w b rest w' answer =>
    rw [deliver_of_zero (List.cons_ne_nil b rest) answer]
    exact Nat.succ_le_succ (Nat.zero_le _)
  | case4 w b rest n w' answer ih =>
    rw [deliver_of_ok (List.cons_ne_nil b rest) (Nat.succ_pos n) answer]
    rw [List.length_drop] at ih
    rw [List.length_cons, List.length_cons]
    exact Nat.succ_le_succ (Nat.le_trans ih (Nat.sub_le _ _))

/-! ## One thing by itself -/

/-- Perform one action and nothing else. -/
def emit (w : σ) (action : Action) : Performance σ Unit := Script.perform (Traced.log action) w

/-- An action by itself is its delivery, and fails if that was stopped. -/
theorem emit_eq (w : σ) (action : Action) :
    emit w action =
      ⟨action.events, (action.deliver w).calls,
        match (action.deliver w).fault with
        | some fault => .error (.writeFailure fault)
        | none => .ok (),
        (action.deliver w).writer⟩ := by
  rw [emit, Script.perform, Traced.trail_log, Traced.outcome_log]
  rcases stopped : (action.deliver w).fault with _ | fault
  · rw [play_cons_of_none stopped]
    simp only [play, List.append_nil]
  · rw [play_cons_of_some stopped]

/-- How bytes are put through to a writer, as far as it lets them. -/
structure PutThrough (w : σ) (data : Bytes) (p : Performance σ Unit) : Prop where
  /-- the calls are the conversation with the writer -/
  answered : Converses w p.calls p.writer
  /-- each of them offers what is left -/
  rest : OffersRest data p.calls
  /-- there are no more of them than bytes -/
  few : p.calls.length ≤ data.length
  /-- after one that is refused there is none -/
  last : ∀ call ∈ p.calls.dropLast, call.refusal = none
  /-- and its fault is the failure -/
  refused : ∀ call ∈ p.calls, ∀ fault, call.refusal = some fault →
    p.outcome = .error (.writeFailure fault)
  /-- without one, everything is accepted -/
  unrefused : (∀ call ∈ p.calls, call.refusal = none) → accepted p.calls = data
  /-- and that is success -/
  ok_iff : p.outcome = .ok () ↔ accepted p.calls = data

/-- So all bytes fare that are written as they are. -/
theorem emit_payload (w : σ) (data : Bytes) : PutThrough w data (emit w (.payload data)) := by
  have conveyed := deliver_conveys w data
  rw [emit_eq]
  constructor
  case answered => exact deliver_converses w data
  case rest => exact deliver_offersRest w data
  case few => exact length_calls_deliver_le w data
  case last => exact conveyed.refusal_dropLast
  case refused =>
    intro call found fault refused
    have stopped : ((Action.payload data).deliver w).fault = some fault :=
      conveyed.fault_eq_some found refused
    simp only [stopped]
  case unrefused =>
    intro unrefused
    exact conveyed.fault_eq_none_iff.mp (conveyed.fault_eq_none unrefused)
  case ok_iff =>
    have through : ((Action.payload data).deliver w).fault = none ↔ _ :=
      conveyed.fault_eq_none_iff
    refine Iff.trans ?_ through
    rcases ((Action.payload data).deliver w).fault with _ | fault
    · exact iff_of_true rfl rfl
    · exact iff_of_false (fun done => nomatch done) (fun none => nomatch none)

/-- Go on with a second performance on the writer that the first has left, unless that failed. -/
def Performance.andThen (first : Performance σ Unit) (second : σ → Performance σ Unit) :
    Performance σ Unit :=
  match first.outcome with
  | .error _ => first
  | .ok () =>
    let next := second first.writer
    ⟨first.events ++ next.events, first.calls ++ next.calls, next.outcome, next.writer⟩

/-- A name is written as its bytes are, and then the end of its line. -/
theorem emit_line (w : σ) (name : Name) :
    emit w (.line name) =
      (emit w (.payload name.bytes)).andThen fun w' => emit w' (.payload [newline]) := by
  simp only [emit_eq, Action.deliver, deliverName, Delivery.andThen, Performance.andThen,
    Action.events]
  rcases stopped : (deliver w name.bytes).fault with _ | fault
  · simp only [List.append_nil]
  · simp only [stopped]

/-! ## One thing after another -/

/-- Perform actions one by one, each on the writer that the one before has left, whether that failed
or not. Each leaves its performance, and the last its writer. -/
def emitAll (w : σ) : List Action → List (Performance σ Unit) × σ
  | [] => ([], w)
  | action :: rest =>
    let first := emit w action
    let later := emitAll first.writer rest
    (first :: later.1, later.2)

/-- What a writer has in the end is what it had and what each of the actions got through. -/
theorem emitAll_holds {held : σ → Bytes} (holds : Holds held) (w : σ) (actions : List Action) :
    held (emitAll w actions).2 =
      held w ++ (emitAll w actions).1.flatMap fun p => accepted p.calls := by
  induction actions generalizing w with
  | nil => exact (List.append_nil _).symm
  | cons action rest ih =>
    have first : held (emit w action).writer = held w ++ accepted (emit w action).calls := by
      rw [emit_eq]
      exact holds.of_converses (action.deliver_converses w)
    rw [emitAll, List.flatMap_cons, ih, first, List.append_assoc]

/-! ## Writers that keep a record -/

/-- A writer, and what it has accepted. -/
structure Recorder (σ : Type) where
  /-- the writer, which answers for both -/
  inner : σ
  /-- what it has accepted so far -/
  held : Bytes

namespace Recorder

instance : Writer (Recorder σ) where
  write r offered :=
    let (answer, inner) := Writer.write r.inner offered
    (answer, ⟨inner, r.held ++ (Call.write offered answer).accepted⟩)
  flush r :=
    let (answer, inner) := Writer.flush r.inner
    (answer, ⟨inner, r.held⟩)

theorem holds_held : Holds (held : Recorder σ → Bytes) where
  write said := by
    cases said
    rfl
  flush said := by
    cases said
    rfl

end Recorder

/-! ## All of it -/

/-- **A writer is offered what is left, until nothing is or it refuses.** Whatever a writer answers,
bytes are put through to it in offers that each are of what the earlier ones have left, so that
there are no more offers than bytes and none if there are no bytes. The first that is refused, in
that nothing of it is taken or that it fails, is the last, and its fault is the failure; otherwise
all bytes are accepted, and that alone is success. A name is put through as the bytes before its
first zero are and then, if all of them were accepted, a line end. A writer that holds what it
accepts has all that was accepted, in order, after any number of names and payloads, also if some of
them have failed. -/
theorem emit_offers_rest (w : σ) :
    (∀ data, PutThrough w data (emit w (.payload data))) ∧
    (∀ name : Name, emit w (.line name) =
      (emit w (.payload name.bytes)).andThen fun w' => emit w' (.payload [newline])) ∧
    ∀ held : σ → Bytes, Holds held → ∀ actions : List Action,
      held (emitAll w actions).2 =
        held w ++ (emitAll w actions).1.flatMap fun p => accepted p.calls :=
  ⟨emit_payload w, emit_line w, fun _ holds => emitAll_holds holds w⟩

/-- A writer that takes two bytes and is then interrupted, takes one and then nothing. -/
def faltering : Recorder ScriptedWriter :=
  ⟨⟨[.take 2, .refuse (.plain .interrupted), .take 1, .take 0], [], none⟩, []⟩

/-- A payload, a name and a payload, of which two are cut short. -/
theorem emit_offers_rest_faltering :
    (∃ call ∈ (emit faltering (.payload [1, 2, 3, 4])).calls,
      call.refusal = some (.plain .interrupted)) ∧
    (emit faltering (.payload [1, 2, 3, 4])).outcome =
      .error (.writeFailure (.plain .interrupted)) ∧
    Holds (Recorder.held : Recorder ScriptedWriter → Bytes) ∧
    (emitAll faltering [.payload [1, 2, 3, 4], .line ⟨[0x61, 0x62, 0]⟩, .payload [9]]).2.held =
      [1, 2, 0x61, 9] := by
  have some_refused : ∃ call ∈ (emit faltering (.payload [1, 2, 3, 4])).calls,
      call.refusal = some (.plain .interrupted) := by
    decide +kernel
  obtain ⟨call, found, refused⟩ := some_refused
  obtain ⟨puts, -, holding⟩ := emit_offers_rest faltering
  refine ⟨⟨call, found, refused⟩, (puts [1, 2, 3, 4]).refused call found _ refused,
    Recorder.holds_held, ?_⟩
  rw [holding Recorder.held Recorder.holds_held]
  decide +kernel

end BootRom.Output

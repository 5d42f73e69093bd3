import BootRom.Event
import BootRom.Output.Writer
import BootRom.Traced

/-!
# Scripts: output before there is a writer

What a run reports and writes is settled by the table and the selection alone.
It is a `Script`: a trail of actions and an outcome. A writer comes in only
when the script is performed, and all it can do is cut the performance short:

* `play` carries out actions in order and stops at the first fault;
* `Script.perform` then ends as the script ends, or with that fault.
-/

namespace BootRom.Output

open Format

/-! ## Scripts -/

/-- One thing that a run does. -/
inductive Action
  /-- report something -/
  | report (event : Event)
  /-- write a name on a line of its own -/
  | line (name : Name)
  /-- write bytes as they are -/
  | payload (data : Bytes)
  /-- have the writer pass on what it took -/
  | flush
  deriving DecidableEq, Repr

/-- The bytes that an action writes. -/
def Action.output : Action → Bytes
  | .report _ => []
  | .line name => name.bytes ++ [newline]
  | .payload data => data
  | .flush => []

/-- A run before it meets a writer. -/
abbrev Script (α : Type) := Traced Action α

/-- The bytes that a script writes. -/
def Script.output {α : Type} (script : Script α) : Bytes := script.trail.flatMap Action.output

/-! ## Performances -/

/-- What is left after carrying out actions. -/
structure Played (σ : Type) where
  /-- what was reported -/
  events : List Event
  /-- what was said to the writer -/
  calls : List Call
  /-- what cut it short, if anything did -/
  fault : Option IoFault
  /-- the writer afterwards -/
  writer : σ

/-- What is left after performing a script. -/
structure Performance (σ α : Type) where
  /-- what was reported -/
  events : List Event
  /-- what was said to the writer -/
  calls : List Call
  /-- how it ended -/
  outcome : Except Error α
  /-- the writer afterwards -/
  writer : σ

variable {σ α : Type} [Writer σ]

/-- Carry out one action that a writer takes part in. -/
def Action.deliver (w : σ) : Action → Delivery σ
  | .report _ => ⟨[], none, w⟩
  | .line name => deliverName w name
  | .payload data => Output.deliver w data
  | .flush => deliverFlush w

/-- What an action reports. -/
def Action.events : Action → List Event
  | .report event => [event]
  | .line _ => []
  | .payload _ => []
  | .flush => []

/-- Carry out actions in order, up to the first fault. -/
def play (w : σ) : List Action → Played σ
  | [] => ⟨[], [], none, w⟩
  | action :: rest =>
    let delivery := action.deliver w
    match delivery.fault with
    | some fault => ⟨action.events, delivery.calls, some fault, delivery.writer⟩
    | none =>
      let later := play delivery.writer rest
      ⟨action.events ++ later.events, delivery.calls ++ later.calls, later.fault, later.writer⟩

/-- Perform a script on a writer. -/
def Script.perform (script : Script α) (w : σ) : Performance σ α :=
  let played := play w script.trail
  let outcome :=
    match played.fault with
    | some fault => .error (.writeFailure fault)
    | none => script.outcome
  ⟨played.events, played.calls, outcome, played.writer⟩

end BootRom.Output

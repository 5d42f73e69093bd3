import BootRom.Output.Writer

/-!
# Writers that follow a script

A `ScriptedWriter` answers its calls from two lists, one for offers and one
for requests to flush. After the lists it takes what it is offered, up to a
limit if it has one.
-/

namespace BootRom.Output

/-- How a writer meets one call. -/
inductive Reaction
  /-- take so many bytes, if so many are offered -/
  | take (n : Nat)
  /-- fail -/
  | refuse (fault : IoFault)
  deriving DecidableEq, Repr

/-- A writer whose answers are laid down beforehand. -/
structure ScriptedWriter where
  /-- the answers to the next offers -/
  writes : List Reaction
  /-- the answers to the next requests to flush -/
  flushes : List Reaction
  /-- the most that is taken at once after that -/
  most : Option Nat
  deriving DecidableEq, Repr

namespace ScriptedWriter

/-- Answer an offer. -/
def write (w : ScriptedWriter) (offered : Bytes) : Except IoFault Nat × ScriptedWriter :=
  match w.writes with
  | .take n :: rest => (.ok (min n offered.length), { w with writes := rest })
  | .refuse fault :: rest => (.error fault, { w with writes := rest })
  | [] => (.ok (min (w.most.getD offered.length) offered.length), w)

/-- Answer a request to flush. -/
def flush (w : ScriptedWriter) : Except IoFault Unit × ScriptedWriter :=
  match w.flushes with
  | .take _ :: rest => (.ok (), { w with flushes := rest })
  | .refuse fault :: rest => (.error fault, { w with flushes := rest })
  | [] => (.ok (), w)

instance : Writer ScriptedWriter where
  write := write
  flush := flush

end ScriptedWriter

end BootRom.Output

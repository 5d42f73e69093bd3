import BootRom.Error
import BootRom.Format.Name

/-!
# Writers, and getting bytes through to one

A writer takes bytes, but not always all that it is offered, and it may fail.
`Writer` is all that is asked of one: an answer to each call, and the state it
is in afterwards.

`deliver` offers a run of bytes again and again, each time what is left of it,
until all of it is taken. A writer that takes nothing, or that fails, ends the
delivery at once; nothing is tried twice. What was said to the writer is kept
as a list of calls, so that `accepted`, the bytes it took, is a function of
the conversation and not of the writer.
-/

namespace BootRom.Output

open Format

/-! ## Writers -/

/-- Something that takes bytes. Of what is offered, the first so many bytes are taken; an answer
above the number offered takes them all. -/
class Writer (σ : Type) where
  /-- offer bytes -/
  write : σ → Bytes → Except IoFault Nat × σ
  /-- ask that what was taken be passed on -/
  flush : σ → Except IoFault Unit × σ

/-- One call on a writer, with its answer. -/
inductive Call
  | write (offered : Bytes) (answer : Except IoFault Nat)
  | flush (answer : Except IoFault Unit)

/-- The bytes that a call got through. -/
def Call.accepted : Call → Bytes
  | .write offered (.ok n) => offered.take n
  | .write _ (.error _) => []
  | .flush _ => []

/-- The bytes that a conversation got through. -/
def accepted (calls : List Call) : Bytes := calls.flatMap Call.accepted

@[simp] theorem accepted_nil : accepted [] = [] := rfl

@[simp] theorem accepted_cons (call : Call) (calls : List Call) :
    accepted (call :: calls) = call.accepted ++ accepted calls := rfl

@[simp] theorem accepted_append (first second : List Call) :
    accepted (first ++ second) = accepted first ++ accepted second := by
  simp [accepted]

/-! ## Deliveries -/

/-- What an attempt to deliver something leaves behind. -/
structure Delivery (σ : Type) where
  /-- what was said to the writer -/
  calls : List Call
  /-- what stopped the delivery, if anything did -/
  fault : Option IoFault
  /-- the writer afterwards -/
  writer : σ

variable {σ : Type}

/-- Go on with a second delivery, unless the first was stopped. -/
def Delivery.andThen (first : Delivery σ) (second : σ → Delivery σ) : Delivery σ :=
  match first.fault with
  | some _ => first
  | none =>
    let next := second first.writer
    ⟨first.calls ++ next.calls, next.fault, next.writer⟩

variable [Writer σ]

/-- Get all of a run of bytes through to a writer. -/
def deliver (w : σ) (data : Bytes) : Delivery σ :=
  match data with
  | [] => ⟨[], none, w⟩
  | b :: rest =>
    match Writer.write w (b :: rest) with
    | (.error fault, w') => ⟨[.write (b :: rest) (.error fault)], some fault, w'⟩
    | (.ok 0, w') => ⟨[.write (b :: rest) (.ok 0)], some (.plain .writeZero), w'⟩
    | (.ok (n + 1), w') =>
      -- what is left is offered next
      let later := deliver w' (rest.drop n)
      ⟨.write (b :: rest) (.ok (n + 1)) :: later.calls, later.fault, later.writer⟩
termination_by data.length
decreasing_by
  simp only [List.length_drop, List.length_cons]
  omega

/-- Nothing to deliver needs no call. -/
@[simp] theorem deliver_nil (w : σ) : deliver w [] = ⟨[], none, w⟩ := by
  rw [deliver]

/-- A writer that fails ends the delivery with its fault. -/
theorem deliver_of_error {w w' : σ} {data : Bytes} {fault : IoFault} (some_left : data ≠ [])
    (answer : Writer.write w data = (.error fault, w')) :
    deliver w data = ⟨[.write data (.error fault)], some fault, w'⟩ := by
  obtain ⟨b, rest, rfl⟩ := List.exists_cons_of_ne_nil some_left
  rw [deliver]
  simp [answer]

/-- A writer that takes nothing ends the delivery too. -/
theorem deliver_of_zero {w w' : σ} {data : Bytes} (some_left : data ≠ [])
    (answer : Writer.write w data = (.ok 0, w')) :
    deliver w data = ⟨[.write data (.ok 0)], some (.plain .writeZero), w'⟩ := by
  obtain ⟨b, rest, rfl⟩ := List.exists_cons_of_ne_nil some_left
  rw [deliver]
  simp [answer]

/-- A writer that takes some bytes is offered the others. -/
theorem deliver_of_ok {w w' : σ} {data : Bytes} {n : Nat} (some_left : data ≠ []) (taken : 0 < n)
    (answer : Writer.write w data = (.ok n, w')) :
    deliver w data =
      ⟨.write data (.ok n) :: (deliver w' (data.drop n)).calls,
        (deliver w' (data.drop n)).fault, (deliver w' (data.drop n)).writer⟩ := by
  obtain ⟨b, rest, rfl⟩ := List.exists_cons_of_ne_nil some_left
  obtain ⟨m, rfl⟩ := Nat.exists_eq_add_of_lt taken
  rw [deliver]
  simp [answer]

/-- The byte that ends a line. -/
def newline : UInt8 := 10

/-- Write a name on a line of its own. -/
def deliverName (w : σ) (name : Name) : Delivery σ :=
  (deliver w name.bytes).andThen fun w' => deliver w' [newline]

/-- Ask a writer to pass on what it took. -/
def deliverFlush (w : σ) : Delivery σ :=
  match Writer.flush w with
  | (.ok (), w') => ⟨[.flush (.ok ())], none, w'⟩
  | (.error fault, w') => ⟨[.flush (.error fault)], some fault, w'⟩

end BootRom.Output

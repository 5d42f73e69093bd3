import BootRom.Output.Writer

/-!
# Standard output

Standard output keeps what it takes in a buffer and passes it on by whole
lines. A write that ends lines first empties the buffer and then passes its
lines on directly; what follows the last line end, and a write without one, is
kept, unless it does not fit. The device behind it either takes everything or
refuses everything, and a refusal is the answer to the call that met it.

`reached` is what arrives at the device by the time the program ends: a
working device gets all that was taken, since the buffer is emptied at the
end, and a refusing one gets nothing.
-/

namespace BootRom.Output

/-- What is behind standard output. -/
inductive Device
  /-- it takes everything -/
  | working
  /-- it refuses everything -/
  | refusing (fault : IoFault)
  deriving DecidableEq, Repr

/-- Standard output: its device and what it still keeps. -/
structure StandardOutput where
  /-- what is behind it -/
  device : Device
  /-- what was taken and not yet passed on -/
  kept : Bytes
  deriving DecidableEq, Repr

namespace StandardOutput

/-- How much can be kept. -/
def capacity : Nat := 1024

/-- Standard output at the start of a program. -/
def onto (device : Device) : StandardOutput := ⟨device, []⟩

/-- Pass on what is kept. -/
def drain (o : StandardOutput) : Except IoFault StandardOutput :=
  if o.kept.isEmpty then .ok o
  else
    match o.device with
    | .working => .ok { o with kept := [] }
    | .refusing fault => .error fault

/-- Pass on what is kept, if it ends a line. -/
def drainLine (o : StandardOutput) : Except IoFault StandardOutput :=
  if o.kept.getLast? = some newline then o.drain else .ok o

/-- Offer bytes to the device itself. -/
def pass (o : StandardOutput) (offered : Bytes) : Except IoFault Nat :=
  match o.device with
  | .working => .ok offered.length
  | .refusing fault => .error fault

/-- Keep bytes, making room for them first if they do not fit, and passing them on directly if
they never will. -/
def keep (o : StandardOutput) (offered : Bytes) : Except IoFault Nat × StandardOutput :=
  let room := capacity - o.kept.length
  if offered.length < room then (.ok offered.length, { o with kept := o.kept ++ offered })
  else
    match if offered.length > room then o.drain else .ok o with
    | .error fault => (.error fault, o)
    | .ok o' =>
      if offered.length ≥ capacity then (o'.pass offered, o')
      else (.ok offered.length, { o' with kept := o'.kept ++ offered })

/-- The part of an offer up to its last line end, and the rest. -/
def splitLines (offered : Bytes) : Bytes × Bytes :=
  let unfinished := (offered.reverse.takeWhile (· != newline)).length
  let finished := offered.length - unfinished
  (offered.take finished, offered.drop finished)

/-- Answer an offer. -/
def write (o : StandardOutput) (offered : Bytes) : Except IoFault Nat × StandardOutput :=
  match splitLines offered with
  | ([], _) =>
    match o.drainLine with
    | .error fault => (.error fault, o)
    | .ok o' => o'.keep offered
  | (lines, rest) =>
    match o.drain with
    | .error fault => (.error fault, o)
    | .ok o' =>
      match o'.pass lines with
      | .error fault => (.error fault, o')
      | .ok taken =>
        if rest.length ≥ capacity then (.ok taken, o')
        else (.ok (taken + rest.length), { o' with kept := rest })

/-- Answer a request to flush. -/
def flush (o : StandardOutput) : Except IoFault Unit × StandardOutput :=
  match o.drain with
  | .error fault => (.error fault, o)
  | .ok o' => (.ok (), o')

instance : Writer StandardOutput where
  write := write
  flush := flush

/-- What has reached a device once the program has ended. -/
def reached (device : Device) (calls : List Call) : Bytes :=
  match device with
  | .working => accepted calls
  | .refusing _ => []

end StandardOutput

end BootRom.Output

import BootRom.Output.Script
import BootRom.Table.Course

/-!
# Listing and extracting

A run goes over the course of a walk. It writes the names that are asked for
as it meets them, and when it meets the entry that is wanted it writes that
entry's payload and looks no further. At the end it has the writer pass on
what it took, and only then complains if the wanted entry was not there.

`Table.script` is all of this without a writer; `Table.run` performs it.
-/

namespace BootRom

open Output

namespace Table

/-! ## The script of a run -/

/-- Repeat reports that were made while walking. -/
def reporting (trail : List Event) : Script Unit := Traced.logAll (trail.map .report)

/-- Write an entry's name, if names are asked for. -/
def listing (s : Selection) (e : Entry) (done : Summary) : Script Summary :=
  if s.list && s.admits e.record then do
    Traced.log (.line e.name)
    return { done with listed := done.listed + 1 }
  else return done

/-- Write an entry's payload. -/
def extracting (t : Table) (e : Entry) (done : Summary) : Script Summary := do
  Traced.log (.report (.seekingPayload e.dataStart))
  let data ← .ofExcept (t.payload e)
  Traced.logAll [.report .payloadBegins, .payload data, .report .payloadEnds]
  return { done with extracted := some (e.dataStart, e.record.len) }

/-- Have the output passed on, and see whether the wanted entry was found. -/
def concluding (s : Selection) (done : Summary) : Script Summary := do
  Traced.log .flush
  match s.read, done.extracted with
  | some name, none => .fail (.targetNotFound name)
  | _, _ => return done

/-- Go over the rest of a walk, with what was done so far. -/
def scriptOver (t : Table) (s : Selection) : Course → Summary → Script Summary
  | .finished trail, done => do
    reporting trail
    concluding s done
  | .failed trail cause, _ => do
    reporting trail
    .fail cause
  | .entry trail e rest, done => do
    reporting trail
    let done ← listing s e { done with scanned := done.scanned + 1 }
    if s.targets e then
      -- the rest of the course is not looked at, not even for its errors
      let done ← extracting t e done
      concluding s done
    else scriptOver t s rest done

/-- What a run over a table does. -/
def script (t : Table) (s : Selection) : Script Summary := t.scriptOver s t.course .empty

/-- List and extract, writing to a writer. -/
def run {σ : Type} [Writer σ] (t : Table) (s : Selection) (w : σ) : Performance σ Summary :=
  (t.script s).perform w

end Table

end BootRom

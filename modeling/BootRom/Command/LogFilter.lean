import BootRom.Command.Directive

/-!
# Which reports are shown

A `LogFilter` is a list of directives, written with commas between them. Of the
directives that concern a report the most specific one decides how much detail
is let through, and of two that are as specific the later one; where none
concerns it, nothing is shown.
-/

namespace BootRom.Command

/-- A choice of reports. -/
structure LogFilter where
  /-- its parts, in order -/
  directives : List Directive
  deriving DecidableEq, Repr

namespace LogFilter

/-- Up to a detail, whatever the source. -/
def upTo (detail : Detail) : LogFilter := ⟨[⟨[], .none, detail⟩]⟩

/-- The filter for a number of requests for more reports. -/
def ofVerbosity (verbose : UInt8) : LogFilter :=
  if verbose = 0 then upTo Level.warn.rank
  else if verbose = 1 then upTo Level.debug.rank
  else upTo Level.trace.rank

/-- Read a filter, unless a part of it is no directive. Empty parts do not count, and a filter
without any other lets errors through. -/
def read (text : String) : Option LogFilter :=
  let parts := (text.splitOn ",").filter (· != "")
  if parts.isEmpty then some (upTo Level.error.rank)
  else (parts.mapM fun part => Directive.read part.toList).map fun directives => ⟨directives⟩

/-- The filter that is set, if it can be read, and else the one for the command line. -/
def choose (setting : Option String) (verbose : UInt8) : LogFilter :=
  ((setting.bind read)).getD (ofVerbosity verbose)

/-- The directive that decides on an event. -/
def decisive (f : LogFilter) (event : Event) : Option Directive :=
  (f.directives.filter (·.concerns event)).foldl
    (fun best d =>
      match best with
      | some b => if b.yieldsTo d then some d else some b
      | none => some d)
    none

/-- Whether an event is shown. -/
def admits (f : LogFilter) (event : Event) : Bool :=
  match f.decisive event with
  | some d => event.level.rank ≤ d.detail
  | none => false

end LogFilter

/-! ## Lines -/

/-- A character of a report as it is shown: controls that a terminal might obey are spelled
out. -/
def shownChar (c : Char) : String :=
  let n := c.toNat
  if n = 0x1b ∨ n = 0x07 ∨ n = 0x08 ∨ n = 0x0c ∨ n = 0x7f then
    "\\x" ++ (if n < 0x10 then "0" else "") ++ Text.hex n
  else if 0x80 ≤ n ∧ n ≤ 0x9f then "\\u\x7b" ++ Text.hex n ++ "\x7d"
  else c.toString

/-- A line of the log as it is written. -/
def printed (line : Level × String) : String :=
  line.1.name ++ " " ++ String.join (line.2.toList.map shownChar) ++ "\n"

/-- An event as a line of its own. -/
def logLine (event : Event) : String := printed event.logged

end BootRom.Command

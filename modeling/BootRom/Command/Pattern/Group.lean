import BootRom.Command.Pattern.Escape
import BootRom.Text.Alphanumeric

/-!
# Openings of groups

An opening parenthesis begins a group, which may have a name or flags, or else
changes the flags for the rest of the group around it. `Group.opening` reads
what follows it. There is no looking ahead or behind.
-/

namespace BootRom.Command.Pattern

/-- A mode after flags: those behind a hyphen are taken back. -/
def Mode.flagged (m : Mode) (flags : List Char) : Mode :=
  let given := flags.takeWhile (· != '-')
  let setting := fun c before => (before || c ∈ given) && !(c ∈ flags.drop given.length)
  ⟨setting 'i' m.anyCase, setting 'x' m.spaced, setting 'u' m.allScripts⟩

namespace Group

/-- What an opening parenthesis begins. -/
inductive Opening
  /-- a group, perhaps with a name, in which the text is read in some mode -/
  | group (m : Mode) (name : Option (List Char))
  /-- a change of the mode for the rest of the group around it -/
  | setting (m : Mode)

/-- Flags are single letters, each at most once, and a hyphen has some behind it. -/
def areFlags (flags : List Char) : Bool :=
  flags.all (· ∈ ['i', 'm', 's', 'U', 'u', 'R', 'x', '-']) && flags.Nodup &&
    flags.getLast? != some '-'

/-- Read the name of a group, up to its closing bracket. -/
def name (text : List Char) : Option (List Char × List Char) :=
  let name := text.takeWhile (· != '>')
  let begins := fun c => c == '_' || Text.isAlphabetic c
  let goesOn := fun c => c ∈ ['_', '.', '[', ']'] || Text.isAlphanumeric c
  match name, text.drop name.length with
  | c :: more, '>' :: rest => if begins c && more.all goesOn then some (name, rest) else none
  | _, _ => none

/-- Read what follows an opening parenthesis. -/
def opening (m : Mode) (text : List Char) : Option (Opening × List Char) :=
  match m.skip text with
  | '?' :: 'P' :: '<' :: text => (name text).map fun (n, rest) => (.group m (some n), rest)
  | '?' :: '<' :: text => (name text).map fun (n, rest) => (.group m (some n), rest)
  | '?' :: text =>
    let flags := text.takeWhile fun c => c != ':' && c != ')'
    if areFlags flags then
      match text.drop flags.length with
      | ':' :: rest => some (.group (m.flagged flags) none, rest)
      | ')' :: rest => if flags.isEmpty then none else some (.setting (m.flagged flags), rest)
      | _ => none
    else none
  | text => some (.group m none, text)

end Group

end BootRom.Command.Pattern

import BootRom.Command.Pattern.WellFormed
import BootRom.Event

/-!
# Directives: the parts of a filter

A `Directive` sets how much detail is let through for the reports that it
concerns: those from sources whose names begin with its target, and among them,
where it has a condition, those that meet it.

A directive is written as a level, a target, or both with `=` between them; a
target alone lets everything through. A condition stands in brackets behind the
target, or in its place: the name of a span, a field in braces, or both, and the
field may have a value. Spans and values are never met: reports are made outside
of all spans, and values are looked for in spans alone.

Where the parts of a directive lie is found in its text without the blanks
around it. They are then cut out at these places from the text as it was
written, so that a blank in front shifts every part, and a blank behind belongs
to the last one.
-/

namespace BootRom.Command

/-! ## Details -/

/-- How much detail is let through: nothing, or everything up to a level. -/
abbrev Detail := Nat

namespace Detail

/-- Nothing at all. -/
def off : Detail := 0

/-- Everything. -/
def everything : Detail := Level.trace.rank

/-- The details that have names. -/
def named : List (String × Detail) :=
  [("off", off), ("error", Level.error.rank), ("warn", Level.warn.rank),
    ("info", Level.info.rank), ("debug", Level.debug.rank), ("trace", Level.trace.rank)]

/-- The number that decimal digits spell, after an optional plus sign. -/
def number (text : List Char) : Option Nat :=
  let digits := match text with
    | '+' :: rest => rest
    | _ => text
  if digits ≠ [] ∧ digits.all Char.isDigit then
    some (digits.foldl (fun n c => n * 10 + (c.toNat - '0'.toNat)) 0)
  else none

/-- Read a detail: a number up to five, or a name in any case. -/
def read (text : List Char) : Option Detail :=
  match number text with
  | some n => if n ≤ everything then some n else none
  | none => named.lookup (String.ofList (text.map Char.toLower))

/-- Read a detail that may be left out. -/
def readOptional (text : List Char) : Option Detail :=
  if text.isEmpty then some everything else read text

end Detail

/-! ## Conditions -/

/-- What a directive asks of a report, its source apart. -/
inductive Condition
  /-- nothing more -/
  | none
  /-- that it carries a field -/
  | carries (field : List Char)
  /-- what no report meets: to be made within a span, or to have a value in a field -/
  | never
  deriving DecidableEq, Repr

namespace Condition

/-- Whether an event meets a condition. -/
def isMetBy (event : Event) : Condition → Bool
  | none => true
  | carries field => event.fields.contains (String.ofList field)
  | never => false

/-- Whether a text is the exponent of a number, or no text at all. -/
def isExponent : List Char → Bool
  | [] => true
  | c :: text =>
    let digits := if text.head? = some '+' ∨ text.head? = some '-' then text.tail else text
    (c == 'e' || c == 'E') && digits != [] && digits.all Char.isDigit

/-- Whether a text is a number in decimal, infinity, or the sign for what is no number. -/
def isNumber (text : List Char) : Bool :=
  let text := if text.head? = some '+' ∨ text.head? = some '-' then text.tail else text
  let whole := text.takeWhile Char.isDigit
  let (part, rest) := match text.drop whole.length with
    | '.' :: rest => (rest.takeWhile Char.isDigit, rest.dropWhile Char.isDigit)
    | rest => ([], rest)
  String.ofList (text.map Char.toLower) ∈ ["inf", "infinity", "nan"] ||
    (whole ++ part != [] && isExponent rest)

/-- Read what is asked of a field: its name, and perhaps after `=` its value, a number or a pattern.
A second `=` ends the value. -/
def ofField (text : List Char) : Option Condition :=
  let name := text.takeWhile (· != '=')
  match text.drop name.length with
  | [] => if name.isEmpty then Option.none else some (carries name)
  | _ :: rest =>
    let value := rest.takeWhile (· != '=')
    if isNumber value || Pattern.isWellFormed value then some never else Option.none

end Condition

/-! ## Directives -/

/-- One part of a filter. -/
structure Directive where
  /-- how the names of the sources begin that it speaks of -/
  target : List Char
  /-- what else it asks of a report -/
  condition : Condition
  /-- how much of what it concerns is let through -/
  detail : Detail
  deriving DecidableEq, Repr

namespace Directive

/-- Whether a directive has a say on an event. -/
def concerns (d : Directive) (event : Event) : Bool :=
  d.target.isPrefixOf event.source.toList && d.condition.isMetBy event

/-- Whether a directive is no more specific than another: the longer target is more specific, and
of two as long the one with a condition. -/
def yieldsTo (d e : Directive) : Bool :=
  d.target.length < e.target.length ||
    (d.target.length == e.target.length && (d.condition == .none || e.condition != .none))

/-! ### Places in a text -/

/-- How many bytes a text is long. -/
def bytes (text : List Char) : Nat := text.foldl (fun n c => n + c.utf8Size) 0

/-- The characters of a text from one place up to another, both counted in bytes. -/
def between : List Char → (start stop : Nat) → List Char
  | [], _, _ => []
  | c :: rest, start, stop =>
    let rest := between rest (start - c.utf8Size) (stop - c.utf8Size)
    if start = 0 ∧ stop ≠ 0 then c :: rest else rest

/-- The characters of a text from a place on. -/
def since (text : List Char) (start : Nat) : List Char := between text start (bytes text)

/-! ### Reading -/

/-- Whether a directive may begin with a character, a bracket apart. -/
def begins (c : Char) : Bool := c ∈ ['-', ':', '_'] || Text.isAlphanumeric c

/-- Read the detail behind a condition, if there is one. What is left of the text without blanks
is `rest`, and `place` is where it starts. -/
def readEnd (written target : List Char) (condition : Condition) (place : Nat) :
    (rest : List Char) → Option Directive
  | [] => some ⟨target, condition, .everything⟩
  | '=' :: _ => (Detail.readOptional (since written (place + 1))).map (⟨target, condition, ·⟩)
  | _ => none

/-- Read a condition, behind its opening bracket. -/
def readCondition (written target : List Char) (place : Nat) (rest : List Char) :
    Option Directive :=
  let span := rest.takeWhile fun c => c != ']' && c != '{'
  let place := place + bytes span + 1
  match rest.drop span.length with
  | ']' :: rest => readEnd written target .never place rest
  | '{' :: rest =>
    let field := rest.takeWhile (· != '}')
    match rest.drop field.length with
    | '}' :: ']' :: rest =>
      (Condition.ofField (between written place (place + bytes field))).bind fun condition =>
        readEnd written target (if span.isEmpty then condition else .never)
          (place + bytes field + 2) rest
    | _ => none
  | _ => none

/-- Read a directive. -/
def read (written : List Char) : Option Directive :=
  match Text.trimmed written with
  | [] => none
  | '[' :: rest => readCondition written [] 1 rest
  | c :: rest =>
    if begins c then
      let head := (c :: rest).takeWhile fun c => c != '=' && c != '['
      let target := between written 0 (bytes head)
      match (c :: rest).drop head.length with
      | [] =>
        match Detail.read written with
        | some detail => some ⟨[], .none, detail⟩
        | none => some ⟨written, .none, .everything⟩
      | '=' :: _ =>
        (Detail.readOptional (since written (bytes head + 1))).map (⟨target, .none, ·⟩)
      | _ :: rest => readCondition written target (bytes head + 1) rest
    else none

end Directive

end BootRom.Command

import ProbeGateway.Log.Event

/-!
# Log filters

A filter is a list of directives between commas. A directive gives the least urgent level to be
written, for all parts of the service or for the parts whose name begins in a given way. Of the
directives that apply to a part the one with the longest name decides.
-/

namespace ProbeGateway

/-- How much a directive lets through: nothing for zero, everything for five. -/
abbrev Verbosity := Nat

/-- The verbosity that a level needs. -/
def LogLevel.verbosity : LogLevel → Verbosity
  | error => 1
  | warn => 2
  | info => 3
  | debug => 4

/-- A rule on which events are written. -/
structure Directive where
  /-- The beginning of the names it applies to; empty for all. -/
  target : String
  verbosity : Verbosity
  /-- Whether it applies inside a named span only. -/
  inSpan : Bool
deriving DecidableEq, Repr

namespace Directive

/-- The verbosity that a word names. -/
def verbosity? (word : String) : Option Verbosity :=
  let word := String.ofList (word.toList.map Char.toLower)
  if word = "off" ∨ word = "0" then some 0
  else if word = "error" ∨ word = "1" then some 1
  else if word = "warn" ∨ word = "2" then some 2
  else if word = "info" ∨ word = "3" then some 3
  else if word = "debug" ∨ word = "4" then some 4
  else if word = "trace" ∨ word = "5" then some 5
  else none

/-- Whether a character may stand in the name of a part. -/
def isNameChar (c : Char) : Bool :=
  c.isAlphanum || c = '_' || c = ':' || c = '-' || 0x80 ≤ c.toNat

/-- The verbosity behind a name: all of it if none is given. -/
def level? : List Char → Option Verbosity
  | [] | ['='] => some 5
  | '=' :: word => verbosity? (String.ofList word)
  | _ => none

/-- Cuts off a span in brackets, if one stands first. -/
def span? : List Char → Option (Bool × List Char)
  | '[' :: rest =>
    match rest.dropWhile (· ≠ ']') with
    | ']' :: after => some (true, after)
    | _ => none
  | s => some (false, s)

/-- Reads one directive. -/
def parse? (s : String) : Option Directive :=
  match verbosity? s with
  | some v => some ⟨"", v, false⟩
  | none => do
    let name := s.toList.takeWhile isNameChar
    let (inSpan, rest) ← span? (s.toList.dropWhile isNameChar)
    let v ← level? rest
    if name.isEmpty && !inSpan then none else some ⟨String.ofList name, v, inSpan⟩

/-- Whether a directive applies to a part. -/
def appliesTo (d : Directive) (target : String) : Bool :=
  !d.inSpan && d.target.toList.isPrefixOf target.toList

end Directive

/-- The directives of a filter. -/
abbrev LogFilter := List Directive

namespace LogFilter

/-- Cuts a text at its commas. -/
def splitCommas : List Char → List (List Char)
  | [] => [[]]
  | c :: rest =>
    if c = ',' then [] :: splitCommas rest
    else match splitCommas rest with
      | part :: parts => (c :: part) :: parts
      | [] => [[c]]

/-- Reads a filter; nothing at all lets errors through. -/
def parse? (s : String) : Option LogFilter :=
  let parts := (splitCommas s.toList).filter fun part => !part.isEmpty
  if parts.isEmpty then some [⟨"", 1, false⟩]
  else parts.mapM fun part => Directive.parse? (String.ofList part)

/-- The filter of a service that is not told otherwise. -/
def standard : LogFilter := [⟨"health_api", 3, false⟩]

/-- The filter that a setting asks for; without a usable one, the standard filter. -/
def ofSetting (setting : Option String) : LogFilter :=
  ((setting.bind parse?).getD standard)

/-- Of two directives, the one with the longer name, or the later one. -/
def stronger (best : Option Directive) (d : Directive) : Option Directive :=
  match best with
  | some b => if d.target.length < b.target.length then some b else some d
  | none => some d

/-- Whether an event is written. -/
def allows (filter : LogFilter) (e : Event) : Bool :=
  match (filter.filter (·.appliesTo e.target)).foldl stronger none with
  | some d => e.level.verbosity ≤ d.verbosity
  | none => false

example : (parse? "==").isNone ∧ (parse? "info,health_api::api=off").isSome := by decide +kernel

end LogFilter

end ProbeGateway

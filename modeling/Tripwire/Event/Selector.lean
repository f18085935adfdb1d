import Tripwire.Event.Wire
import Tripwire.Pattern.Machine
import Tripwire.Text.Lettercase

/-!
# Selectors

A selector accepts an event, rejects it, or fails on it. Selectors look at one field each and are
joined by "all of" and "any of", which stop at the first member that settles the answer.

Component `failfast.filters`, section 4.1 of the specification; the lines that are named are that
component's. Each selector stands for the function of its name: `by_type`, `by_object_kind`,
`by_reason`, `by_object_name`, `by_message`, `after`, `in_any_window`, `all_of`, `any_of`.
-/

namespace Tripwire

open Time (Moment)

/-- Accepts or rejects an event, or fails on it (`EventPredicate`). -/
abbrev Selector := Event → Except Fault Bool

def Fault.ofPattern : Pattern.Error → Fault
  | .malformed => .badPattern
  | .repetitionTooLarge => .repetitionTooLarge
  | .tooManyDigits digits => .tooManyDigitsToRead digits
  | .alphabetsConflict => .other "ValueError" "ASCII and UNICODE flags are incompatible"
  | .groupCrossed =>
    .other "SystemError"
      "The span of capturing group is wrong, please report a bug for the re module."

def matchesWhole (pattern text : String) : Except Fault Bool :=
  (Pattern.fullMatch pattern text).mapError Fault.ofPattern

/-- Whether one of the patterns matches a whole text. They are tried in order up to the first that
does; one that is no pattern is a fault when its turn comes (`_full_match_any`, lines 81-83). -/
def matchesAny (patterns : List String) (text : String) : Except Fault Bool :=
  match patterns with
  | [] => .ok false
  | p :: rest => do
    if ← matchesWhole p text then return true
    matchesAny rest text

/-- Whether a text equals one of the candidates, letter case left out (`_in_case_insensitive`, lines
76-78). -/
def equalsAny (candidates : List String) (text : String) : Bool :=
  candidates.any fun c => Text.lowercase text == Text.lowercase c

namespace Selector

def byType (types : List String) : Selector := fun e => .ok (equalsAny types e.type)

/-- Events about an object of one of the given kinds. -/
def byObjectKind (kinds : List String) : Selector := fun e => .ok (equalsAny kinds e.object.kind)

def byReason (reasons : List String) : Selector := fun e => .ok (equalsAny reasons e.reason)

/-- Events about an object whose name one of the patterns matches. -/
def byObjectName (patterns : List String) : Selector := fun e => matchesAny patterns e.object.name

def byMessage (patterns : List String) : Selector := fun e => matchesAny patterns e.message

/-- Events last seen strictly after a moment (lines 38-45). -/
def after (moment : Moment) : Selector := fun e =>
  .ok (match e.lastSeen with
    | some seen => moment.before seen
    | none => false)

/-- Moments taken in pairs: from, until, from, until. One that is left over is passed over (lines
56-57). -/
def windows : List Moment → List (Moment × Moment)
  | start :: stop :: rest => (start, stop) :: windows rest
  | _ => []

/-- Events last seen in one of the windows: strictly after its start and not after its stop (lines
48-65). -/
def inAnyWindow (moments : List Moment) : Selector := fun e =>
  .ok (match e.lastSeen with
    | some seen => (windows moments).any fun w => w.1.before seen && !w.2.before seen
    | none => false)

def allOf : List Selector → Selector
  | [], _ => .ok true
  | s :: rest, e => do
    if ← s e then allOf rest e else return false

def anyOf : List Selector → Selector
  | [], _ => .ok false
  | s :: rest, e => do
    if ← s e then return true else anyOf rest e

end Selector

end Tripwire

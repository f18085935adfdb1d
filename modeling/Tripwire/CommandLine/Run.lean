import Tripwire.Check.Registry
import Tripwire.Cluster.Listing
import Tripwire.CommandLine.Arguments
import Tripwire.Config.Load
import Tripwire.Wait

/-!
# Runs of the command

A run loads the configuration, registers one event check on all clusters, and either looks once or
watches until the check fires or the time is over. It ends with status 1 if the check fired and with
status 0 if it did not.

Component `failfast.main`, section 4.8 of the specification; the lines that are named are that
component's.
-/

namespace Tripwire.CommandLine

open Decimal (Number)
open Time (Moment)

variable {W : Type}

/-- What a run needs from outside. It watches for at most `patience` ticks. -/
structure Outside (W : Type) where
  host : Host
  network : Network W
  clock : Act W Number
  sleep : Number → Act W Unit
  now : Moment
  patience : Nat

/-- How a run ended: its status, and what it prints at the end. -/
structure Ending where
  status : Nat
  output : String := ""
  error : String := ""
deriving DecidableEq, Repr

def Ending.stop (text : String) : Ending := { status := 1, error := text ++ "\n" }

def Refusal.ending : Refusal → Ending
  | .help => { status := 0, output := CommandLine.help }
  | .complaint text => { status := 2, error := CommandLine.complaint text }

/-- The overrides that arguments write, each a key and a value with an equals sign between them; or the
argument that is none. Of several values of a key the last counts (`_parse_overrides`, lines 77-84). -/
def overridesOf : List String → Named String → Except String (Named String)
  | [], given => .ok given
  | s :: rest, given =>
    match atEquals s.toList with
    | (key, some value) =>
      let key := Text.trim (String.ofList key)
      if key = "" then .error s else overridesOf rest (given.put key (String.ofList value))
    | (_, none) => .error s

/-- Goes on with the text of a fault if it is an invalid value. -/
def orInvalid {α : Type} (act : Act W α) : Act W (Except String α) :=
  tryCatch (do return .ok (← act)) fun f =>
    if f.isInvalidValue then pure (.error f.message) else throw f

/-- The moment that a call gives, if it can be read, or the present one (`_parse_since`, lines
121-127). -/
def sinceOf (now : Moment) : Option String → Act W (Option Moment)
  | none => pure (some now)
  | some s => (Value.text s).timestamp

/-- A field of the criteria set to the values of an option, unless it was not given. -/
def setGiven (c : Criteria) (field : CriteriaField) (values : List String) : Criteria :=
  if values.isEmpty then c else c.set field values

/-- The criteria that a call asks for (`_configure_event_check`, lines 106-118). -/
def criteriaOf (a : Arguments) (since : Moment) : Criteria :=
  let c : Criteria := { after := some since }
  let c := setGiven c .kinds a.kinds
  let c := setGiven c .names a.names
  let c := setGiven c .reasons a.reasons
  let c := setGiven c .messages a.messages
  setGiven c .types a.types

/-- The guard that a run watches: one event check on all clusters of a configuration
(`_build_connections`, lines 87-103, and lines 29-31). -/
def guardOf (o : Outside W) (config : Config) (c : Criteria) : Guard W :=
  let connections : List Connection := config.clusters.map fun cluster => ⟨cluster, config.settings⟩
  let registry : Registry W := { sources := connections.map (·.listEvents o.network) }
  (registry.register c).build

def found (reason : String) : Ending := { status := 1, error := reason ++ "\n" }

/-- Looks once (lines 33-38). -/
def lookOnce (guard : Guard W) : Act W Ending := do
  match ← Check.sweep guard.checks with
  | some reason => return found reason
  | none =>
    Act.note .info "No matching events"
    return { status := 0 }

/-- Watches until the check fires or the time is over (lines 40-53). -/
def watch (o : Outside W) (waiting : Waiting) (guard : Guard W) : Act W Ending := do
  let waiter : Waiter W :=
    { timeout := .real waiting.timeout
      interval := .real waiting.interval
      guard := some (Check.sweep guard.checks)
      clock := o.clock
      sleep := o.sleep }
  tryCatch
    (do
      let _ ← waiter.waitFor (pure false) "matching events" o.patience
      return { status := 0 })
    fun f =>
      match f with
      | .tripped reason => pure (found reason)
      | .timedOut _ => do
        Act.note .info
          ("No matching events within " ++ Decimal.floatText waiting.timeout ++ "s")
        return { status := 0 }
      | f => throw f

/-- Carries out a call with a configuration that was loaded (lines 24-53). -/
def runWith (o : Outside W) (a : Arguments) (config : Config) : Act W Ending := do
  let waiting := { config.waiting with timeout := a.timeout.getD config.waiting.timeout }
  if config.clusters.isEmpty then
    return .stop "At least one cluster is required. Add clusters entries to failfast.yaml."
  match ← sinceOf o.now a.since with
  | none =>
    return .stop ("--since is not an ISO-8601 timestamp: " ++ a.since.getD "")
  | some since =>
    let guard := guardOf o config (criteriaOf a since)
    if a.once then lookOnce guard else watch o waiting guard

/-- Carries out a call (`main`, lines 15-53). -/
def run (o : Outside W) (a : Arguments) : Act W Ending := do
  match overridesOf a.overrides [] with
  | .error s => return .stop ("--set expects KEY=VALUE, got " ++ Text.quoted s)
  | .ok overrides =>
    match ← orInvalid (loadConfig o.host none a.config none overrides) with
    | .error text => return .stop ("Invalid configuration: " ++ text)
    | .ok config => runWith o a config

/-! ### What is printed -/

/-- The records that are printed: all of them in a verbose run, otherwise none for those who look for
mistakes (`_configure_logging`, lines 72-74). -/
def shownRecords (verbose : Bool) (j : Journal) : Journal :=
  if verbose then j else j.filter fun r => r.level ≠ .debug

/-- The lines for records, each with the time that `stamp` stands for. -/
def recordLines (stamp : String) (j : Journal) : String :=
  String.join (j.map fun r => stamp ++ " " ++ r.level.name ++ " " ++ r.text ++ "\n")

/-- What a run prints beside its output: the records, then the text at its end if it came to one. -/
def errorText (stamp : String) (verbose : Bool) (j : Journal) (ending : Option Ending) : String :=
  recordLines stamp (shownRecords verbose j) ++ (ending.map (·.error)).getD ""

end Tripwire.CommandLine

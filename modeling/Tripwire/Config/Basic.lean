import Tripwire.Cluster.Basic
import Tripwire.Config.Layer
import Tripwire.Text.Ranges
import Tripwire.Value.Number

/-!
# Configurations

What a valid configuration holds, and how it is read from a value. What is missing has a default; what
cannot be converted is a fault.

Component `failfast.config`, section 9 of the specification; the lines that are named are that
component's.
-/

namespace Tripwire

/-- How long to wait, and how long to sleep between two looks, in seconds (`WaitingConfig`). -/
structure Waiting where
  timeout : Float
  interval : Float

/-- A valid configuration (`Config`). -/
structure Config where
  clusters : List Cluster
  settings : Settings
  waiting : Waiting

namespace Config

def blame {α : Type} (f : ConfigFault) : Except Fault α := .error (.config f)

/-- The entries of a section; a section that is null is empty (`_require_dict`, lines 226-231). -/
def sectionEntries (v : Value) (name : String) : Except Fault Entries :=
  match v with
  | .null => .ok []
  | .map entries _ => .ok entries
  | _ => blame (.sectionNotMapping name)

/-- The value under a key, or null. -/
def valueAt (entries : Entries) (key : String) : Value := (entries.get? (.text key)).getD .null

/-- The value under a key, or a default when the key is missing. -/
def valueOr (entries : Entries) (key : String) (default : Value) : Value :=
  (entries.get? (.text key)).getD default

def readSwitch? (word : String) : Option Bool :=
  if word ∈ ["true", "yes", "on", "1"] then some true
  else if word ∈ ["false", "no", "off", "0"] then some false
  else none

/-- A switch is a truth value or a word for one, in any letter case and with blanks around it
(`_parse_bool`, lines 204-213). -/
def switch (v : Value) (name : String) : Except Fault Bool :=
  match v with
  | .bool b => .ok b
  | .text s =>
    match readSwitch? (Text.lowercase (Text.trim s)) with
    | some b => .ok b
    | none => blame (.notBoolean name)
  | _ => blame (.notBoolean name)

/-- Whether characters hold the beginning of a reference between braces. -/
def hasReference : List Char → Bool
  | '$' :: '{' :: _ => true
  | _ :: rest => hasReference rest
  | [] => false

/-- A text that may be missing. One in which a reference is left unresolved counts as missing
(`_optional_str`, lines 234-241). -/
def optionalText (v : Value) : Except Fault (Option String) :=
  match v with
  | .null => .ok none
  | .text "" => .ok none
  | v => do
    let s ← v.toText
    return if hasReference s.toList then none else some s

def settingsOf (entries : Entries) : Except Fault Settings := do
  let requestTimeout ← (valueOr entries "request_timeout_seconds" (.int 20)).toWhole
  let userAgent ← (valueOr entries "user_agent" (.text "failfast/0.1")).toText
  let pageSize ← (valueOr entries "page_size" (.int 500)).toWhole
  return { requestTimeout, userAgent, pageSize }

/-- The times of waiting in their section. An interval has to be above zero (lines 101-106). -/
def waitingOf (entries : Entries) : Except Fault Waiting := do
  let timeout ← (valueOr entries "timeout_seconds" (.int 300)).toReal
  let interval ← (valueOr entries "poll_interval_seconds" (.int 5)).toReal
  if interval ≤ 0.0 then blame .intervalNotPositive
  return { timeout, interval }

/-- The cluster that an entry describes, at its place among the clusters (lines 128-141). -/
def clusterOf (place : Nat) (entry : Value) : Except Fault Cluster := do
  match entry with
  | .map entries _ =>
    let url := valueAt entries "url"
    if !url.isTruthy then blame .clusterWithoutUrl
    let name ← clusterName entries place
    let url ← url.toText
    let token ← optionalText (valueAt entries "token")
    let space ← optionalText (valueAt entries "namespace")
    let verify ← switch (valueOr entries "verify_tls" (.bool true)) "clusters.verify_tls"
    return { name, url, token, space, verify }
  | _ => blame .clusterNotMapping

/-- The clusters that entries describe, from a place on. -/
def clustersFrom (place : Nat) : List Value → Except Fault (List Cluster)
  | [] => .ok []
  | entry :: rest => do
    let c ← clusterOf place entry
    let cs ← clustersFrom (place + 1) rest
    return c :: cs

/-- The entry of a list that says the same as an entry of a mapping from names: the name is in it,
unless the entry has one of its own (line 120). -/
def namedEntry (name entry : Value) : Except Fault Value := do
  let shown ← name.toText
  let entries ← sectionEntries entry ("clusters." ++ shown)
  return .map (Entries.ofPairs ((.text "name", name) :: entries)) none

/-- The clusters of a list, or of a mapping from names (`_load_clusters`, lines 115-142). -/
def clustersOf (v : Value) : Except Fault (List Cluster) :=
  match v with
  | .null => .ok []
  | .map entries _ => do
    let items ← entries.mapM fun e => namedEntry e.1 e.2
    clustersFrom 0 items
  | .list items => clustersFrom 0 items
  | _ => blame .clustersShape

/-- The configuration in a value (`parse_config`, lines 89-112). -/
def ofValue (v : Value) : Except Fault Config := do
  match v with
  | .map entries _ =>
    let settings ← sectionEntries (valueAt entries "settings") "settings"
    let settings ← settingsOf settings
    let waiting ← sectionEntries (valueAt entries "waiting") "waiting"
    let waiting ← waitingOf waiting
    let clusters ← clustersOf (valueAt entries "clusters")
    return { clusters, settings, waiting }
  | _ => blame .rootNotMapping

end Config

end Tripwire

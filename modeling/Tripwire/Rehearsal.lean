import Tripwire.Check.Basic
import Tripwire.Cluster.Basic
import Tripwire.Decimal.Number
import Tripwire.Event.Wire

/-!
# Rehearsals

A world in which everything outside is scripted: sources answer from a list, checks show given
snapshots, clusters respond from one list, and the clock moves only as it is told. What is done to this
world is kept in a trace.
-/

namespace Tripwire

open Decimal (Number)

/-- Something that was done to the world. -/
inductive Deed where
  | fetch (check : String)
  | evaluate (check : String)
  | explain (check : String)
  | clock (reading : Number)
  | sleep (duration : Number)
  | condition (holds : Bool)

/-- A scripted world. -/
structure Scene where
  /-- What each source answers. -/
  sources : List (Except Fault (List Event)) := []
  /-- Which sources were asked, in order. -/
  asked : List Nat := []
  /-- Which scripted checks were fetched, in order. -/
  fetched : List Nat := []
  /-- How often the condition was called. -/
  conditions : Nat := 0
  now : Number := .real 0.0
  /-- How far the clock moves on with each reading. -/
  pace : Number := .whole 0
  sleeps : Nat := 0
  trace : List Deed := []
  /-- What clusters respond, one for each request. -/
  responses : List (Except Fault Response) := []
  /-- Whether the last response stands for all that follow. -/
  again : Bool := false
  clients : List Client := []
  requests : List Request := []

namespace Scene

/-- A computation in a scripted world. -/
abbrev Do (α : Type) := Act Scene α

def record (deed : Deed) : Do Unit := Act.change fun s => { s with trace := s.trace ++ [deed] }

/-- The item at a place; the last one stands for all places after it. -/
def upTo {α : Type} (items : List α) (place : Nat) : Option α :=
  items[min place (items.length - 1)]?

def source (place : Nat) : Do (List Event) := do
  Act.change fun s => { s with asked := s.asked ++ [place] }
  match (← Act.look (·.sources))[place]? with
  | some answer => Act.ofExcept answer
  | none => return []

/-- A check that shows snapshots in turn, the last one for ever. A snapshot fires if it is not empty.
Its key tells it from other checks. -/
def check (key : Nat) (name : String) (snapshots : List (Except Fault String)) : Check Scene :=
  Check.of
    (do
      record (.fetch name)
      let place := (← Act.look (·.fetched)).count key
      Act.change fun s => { s with fetched := s.fetched ++ [key] }
      match upTo snapshots place with
      | some snapshot => Act.ofExcept snapshot
      | none => return "")
    (fun seen => do
      record (.evaluate name)
      return seen != "")
    (fun seen => do
      record (.explain name)
      return name ++ ": " ++ seen)

def pass (duration : Number) : Do Unit := do
  match (← Act.look (·.now)).add? duration with
  | some now => Act.change fun s => { s with now }
  | none => Act.fail .wholeTooLarge

def clock : Do Number := do
  let reading ← Act.look (·.now)
  record (.clock reading)
  pass (← Act.look (·.pace))
  return reading

def sleepLimit : Nat := 100

/-- Sleeps; the last sleep that the rehearsal bears fails and takes no time. -/
def sleep (duration : Number) : Do Unit := do
  record (.sleep duration)
  Act.change fun s => { s with sleeps := s.sleeps + 1 }
  if sleepLimit ≤ (← Act.look (·.sleeps)) then Act.fail (.other "SleepLimit" "sleep limit")
  pass duration

def reached (time : Number) : Do Bool := do
  let holds := (← Act.look (·.now)).atLeast time
  record (.condition holds)
  return holds

/-- A condition that answers in turn, the last answer for ever. -/
def answering (answers : List (Except Fault Bool)) : Do Bool := do
  let place ← Act.look (·.conditions)
  Act.change fun s => { s with conditions := s.conditions + 1 }
  match upTo answers place with
  | some answer =>
    let holds ← Act.ofExcept answer
    record (.condition holds)
    return holds
  | none => return false

def respond (request : Request) : Do Response := do
  let place := (← Act.look (·.requests)).length
  Act.change fun s => { s with requests := s.requests ++ [request] }
  let responses ← Act.look (·.responses)
  let answer := if ← Act.look (·.again) then upTo responses place else responses[place]?
  Act.ofExcept (answer.getD (.error (.noConnection "script exhausted")))

/-- The number of requests after which the script gives nothing new. -/
def reach (s : Scene) : Nat := s.responses.length - s.requests.length + 2

def network : Network Scene where
  connect client := Act.change fun s => { s with clients := s.clients ++ [client] }
  get := respond
  reach := reach

end Scene

end Tripwire

import Tripwire.CommandLine.Run

/-!
# Dialogues

A run that is carried out as questions and replies. The run is a function of the replies so far: it
either ends or stops at a question to which there is no reply yet. Whoever carries it out replies and
starts it again, so that nothing but the replies comes from outside.
-/

namespace Tripwire.CommandLine

open Decimal (Number)

/-- What a run wants from outside. -/
inductive Question where
  | response (request : Request)
  | time
  | sleep (duration : Number)

/-- A reply to a question. -/
inductive Reply where
  | response (r : Except Fault Response)
  | time (reading : Number)
  | slept

/-- The replies that are still to be used, and the question that has none. -/
structure Dialogue where
  replies : List Reply
  question : Option Question := none

namespace Dialogue

/-- Asks a question. Without a reply the run stops here. -/
def ask (q : Question) : Act Dialogue Reply := do
  match (← Act.look (·.replies)) with
  | r :: rest =>
    Act.change fun d => { d with replies := rest }
    return r
  | [] =>
    Act.change fun d => { d with question := some q }
    Act.fail (.noConnection "no reply")

def network : Network Dialogue where
  connect _ := pure ()
  get request := do
    match ← ask (.response request) with
    | .response r => Act.ofExcept r
    | _ => Act.fail (.noConnection "no response")
  reach d := d.replies.length + 1

def clock : Act Dialogue Number := do
  match ← ask .time with
  | .time reading => return reading
  | _ => return .real 0.0

def sleep (duration : Number) : Act Dialogue Unit := do
  let _ ← ask (.sleep duration)

/-- A run with the replies so far: the question that it stops at, or its result; and its records. -/
def resume (host : Host) (now : Time.Moment) (a : Arguments) (replies : List Reply) :
    Option Question × Except Fault Ending × Journal :=
  let outside : Outside Dialogue :=
    { host, network, clock, sleep, now, patience := replies.length + 1 }
  let (result, stage) := (run outside a).on ⟨{ replies }, []⟩
  (stage.world.question, result, stage.journal)

end Dialogue

/-- The files that a run may look at: in the current directory and all those that it lies in the
markers of a root and the two files of a configuration, and the file that the call names. -/
def watchedPaths (here : List String) (a : Arguments) : List Files.Path :=
  let names := Files.rootMarkers ++ [sharedName, localName]
  let own := (a.config.map fun s => Files.Path.ofDirectory ((Files.Path.ofText s).resolveFrom here))
  (Files.ancestors here).flatMap (fun dir =>
    names.map fun name => Files.Path.ofDirectory (dir ++ [name])) ++ own.toList

end Tripwire.CommandLine

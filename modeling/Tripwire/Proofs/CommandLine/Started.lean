import Tripwire.CommandLine.Run
import Tripwire.Proofs.Config.Loading

/-!
# From the arguments to the look

A call reads its arguments and runs. Once the configuration is loaded and has clusters and the bound is
known, all that is left is to look once or to watch.
-/

namespace Tripwire.CommandLine

open Time (Moment)

variable {W : Type}

/-- A call: its arguments are read, and the run that they ask for is carried out. -/
def carryOut (o : Outside W) (arguments : List String) : Act W Ending :=
  match Arguments.ofStrings arguments with
  | .error refusal => pure refusal.ending
  | .ok a => run o a

theorem carryOut_of_ok {o : Outside W} {arguments : List String} {a : Arguments}
    (h : Arguments.ofStrings arguments = .ok a) : carryOut o arguments = run o a := by
  rw [carryOut, h]

/-- The moment after which events count, if it can be read. -/
def since? (now : Moment) : Option String → Option Moment
  | none => some now
  | some text => readTimestamp? text

def connectionsOf (config : Config) : List Connection :=
  config.clusters.map fun cluster => ⟨cluster, config.settings⟩

theorem on_sinceOf {now since : Moment} {given : Option String} (h : since? now given = some since)
    (s : Stage W) : (sinceOf now given).on s = (.ok (some since), s) := by
  cases given with
  | none =>
    cases h
    rfl
  | some text =>
    have hread : readTimestamp? text = some since := h
    have hne : text ≠ "" := by
      rintro rfl
      cases hread
    show ((Value.text text).timestamp).on s = _
    rw [Value.timestamp]
    simp only [if_neg hne, hread]
    rfl

theorem on_orInvalid_ok {α : Type} {act : Act W α} {s t : Stage W} {x : α}
    (h : act.on s = (.ok x, t)) : (orInvalid act).on s = (.ok (.ok x), t) := by
  have hact : (do return .ok (← act) : Act W (Except String α)).on s = (.ok (.ok x), t) :=
    Act.on_bind_ok h
  rw [orInvalid, Act.on_tryCatch, hact]

variable {o : Outside W} {a : Arguments} {overrides : Named String} {config : Config}
  {since : Moment} {s t : Stage W}

theorem on_run_of_load (hset : overridesOf a.overrides [] = .ok overrides)
    (hload : (loadConfig o.host none a.config none overrides).on s = (.ok config, t)) :
    (run o a).on s = (runWith o a config).on t := by
  rw [run, hset]
  exact Act.on_bind_ok (on_orInvalid_ok hload)

/-- The way to wait of a run: an option goes before the configuration. -/
def waitingOf (a : Arguments) (config : Config) : Waiting :=
  { config.waiting with timeout := a.timeout.getD config.waiting.timeout }

theorem runWith_of_no_clusters (hclusters : config.clusters = []) : runWith o a config =
    return .stop "At least one cluster is required. Add clusters entries to failfast.yaml." := by
  rw [runWith, hclusters]
  exact if_pos rfl

/-- What a run does once it looked for the bound. -/
def goOn (o : Outside W) (a : Arguments) (config : Config) : Option Moment → Act W Ending
  | none => return .stop ("--since is not an ISO-8601 timestamp: " ++ a.since.getD "")
  | some since =>
    let guard := guardOf o config (criteriaOf a since)
    if a.once then lookOnce guard else watch o (waitingOf a config) guard

theorem runWith_eq (hclusters : config.clusters ≠ []) :
    runWith o a config = sinceOf o.now a.since >>= goOn o a config := by
  have hmany : config.clusters.isEmpty = false := List.isEmpty_eq_false_iff.2 hclusters
  rw [runWith, hmany]
  refine bind_congr fun since => ?_
  cases since with
  | none => rfl
  | some since => rfl

theorem on_runWith (hclusters : config.clusters ≠ []) (hsince : since? o.now a.since = some since) :
    (runWith o a config).on t =
      (if a.once then lookOnce (guardOf o config (criteriaOf a since))
        else watch o (waitingOf a config) (guardOf o config (criteriaOf a since))).on t := by
  rw [runWith_eq hclusters]
  exact Act.on_bind_ok (on_sinceOf hsince t)

end Tripwire.CommandLine

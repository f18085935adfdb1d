import Tripwire.Config.Shared
import Tripwire.Text.Lettercase
import Tripwire.Text.Split
import Tripwire.Value.Text

/-!
# Layers

A configuration is put together from layers, each a tree of mappings that is laid over the ones below:
where both have a mapping the two are merged, anywhere else the upper layer wins. A path writes a single
value and makes the mappings on its way. Clusters may be written as a list or as a mapping from names;
a list that meets a mapping, or lies on a path, is first read as the mapping from its entries' names.

Component `failfast.config`, section 9 of the specification; the lines that are named are that
component's.
-/

namespace Tripwire

def clustersKey : String := "clusters"

/-- The name of an entry of a list of clusters: the one that it has, or one made from its place (lines
135 and 200). -/
def clusterName (entry : Entries) (place : Nat) : Except Fault String :=
  match entry.get? (.text "name") with
  | some name => if name.isTruthy then name.toText else .ok ("cluster-" ++ toString place)
  | none => .ok ("cluster-" ++ toString place)

/-- Adds the entries of a list of clusters, from a place on, to a mapping from names. Names are in lower
case, as paths from the environment are; of two equal names the later entry counts. -/
def addByName (byName : Entries) (place : Nat) : List Value → Except Fault Entries
  | [] => .ok byName
  | .map entry anchor :: rest => do
    let name ← clusterName entry place
    addByName (byName.put (.text (Text.lowercase name)) (.map entry anchor)) (place + 1) rest
  | _ :: _ => .error (.config .clusterNotMapping)

/-- The mapping from names that a list of clusters is read as (`_clusters_by_name`, lines 194-201). -/
def clustersByName (items : List Value) : Except Fault Entries := addByName [] 0 items

/-- Whether a key is the one under which clusters stand. -/
def Value.isClustersKey (key : Value) : Bool := key.sameKey (.text clustersKey)

/-! ### Merging -/

/-- The mapping that stands under a key when a mapping is laid over it, if one does (lines 170-174). -/
def mappingBelow (key : Value) (current : Option Value) :
    Except Fault (Option (Entries × Option Nat)) :=
  match current with
  | some (.map entries anchor) => .ok (some (entries, anchor))
  | some (.list items) =>
    if key.isClustersKey then (clustersByName items).map fun entries => some (entries, none)
    else .ok none
  | _ => .ok none

mutual

/-- What stands under a key once a value is laid over what stood there. -/
def layValue (news : News) (key : Value) (current : Option Value) :
    Value → Except Fault (Value × News)
  | .map upper anchor => do
    match ← mappingBelow key current with
    | some (lower, below) =>
      let (entries, news) ← layEntries news lower upper
      return (.map entries below, news.add below entries)
    | none => return (news.applyValue (.map upper anchor), news)
  | v => .ok (news.applyValue v, news)

/-- Lays entries over a mapping, one after another (`_merge`, lines 168-177). -/
def layEntries (news : News) (lower : Entries) :
    List (Value × Value) → Except Fault (Entries × News)
  | [] => .ok (lower, news)
  | (key, v) :: rest => do
    let (laid, news) ← layValue news key (lower.get? key) v
    layEntries news (news.apply (lower.put key laid)) rest

end

/-- The lower mapping with the upper one laid over it. -/
def Entries.lay (lower upper : Entries) : Except Fault Entries :=
  (layEntries [] lower upper).map (·.1)

/-! ### Paths -/

/-- The mapping under a key of a path: one that is there, the clusters by their names, or an empty one
in the place of anything else (lines 183-189). -/
def mappingOnPath (key : String) (current : Option Value) : Except Fault (Entries × Option Nat) :=
  match current with
  | some (.map entries anchor) => .ok (entries, anchor)
  | some (.list items) =>
    if key = clustersKey then (clustersByName items).map fun entries => (entries, none)
    else .ok ([], none)
  | _ => .ok ([], none)

/-- Writes a value at the end of a path below a mapping (`_set_dotted`, lines 180-191). -/
def writeAt (v : Value) : Entries → List String → Except Fault (Entries × News)
  | entries, [] => .ok (entries, [])
  | entries, [key] => .ok (entries.put (.text key) v, [])
  | entries, key :: next :: rest => do
    let (child, anchor) ← mappingOnPath key (entries.get? (.text key))
    let (child, news) ← writeAt v child (next :: rest)
    let news := news.add anchor child
    return (news.apply (entries.put (.text key) (.map child anchor)), news)

/-- The mapping with a value written at the end of a path. -/
def Entries.write (entries : Entries) (path : List String) (v : Value) : Except Fault Entries :=
  (writeAt v entries path).map (·.1)

def Entries.writeAll (entries : Entries) : List (List String × Value) → Except Fault Entries
  | [] => .ok entries
  | (path, v) :: rest => do
    let entries ← entries.write path v
    entries.writeAll rest

/-! ### The layer of the environment, and overrides -/

/-- What the names of variables that set a value begin with. -/
def variableMark : String := "FAILFAST_"

/-- The path that a variable's name stands for: the parts between its double low lines in lower case,
empty ones left out (lines 160-162). -/
def variablePath? (name : String) : Option (List String) :=
  (Text.dropMark? variableMark.toList name.toList).map fun rest =>
    ((Text.piecesAtLowLines (String.ofList rest)).filter (· ≠ "")).map Text.lowercase

/-- The values that variables set, in the order of the variables (`_from_environment`, lines
157-165). -/
def variableWrites (environment : List (String × String)) : List (List String × Value) :=
  environment.filterMap fun (name, v) =>
    match variablePath? name with
    | some [] | none => none
    | some path => some (path, .text v)

def environmentLayer (environment : List (String × String)) : Except Fault Entries :=
  Entries.writeAll [] (variableWrites environment)

/-- The values that overrides set: keys are paths with dots between their parts (lines 70-71). -/
def overrideWrites (overrides : List (String × String)) : List (List String × Value) :=
  overrides.map fun (key, v) => (Text.piecesAtDots key, .text v)

/-- All layers together: two files, the environment and overrides, each over the ones before
(`load_layers`, lines 66-72). -/
def mergeLayers (shared loc : Entries) (environment overrides : List (String × String)) :
    Except Fault Entries := do
  let merged ← Entries.lay [] shared
  let merged ← merged.lay loc
  let fromVariables ← environmentLayer environment
  let merged ← merged.lay fromVariables
  merged.writeAll (overrideWrites overrides)

end Tripwire

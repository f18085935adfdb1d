import Tripwire.Act
import Tripwire.Config.Basic
import Tripwire.Config.Reference
import Tripwire.Files.Tree
import Tripwire.Text.Encoding
import Tripwire.Yaml.Document

/-!
# Loading a configuration

Two files, the environment and overrides are put together and read as a configuration. A file that is
missing counts as empty; so does one that may not be opened, which is reported.

Component `failfast.config`, section 9 of the specification; the lines that are named are that
component's. What reads a file's document is part of the host: it is `Yaml.readDocument` where nothing
else is given, and a theorem about loading names what it needs of another reader.
-/

namespace Tripwire

open Files (Entry Path)

variable {W : Type}

/-- Where a configuration is loaded: the files, the current directory as names from the root, the
environment, and the paths that may not be opened. -/
structure Host where
  files : Entry
  here : List String := []
  environment : Named String := []
  unreadable : List String := []
  /-- Reads the document in the text of one of the two files, which is given by its place. -/
  read : Nat → List Char → Except Fault Value := fun place => Yaml.readDocument place 2

namespace Host

def find? (h : Host) (p : Path) : Option Entry :=
  h.files.follow? (p.setOut h.here).reverse p.parts

/-- The project root, looked for from a path or from the current directory (`find_project_root`, lines
48-53). -/
def projectRoot (h : Host) (start : Option Path) : List String :=
  Files.projectRoot h.files (match start with
    | some p => p.resolveFrom h.here
    | none => h.here)

end Host

/-- The name of the file that is shared by all users of a project. -/
def sharedName : String := "failfast.global.yaml"

def localName : String := "failfast.yaml"

/-- Lines end with a line feed, however they ended before. -/
def plainBreaks : List Char → List Char
  | '\r' :: '\n' :: rest => '\n' :: plainBreaks rest
  | '\r' :: rest => '\n' :: plainBreaks rest
  | c :: rest => c :: plainBreaks rest
  | [] => []

def Host.documentOf (h : Host) (place : Nat) (bytes : List UInt8) : Except Fault Value :=
  match Text.decodeUtf8 bytes with
  | .ok cs => h.read place (plainBreaks cs)
  | .error f => .error (.badEncoding f.message)

/-- The entries of the mapping in a file's document. A document that is null or otherwise empty has
none (lines 150 and 154). -/
def fileEntries (h : Host) (place : Nat) (p : Path) (bytes : List UInt8) : Except Fault Entries := do
  let v ← h.documentOf place bytes
  if v.isTruthy then Config.sectionEntries v p.text else return []

/-- The layer that a file holds (`_read_yaml`, lines 145-154). -/
def fileLayer (h : Host) (place : Nat) (p : Path) : Act W Entries :=
  match h.find? p with
  | some (.file bytes) =>
    if p.text ∈ h.unreadable then do
      Act.note .warning ("Unable to read config from " ++ p.text ++
        ": [Errno 13] Permission denied: " ++ Text.quoted p.text)
      return []
    else Act.ofExcept (fileEntries h place p bytes)
  | _ => pure []

/-- The layers below a root put together. A user's own file may lie elsewhere; the variables are those
of the environment unless others are given (`load_layers`, lines 56-72). -/
def loadLayers (h : Host) (root : Path) (own : Option Path) (given : Option (Named String))
    (overrides : Named String) : Act W Entries := do
  let shared ← fileLayer h 0 (root.child sharedName)
  let loc ← fileLayer h 1 (own.getD (root.child localName))
  Act.ofExcept (mergeLayers shared loc (given.getD h.environment) overrides)

/-- The configuration below a root, or below the project root if none is given. A user's own file that
is asked for has to exist. References to variables are resolved by the environment (`load_config`, lines
75-86). -/
def loadConfig (h : Host) (root : Option Path) (own : Option String)
    (given : Option (Named String)) (overrides : Named String) : Act W Config := do
  let root := root.getD (Path.ofDirectory (h.projectRoot none))
  let own := (own.filter (· ≠ "")).map Path.ofText
  match own with
  | some p => if (h.find? p).isNone then Act.fail (.config (.fileNotFound p.text))
  | none => pure ()
  let layers ← loadLayers h root own given overrides
  Act.ofExcept (Config.ofValue ((Value.map layers none).resolve h.environment.get?))

end Tripwire

import Tripwire.Files.Path
import Tripwire.Named

/-!
# Directory trees

Files and directories by their names. A path is followed part by part; each part but the last has to
lead to a directory.
-/

namespace Tripwire.Files

/-- A file or a directory. -/
inductive Entry where
  | file (bytes : List UInt8)
  | directory (children : List (String × Entry))

namespace Entry

def child? (e : Entry) (name : String) : Option Entry :=
  match e with
  | file _ => none
  | directory children => Named.get? children name

def isDirectory : Entry → Bool
  | file _ => false
  | directory _ => true

/-- What the names on the way from an entry lead to. -/
def at? (e : Entry) : List String → Option Entry
  | [] => some e
  | name :: rest => (e.child? name).bind fun c => at? c rest

def holds (e : Entry) (names : List String) : Bool := (e.at? names).isSome

/-- The entry with something put where names lead; directories on the way are made. -/
def put (new : Entry) : Entry → List String → Entry
  | _, [] => new
  | file _, name :: rest => directory [(name, put new (directory []) rest)]
  | directory children, name :: rest =>
    directory (Named.put children name
      (put new ((Named.get? children name).getD (directory [])) rest))

/-- What parts of a path lead to from a directory, whose names are given from the inside out. Two dots
lead back. -/
def follow? (root : Entry) : List String → List String → Option Entry
  | back, [] => root.at? back.reverse
  | back, part :: rest =>
    if ((root.at? back.reverse).any isDirectory) then
      follow? root (if part = ".." then back.tail else part :: back) rest
    else none

end Entry

/-! ### The project root -/

/-- A directory and all those that it lies in, the nearest first. -/
def ancestors (names : List String) : List (List String) :=
  (List.range (names.length + 1)).reverse.map fun n => names.take n

def rootMarkers : List String := ["pyproject.toml", ".git"]

def isMarked (root : Entry) (names : List String) : Bool :=
  rootMarkers.any fun marker => root.holds (names ++ [marker])

/-- The nearest of a directory and those that it lies in that holds a marker; the directory itself if
none does (`find_project_root` of `failfast.config`, lines 48-53). -/
def projectRoot (root : Entry) (names : List String) : List String :=
  ((ancestors names).find? (isMarked root)).getD names

end Tripwire.Files

import Tripwire.Decimal.Reader
import Tripwire.Text.Quoted
import Tripwire.Text.Split

/-!
# Arguments

The arguments of a call. Each is first taken by itself: it is an option, something that looks like one,
a mark after which there are no options, or a plain word. Then they are read from left to right. An
option may be cut short as long as no other begins in the same way, and its value may follow it or be
joined to it by an equals sign. Help says what options there are (`_parse_args` of `failfast.main`,
lines 56-69; section 4.8 of the specification).
-/

namespace Tripwire.CommandLine

/-- The options. -/
inductive Flag where
  | help
  | config
  | set
  | kind
  | name
  | reason
  | message
  | type
  | since
  | timeout
  | once
  | verbose
deriving DecidableEq, Repr

/-- The ways to write the options, the short one first. -/
def spellings : List (String × Flag) :=
  [("-h", .help), ("--help", .help), ("--config", .config), ("--set", .set), ("--kind", .kind),
    ("--name", .name), ("--reason", .reason), ("--message", .message), ("--type", .type),
    ("--since", .since), ("--timeout", .timeout), ("--once", .once), ("--verbose", .verbose)]

def Flag.hasValue : Flag → Bool
  | .help | .once | .verbose => false
  | _ => true

/-- All ways to write an option, as complaints show them. -/
def Flag.shown (f : Flag) : String :=
  "/".intercalate ((spellings.filter fun s => s.2 == f).map (·.1))

/-- What a call asks for. Values of options that may be given several times are in order. -/
structure Arguments where
  config : Option String := none
  overrides : List String := []
  kinds : List String := []
  names : List String := []
  reasons : List String := []
  messages : List String := []
  types : List String := []
  since : Option String := none
  timeout : Option Float := none
  once : Bool := false
  verbose : Bool := false

/-- Why a call is not carried out: it asks for help, or it makes no sense. -/
inductive Refusal where
  | help
  | complaint (text : String)
deriving DecidableEq, Repr

/-! ### Single arguments -/

/-- A value that is part of the same argument as its option, and whether an equals sign joins them. -/
structure Joined where
  byEquals : Bool
  text : String
deriving DecidableEq, Repr

/-- What an argument is by itself. -/
inductive Piece where
  | word (text : String)
  /-- The mark after which there are no options. -/
  | mark
  /-- Something that looks like an option. -/
  | unknown (text : String)
  | option (flag : Flag) (short : Bool) (joined : Option Joined)
deriving DecidableEq, Repr

/-- Whether a text is a negative number: digits after a hyphen, with a point before the last of them if
there is one. A break at the end does no harm. -/
def isNegativeNumber (cs : List Char) : Bool :=
  let digits (ds : List Char) : Bool := !ds.isEmpty && ds.all Text.isDigit
  match cs with
  | '-' :: rest =>
    let body := if rest.getLast? == some '\n' then rest.dropLast else rest
    digits body ||
      match body.dropWhile Text.isDigit with
      | '.' :: ds => digits ds
      | _ => false
  | _ => false

/-- The part of an argument before an equals sign, and the part after it if there is one. -/
def atEquals (cs : List Char) : List Char × Option (List Char) :=
  match cs.dropWhile (· ≠ '=') with
  | _ :: value => (cs.takeWhile (· ≠ '='), some value)
  | [] => (cs, none)

def beginsWith (stem : List Char) (s : String) : Bool := (Text.dropMark? stem s.toList).isSome

/-- The options that an argument may mean though it is not quite one of them. -/
def candidates (cs : List Char) : List (String × Flag × Option Joined) :=
  match cs with
  | '-' :: '-' :: _ =>
    let (stem, value) := atEquals cs
    (spellings.filter fun s => beginsWith stem s.1).map fun s =>
      (s.1, s.2, value.map fun v => ⟨true, String.ofList v⟩)
  | '-' :: c :: rest =>
    (spellings.filter fun s => s.1 == String.ofList ['-', c]).map fun s =>
      (s.1, s.2, some ⟨false, String.ofList rest⟩)
  | _ => []

def flagOf? (s : String) : Option Flag := (spellings.find? fun x => x.1 == s).map (·.2)

def isShort (s : String) : Bool := s == "-h"

/-- What an argument is by itself. Of several options that it may mean none is taken. -/
def Piece.ofText (s : String) : Except Refusal Piece :=
  let cs := s.toList
  let (stem, value) := atEquals cs
  if cs.head? ≠ some '-' then .ok (.word s)
  else
    match flagOf? s with
    | some f => .ok (.option f (isShort s) none)
    | none =>
      if cs.length = 1 then .ok (.word s)
      else
        match value, flagOf? (String.ofList stem) with
        | some v, some f =>
          .ok (.option f (isShort (String.ofList stem)) (some ⟨true, String.ofList v⟩))
        | _, _ =>
          match candidates cs with
          | [(spelling, f, joined)] => .ok (.option f (isShort spelling) joined)
          | [] =>
            if isNegativeNumber cs || ' ' ∈ cs then .ok (.word s) else .ok (.unknown s)
          | several =>
            .error (.complaint ("ambiguous option: " ++ s ++ " could match " ++
              ", ".intercalate (several.map (·.1))))

/-- What the arguments are, each by itself. After the mark all are words. -/
def Piece.ofArguments : List String → Except Refusal (List Piece)
  | [] => .ok []
  | "--" :: rest => .ok (.mark :: rest.map .word)
  | s :: rest => do
    let p ← Piece.ofText s
    let ps ← Piece.ofArguments rest
    return p :: ps

/-! ### All arguments -/

def blameFlag {α : Type} (f : Flag) (text : String) : Except Refusal α :=
  .error (.complaint ("argument " ++ f.shown ++ ": " ++ text))

/-- A complaint about a value that an option cannot have. -/
def ignored {α : Type} (f : Flag) (value : String) : Except Refusal α :=
  blameFlag f ("ignored explicit argument " ++ Text.quoted value)

def Arguments.give (a : Arguments) (f : Flag) (value : String) : Except Refusal Arguments :=
  match f with
  | .config => .ok { a with config := some value }
  | .set => .ok { a with overrides := a.overrides ++ [value] }
  | .kind => .ok { a with kinds := a.kinds ++ [value] }
  | .name => .ok { a with names := a.names ++ [value] }
  | .reason => .ok { a with reasons := a.reasons ++ [value] }
  | .message => .ok { a with messages := a.messages ++ [value] }
  | .type => .ok { a with types := a.types ++ [value] }
  | .since => .ok { a with since := some value }
  | .timeout =>
    match Decimal.readReal? value with
    | some x => .ok { a with timeout := some x }
    | none => blameFlag f ("invalid float value: " ++ Text.quoted value)
  | .help | .once | .verbose => .ok a

def Arguments.turnOn (a : Arguments) (f : Flag) : Except Refusal Arguments :=
  match f with
  | .help => .error .help
  | .once => .ok { a with once := true }
  | .verbose => .ok { a with verbose := true }
  | _ => .ok a

/-- What comes of the short option for help with more letters in the same argument: help, unless a
value is joined to it. -/
def shortHelp {α : Type} : Bool → List Char → Except Refusal α
  | _, [] => ignored .help ""
  | byEquals, c :: rest =>
    if byEquals || c = '-' then ignored .help (String.ofList (c :: rest))
    else if c = 'h' then
      match rest with
      | [] => .error .help
      | '=' :: [] => ignored .help ""
      | '=' :: value => ignored .help (String.ofList value)
      | rest => shortHelp false rest
    else .error .help

/-- Reads the arguments from left to right. What is no option and no value of one is left over. -/
def readPieces (a : Arguments) (left : List String) :
    List Piece → Except Refusal (Arguments × List String)
  | [] => .ok (a, left)
  | .word s :: rest => readPieces a (left ++ [s]) rest
  | .unknown s :: rest => readPieces a (left ++ [s]) rest
  | .mark :: rest => readPieces a (left ++ ["--"]) rest
  | .option f short (some joined) :: rest =>
    if f.hasValue then do
      let a ← a.give f joined.text
      readPieces a left rest
    else if short then shortHelp joined.byEquals joined.text.toList
    else ignored f joined.text
  | .option f _ none :: rest =>
    if f.hasValue then
      match rest with
      | .word value :: rest => do
        let a ← a.give f value
        readPieces a left rest
      | _ => blameFlag f "expected one argument"
    else do
      let a ← a.turnOn f
      readPieces a left rest

def Arguments.ofStrings (arguments : List String) : Except Refusal Arguments := do
  let pieces ← Piece.ofArguments arguments
  let (a, left) ← readPieces {} [] pieces
  if left.isEmpty then return a
  else .error (.complaint ("unrecognized arguments: " ++ " ".intercalate left))

/-! ### Help -/

def programName : String := "failfast"

def usage : String :=
  "usage: failfast [-h] [--config CONFIG] [--set KEY=VALUE] [--kind KIND]\n" ++
  "                [--name NAME] [--reason REASON] [--message MESSAGE]\n" ++
  "                [--type TYPE] [--since SINCE] [--timeout TIMEOUT] [--once]\n" ++
  "                [--verbose]\n"

def help : String :=
  usage ++ "\n" ++
  "Watch cluster events and fail fast when one matches\n" ++ "\n" ++
  "options:\n" ++
  "  -h, --help         show this help message and exit\n" ++
  "  --config CONFIG    User-local config file (default: failfast.yaml in project\n" ++
  "                     root)\n" ++
  "  --set KEY=VALUE    Override a config value\n" ++
  "  --kind KIND        Involved object kind (case insensitive)\n" ++
  "  --name NAME        Regex for the involved object name\n" ++
  "  --reason REASON    Event reason (case insensitive)\n" ++
  "  --message MESSAGE  Regex for the event message\n" ++
  "  --type TYPE        Event type, e.g. Warning (case insensitive)\n" ++
  "  --since SINCE      Only events last seen after this ISO-8601 time (default:\n" ++
  "                     now)\n" ++
  "  --timeout TIMEOUT  Seconds to watch before giving up\n" ++
  "  --once             Check once and exit\n" ++
  "  --verbose\n"

/-- What is printed for a call that makes no sense. -/
def complaint (text : String) : String := usage ++ programName ++ ": error: " ++ text ++ "\n"

end Tripwire.CommandLine

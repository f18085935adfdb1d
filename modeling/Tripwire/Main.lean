import Tripwire.CommandLine.Dialogue

/-!
# The command

Carries out a call: it looks at the files, replies to the run's questions and prints. It has no network
of its own; the body of each response is a line of standard input, in the order of the requests.
-/

namespace Tripwire.CommandLine

/-- A path that may not be opened, or a file or directory at a path. -/
def loadEntry (p : Files.Path) : IO (Option Files.Entry × Bool) := do
  let place := (← IO.currentDir) / p.text
  if ← place.isDir then return (some (.directory []), false)
  if !(← place.pathExists) then return (none, false)
  try
    let bytes ← IO.FS.readBinFile place
    return (some (.file bytes.toList), false)
  catch _ => return (some (.file []), true)

def loadEnvironment : IO (Named String) := do
  let bytes ← try IO.FS.readBinFile "/proc/self/environ" catch _ => pure ByteArray.empty
  let text := String.ofList ((Text.decodeUtf8 bytes.toList).toOption.getD [])
  let pairs := (text.splitOn (String.singleton (Char.ofNat 0))).filterMap fun line =>
    match atEquals line.toList with
    | (name, some value) => some (String.ofList name, String.ofList value)
    | (_, none) => none
  return Named.ofPairs pairs

def loadHost (a : Arguments) : IO Host := do
  let here := (Files.Path.ofText (← IO.currentDir).toString).parts
  let mut files := Files.Entry.put (.directory []) (.directory []) here
  let mut unreadable := []
  for p in watchedPaths here a do
    match ← loadEntry p with
    | (some e, closed) =>
      if !files.holds p.parts then files := Files.Entry.put e files p.parts
      if closed then unreadable := p.text :: (a.config.toList ++ unreadable)
    | (none, _) => pure ()
  return { files, here, environment := ← loadEnvironment, unreadable }

def presentMoment : IO Time.Moment := do
  let time := (← ((← IO.currentDir) / "/proc/self").metadata).modified
  let epoch : Int := 719163 * Time.dayMicros
  let micros : Int := (time.nsec.toNat / 1000 : Nat)
  match Time.Moment.ofInstant? (epoch + time.sec * 1000000 + micros) with
  | some m => return m
  | none => throw (IO.userError "no present moment")

def reply : Question → IO Reply
  | .response _ => do
    let line ← (← IO.getStdin).getLine
    if line.isEmpty then return .response (.error (.noConnection "no response"))
    return .response (.ok ⟨200, line.toUTF8.toList⟩)
  | .time => do return .time (.real (Float.ofNat (← IO.monoMsNow) / 1000.0))
  | .sleep duration => do
    IO.sleep (((duration.toDouble?).getD 0.0) * 1000.0).toUInt32
    return .slept

/-- Carries out a call to its end. Records are printed once, as they come. -/
partial def converse (host : Host) (now : Time.Moment) (a : Arguments) (replies : List Reply)
    (printed : Nat) : IO UInt32 := do
  let (question, result, journal) := Dialogue.resume host now a replies
  let fresh := journal.drop printed
  let err ← IO.getStderr
  match question with
  | some q =>
    err.putStr (errorText now.iso a.verbose fresh none)
    converse host now a (replies ++ [← reply q]) journal.length
  | none =>
    err.putStr (errorText now.iso a.verbose fresh result.toOption)
    match result with
    | .ok ending =>
      (← IO.getStdout).putStr ending.output
      return UInt32.ofNat ending.status
    | .error f =>
      err.putStrLn f.message
      return 1

end Tripwire.CommandLine

def main (arguments : List String) : IO UInt32 := do
  match Tripwire.CommandLine.Arguments.ofStrings arguments with
  | .error refusal =>
    (← IO.getStdout).putStr refusal.ending.output
    (← IO.getStderr).putStr refusal.ending.error
    return UInt32.ofNat refusal.ending.status
  | .ok a =>
    let host ← Tripwire.CommandLine.loadHost a
    let now ← Tripwire.CommandLine.presentMoment
    Tripwire.CommandLine.converse host now a [] 0

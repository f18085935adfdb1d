import Tripwire.Value.Basic

/-!
# Faults

What can go wrong, as causes. Each cause has one text; the texts are part of what the program prints.
-/

namespace Tripwire

/-- What is wrong with a configuration. -/
inductive ConfigFault where
  | rootNotMapping
  | sectionNotMapping (name : String)
  | intervalNotPositive
  | clustersShape
  | clusterNotMapping
  | clusterWithoutUrl
  | notBoolean (name : String)
  | fileNotFound (path : String)
deriving DecidableEq, Repr

def ConfigFault.message : ConfigFault → String
  | rootNotMapping => "Config root must be a mapping"
  | sectionNotMapping name => name ++ " must be a mapping"
  | intervalNotPositive => "waiting.poll_interval_seconds must be > 0"
  | clustersShape => "clusters must be a list or mapping"
  | clusterNotMapping => "clusters entries must be mappings"
  | clusterWithoutUrl => "clusters entries must include url"
  | notBoolean name => name ++ " must be a boolean"
  | fileNotFound path => "Config file not found: " ++ path

/-- A field of a date or a time of day that is out of range. -/
inductive FieldFault where
  | year (given : Nat)
  | month
  | day
  | hour
  | minute
  | second
  | offset (quoted : String)
deriving DecidableEq, Repr

def FieldFault.message : FieldFault → String
  | year given => "year " ++ toString given ++ " is out of range"
  | month => "month must be in 1..12"
  | day => "day is out of range for month"
  | hour => "hour must be in 0..23"
  | minute => "minute must be in 0..59"
  | second => "second must be in 0..59"
  | offset quoted =>
    "offset must be a timedelta strictly between -timedelta(hours=24) and timedelta(hours=24), not "
      ++ quoted ++ "."

/-- A cause of failure. -/
inductive Fault where
  /-- A key was looked up in something that is no mapping. -/
  | notMapping (found : Kind)
  /-- Something that has no items was gone through. -/
  | notIterable (found : Kind)
  /-- A value of this kind has no whole number. -/
  | noWhole (found : Kind)
  /-- A value of this kind has no real number. -/
  | noReal (found : Kind)
  /-- A text that is no whole number in a base, as quoted. -/
  | badWhole (base : Nat) (quoted : String)
  /-- A text that is no real number, as quoted. -/
  | badReal (quoted : String)
  /-- A whole number with too many digits to be read. -/
  | tooManyDigitsToRead (digits : Nat)
  /-- A whole number with too many digits to be written. -/
  | tooManyDigitsToWrite
  | nanToWhole
  | infinityToWhole
  | wholeTooLarge
  /-- A moment whose universal time lies outside the calendar. -/
  | dateOutOfRange
  /-- A date or time of day that does not exist. -/
  | field (f : FieldFault)
  /-- A pattern that is not well formed. -/
  | badPattern
  /-- A repetition count of a pattern beyond all bounds. -/
  | repetitionTooLarge
  /-- A document that is not well formed. -/
  | badDocument
  /-- A document whose nodes contain themselves. -/
  | endlessDocument
  /-- A word that a tag does not know, as quoted. -/
  | unknownWord (quoted : String)
  /-- A code point beyond the last one. -/
  | noCodePoint
  /-- A code point beyond the width of machine numbers. -/
  | wholeTooWide
  /-- A number is wanted and the text is empty. -/
  | emptyNumber
  /-- A text under a tag for timestamps that has not their form. -/
  | notATimestamp
  /-- Bytes that are no text, and how they are not. -/
  | badEncoding (text : String)
  /-- A response body that is no well-formed data. -/
  | badJson
  /-- A response that does not report success. -/
  | httpStatus (status : Int)
  /-- A request that got no response. -/
  | noConnection (reason : String)
  /-- A listing whose pages do not end. -/
  | endlessListing
  /-- What is wrong with a configuration. -/
  | config (f : ConfigFault)
  /-- A source that cannot list events. -/
  | notImplemented
  /-- A wait whose tripwire fired. -/
  | tripped (reason : String)
  /-- A wait that passed its deadline. -/
  | timedOut (text : String)
  /-- A fault of a check, a source or a condition from outside, with its own name and text. -/
  | other (name text : String)
deriving DecidableEq, Repr

/-- The text of a fault. Some faults have none of their own. -/
def Fault.message : Fault → String
  | notMapping found => "'" ++ found.name ++ "' object has no attribute 'get'"
  | notIterable found => "'" ++ found.name ++ "' object is not iterable"
  | noWhole found =>
    "int() argument must be a string, a bytes-like object or a real number, not '" ++ found.name ++ "'"
  | noReal found => "float() argument must be a string or a real number, not '" ++ found.name ++ "'"
  | badWhole base quoted =>
    "invalid literal for int() with base " ++ toString base ++ ": " ++ quoted
  | badReal quoted => "could not convert string to float: " ++ quoted
  | tooManyDigitsToRead digits =>
    "Exceeds the limit (4300 digits) for integer string conversion: value has " ++ toString digits ++
      " digits; use sys.set_int_max_str_digits() to increase the limit"
  | tooManyDigitsToWrite =>
    "Exceeds the limit (4300 digits) for integer string conversion; use " ++
      "sys.set_int_max_str_digits() to increase the limit"
  | nanToWhole => "cannot convert float NaN to integer"
  | infinityToWhole => "cannot convert float infinity to integer"
  | wholeTooLarge => "int too large to convert to float"
  | dateOutOfRange => "date value out of range"
  | field f => f.message
  | repetitionTooLarge => "the repetition number is too large"
  | unknownWord quoted => quoted
  | noCodePoint => "chr() arg not in range(0x110000)"
  | wholeTooWide => "Python int too large to convert to C int"
  | emptyNumber => "string index out of range"
  | notATimestamp => "'NoneType' object has no attribute 'groupdict'"
  | noConnection reason => reason
  | config f => f.message
  | tripped reason => reason
  | timedOut text => text
  | other _ text => text
  | badEncoding text => text
  | badPattern | badDocument | badJson | httpStatus _ | notImplemented => ""
  | endlessListing => "listing does not end"
  | endlessDocument => "maximum recursion depth exceeded"

/-- Whether a fault is an invalid value, the class of faults that the command reports as an invalid
configuration. -/
def Fault.isInvalidValue : Fault → Bool
  | badWhole _ _ | badReal _ | noCodePoint | tooManyDigitsToRead _ | tooManyDigitsToWrite | nanToWhole | field _
  | badEncoding _ | badJson | config _ => true
  | other name _ => name == "ValueError"
  | _ => false

end Tripwire

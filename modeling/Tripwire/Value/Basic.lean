import Tripwire.Decimal.Number
import Tripwire.Time.Moment

/-!
# Values

The data that documents, listings and configurations are made of. A mapping keeps its entries in the
order in which their keys first came; a key is looked up by value, so the keys `1`, `1.0` and `true`
are one key. A mapping that occurs in several places of a document carries an anchor, the same number
in all of them; every other mapping carries none.
-/

namespace Tripwire

open Time (Date Moment)
open Decimal (Number)

/-- A piece of data. -/
inductive Value where
  | null
  | bool (b : Bool)
  | int (n : Int)
  | float (x : Float)
  | text (s : String)
  | bytes (bs : List UInt8)
  | date (d : Date)
  | moment (m : Moment)
  | list (items : List Value)
  | map (entries : List (Value × Value)) (anchor : Option Nat)
deriving Inhabited

/-- The kinds of values. -/
inductive Kind where
  | null | bool | int | float | text | bytes | date | moment | list | map
deriving DecidableEq, Repr

def Kind.name : Kind → String
  | .null => "NoneType"
  | .bool => "bool"
  | .int => "int"
  | .float => "float"
  | .text => "str"
  | .bytes => "bytes"
  | .date => "datetime.date"
  | .moment => "datetime.datetime"
  | .list => "list"
  | .map => "dict"

/-- Keys of mappings. Numbers are told apart by their amounts, all that have none being one key, and
moments by their instants and by whether they have an offset. -/
inductive Key where
  | null
  | number (x : Option Decimal.Amount)
  | text (s : String)
  | bytes (bs : List UInt8)
  | date (d : Date)
  | moment (aware : Bool) (instant : Int)
deriving DecidableEq

namespace Value

def kind : Value → Kind
  | null => .null
  | bool _ => .bool
  | int _ => .int
  | float _ => .float
  | text _ => .text
  | bytes _ => .bytes
  | date _ => .date
  | moment _ => .moment
  | list _ => .list
  | map _ _ => .map

/-- Whether a value counts as present: null, false, zero and everything empty do not. -/
def isTruthy : Value → Bool
  | null => false
  | bool b => b
  | int n => n != 0
  | float x => !(x == 0.0)
  | text s => s != ""
  | bytes bs => !bs.isEmpty
  | date _ | moment _ => true
  | list items => !items.isEmpty
  | map entries _ => !entries.isEmpty

/-- The number that a value is, if it is one; false is zero and true is one. -/
def number? : Value → Option Number
  | bool b => some (.whole (if b then 1 else 0))
  | int n => some (.whole n)
  | float x => some (.real x)
  | _ => none

/-- What a value is as a key of a mapping. Lists and mappings are no keys. -/
def key? : Value → Option Key
  | null => some .null
  | text s => some (.text s)
  | bytes bs => some (.bytes bs)
  | date d => some (.date d)
  | moment m => some (.moment m.offset.isSome m.instant)
  | v => v.number?.map fun n => .number n.amount?

/-- Whether two values are the same key of a mapping. -/
def sameKey (a b : Value) : Bool :=
  match a.key?, b.key? with
  | some x, some y => x == y
  | _, _ => false

theorem sameKey_iff {a b : Value} : a.sameKey b = true ↔ ∃ k, a.key? = some k ∧ b.key? = some k := by
  unfold sameKey
  split
  · rename_i x y hx hy
    simp [hx, hy]
    exact eq_comm
  · rename_i h
    constructor
    · simp
    · rintro ⟨k, ha, hb⟩
      exact absurd hb (h k k ha)

theorem sameKey_comm (a b : Value) : a.sameKey b = b.sameKey a := by
  rw [Bool.eq_iff_iff, sameKey_iff, sameKey_iff]
  exact ⟨fun ⟨k, ha, hb⟩ => ⟨k, hb, ha⟩, fun ⟨k, hb, ha⟩ => ⟨k, ha, hb⟩⟩

/-- Values that are the same key are the same key as the same values. -/
theorem sameKey_congr {a b : Value} (h : a.sameKey b = true) (c : Value) :
    a.sameKey c = b.sameKey c := by
  obtain ⟨k, ha, hb⟩ := sameKey_iff.1 h
  simp only [sameKey, ha, hb]

end Value

/-- The entries of a mapping, in order. -/
abbrev Entries := List (Value × Value)

namespace Entries

def get? (entries : Entries) (key : Value) : Option Value :=
  (entries.find? fun e => e.1.sameKey key).map (·.2)

/-- Sets the value under a key. A key that is there keeps its place and its spelling; a new one goes
to the end. -/
def put : Entries → Value → Value → Entries
  | [], key, v => [(key, v)]
  | (k, old) :: rest, key, v =>
    if k.sameKey key then (k, v) :: rest else (k, old) :: put rest key v

def ofPairs (pairs : List (Value × Value)) : Entries :=
  pairs.foldl (fun entries p => put entries p.1 p.2) []

def keys (entries : Entries) : List Value := entries.map (·.1)

@[simp] theorem get?_nil (key : Value) : get? [] key = none := rfl

theorem get?_cons (k v : Value) (rest : Entries) (key : Value) :
    get? ((k, v) :: rest) key = if k.sameKey key then some v else rest.get? key := by
  cases h : k.sameKey key <;> simp [get?, h]

/-- A key that was set has its new value; the others have theirs. -/
theorem get?_put (entries : Entries) (key v other : Value) :
    (entries.put key v).get? other = if key.sameKey other then some v else entries.get? other := by
  induction entries with
  | nil => rw [put, get?_cons]
  | cons e rest ih =>
    obtain ⟨k, old⟩ := e
    rw [put, get?_cons]
    cases h : k.sameKey key with
    | true =>
      rw [if_pos rfl, get?_cons, Value.sameKey_congr h other]
      split <;> rfl
    | false =>
      rw [if_neg (by simp), get?_cons, ih]
      cases ho : k.sameKey other with
      | false => simp
      | true =>
        have hk : key.sameKey other = false := by
          rw [Value.sameKey_comm key other, ← Value.sameKey_congr ho key, h]
        simp [hk]

/-- Setting a key adds it at the end unless it is there. -/
theorem keys_put (entries : Entries) (key v : Value) :
    (entries.put key v).keys =
      if entries.keys.any (·.sameKey key) then entries.keys else entries.keys ++ [key] := by
  induction entries with
  | nil => simp [put, keys]
  | cons e rest ih =>
    obtain ⟨k, old⟩ := e
    simp only [keys] at ih
    cases h : k.sameKey key with
    | true => simp [put, keys, h]
    | false =>
      simp only [put, h, Bool.false_eq_true, if_false, keys, List.map_cons, ih, List.any_cons,
        Bool.false_or]
      split
      · rename_i ha
        simp [ha]
      · rename_i ha
        simp [ha]

end Entries

namespace Value

@[simp] theorem sameKey_text (a b : String) : (text a).sameKey (text b) = (a == b) := by
  rw [Bool.eq_iff_iff]
  simp [sameKey, key?]

/-- The value under a key of a mapping; other values have no keys. -/
def get? (v : Value) (key : String) : Option Value :=
  match v with
  | map entries _ => Entries.get? entries (.text key)
  | _ => none

end Value

end Tripwire

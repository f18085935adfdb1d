import Tripwire.Pattern.Program

/-!
# Running programs

A backtracking search for a way through the steps of a program. The rest of a program is an argument,
so that a step can try what follows it for every choice that it has. `_full_match_any` of
`failfast.filters` asks for such a match of a whole text.

The ends of groups are notes that a failed attempt may leave behind. Where an attempt is made inside a
loop its notes are taken back before the next attempt; elsewhere only the highest index in use is, so
a note below it stays. Conditions and back references can see such notes.
-/

namespace Tripwire.Pattern

/-- The noted ends of groups. Notes at `count` and above are not in use. -/
structure Marks where
  count : Nat
  ends : List (Option Nat)
deriving DecidableEq, Repr

def Marks.empty : Marks := ⟨0, []⟩

/-- Notes a position. Indices that come into use on the way have no position. -/
def Marks.put (m : Marks) (index pos : Nat) : Marks :=
  if index < m.count then { m with ends := m.ends.set index (some pos) }
  else
    let kept := m.ends.take m.count
    { count := index + 1
      ends := kept ++ List.replicate (index - kept.length) none ++ [some pos] }

/-- The start and the stop of a group, if both are noted in order. -/
def Marks.span? (m : Marks) (group : Nat) : Option (Nat × Nat) :=
  if 2 * group + 1 < m.count then
    match m.ends[2 * group]?, m.ends[2 * group + 1]? with
    | some (some a), some (some b) => if a ≤ b then some (a, b) else none
    | _, _ => none
  else none

/-- Whether both ends of a group are noted and the stop lies before the start. -/
def Marks.crossed (m : Marks) (group : Nat) : Bool :=
  2 * group + 1 < m.count &&
    match m.ends[2 * group]?, m.ends[2 * group + 1]? with
    | some (some a), some (some b) => b < a
    | _, _ => false

/-- Takes back what an attempt noted: everything inside a loop, elsewhere only the highest index. -/
def Marks.backTo (saved : Marks) (inLoop : Bool) (now : Marks) : Marks :=
  if inLoop then saved else { now with count := saved.count }

/-- A loop that is being gone through: the number of rounds begun before, and where the last round
began. -/
structure Round where
  count : Nat
  last : Option Nat
deriving DecidableEq, Repr

/-- How an attempt ends. The notes of a failed attempt are part of its end. -/
inductive Outcome where
  | hit (pos : Nat) (marks : Marks)
  | miss (marks : Marks)

/-- The number of characters from a position on that pass a test, at most `limit`. -/
def countFrom (text : Array Char) (test : CharTest) : Nat → Nat → Nat
  | 0, _ => 0
  | limit + 1, pos =>
    match text[pos]? with
    | some c => if test.passes c then countFrom text test limit (pos + 1) + 1 else 0
    | none => 0

/-- Whether the text from one position on repeats a span of it. -/
def repeats (text : Array Char) (fold : Fold) : Nat → Nat → Nat → Bool
  | 0, _, _ => true
  | n + 1, a, pos =>
    match text[a]?, text[pos]? with
    | some x, some y => fold.apply x.toNat == fold.apply y.toNat && repeats text fold n (a + 1) (pos + 1)
    | _, _ => false

def Spot.holds (text : Array Char) (pos : Nat) : Spot → Bool
  | textStart => pos == 0
  | lineStart => pos == 0 || text[pos - 1]? == some '\n'
  | textStop => pos == text.size
  | lineStop => pos == text.size || text[pos]? == some '\n'
  | lastLineStop => pos == text.size || (pos + 1 == text.size && text[pos]? == some '\n')
  | boundary ascii negated =>
    if text.isEmpty then false
    else
      let isWord (c : Option Char) : Bool :=
        match c with
        | some c => Category.word.holds ascii c.toNat
        | none => false
      let before := if pos = 0 then false else isWord text[pos - 1]?
      (before != isWord text[pos]?) != negated

/-- Attempts with one character fewer each, from `extra` more than the least number down to it. -/
def tryFewer (attempt : Nat → Marks → Outcome) (inLoop : Bool) (saved : Marks) (start : Nat) :
    Nat → Marks → Outcome
  | extra, marks =>
    match attempt (start + extra) marks with
    | .hit pos marks => .hit pos marks
    | .miss marks =>
      let marks := saved.backTo inLoop marks
      match extra with
      | 0 => .miss marks
      | less + 1 => tryFewer attempt inLoop saved start less marks

/-- Attempts with one character more each, while there are characters and attempts left. -/
def tryMore (attempt : Nat → Marks → Outcome) (more : Nat → Bool) (inLoop : Bool) (saved : Marks) :
    Nat → Nat → Marks → Outcome
  | extra, pos, marks =>
    match attempt pos marks with
    | .hit pos marks => .hit pos marks
    | .miss marks =>
      let marks := saved.backTo inLoop marks
      match extra with
      | 0 => .miss marks
      | less + 1 =>
        if more pos then tryMore attempt more inLoop saved less (pos + 1) marks else .miss marks

def tryEach (attempt : List Step → Marks → Outcome) (inLoop : Bool) (saved : Marks) :
    List (List Step) → Marks → Outcome
  | [], marks => .miss marks
  | steps :: rest, marks =>
    match attempt steps marks with
    | .hit pos marks => .hit pos marks
    | .miss marks => tryEach attempt inLoop saved rest (saved.backTo inLoop marks)

/-- Goes through the rounds of a possessive repetition: those that have to succeed, then as many as do,
up to one that takes nothing. -/
def rounds (attempt : Nat → Marks → Outcome) : Nat → Nat → Option Nat → Option Nat → Nat → Marks → Outcome
  | 0, _, _, _, pos, marks => .hit pos marks
  | fuel + 1, needed + 1, more, last, pos, marks =>
    match attempt pos marks with
    | .hit pos marks => rounds attempt fuel needed more last pos marks
    | .miss marks => .miss marks
  | fuel + 1, 0, more, last, pos, marks =>
    if more = some 0 ∨ last = some pos then .hit pos marks
    else
      match attempt pos marks with
      | .hit next marks => rounds attempt fuel 0 (more.map (· - 1)) (some pos) next marks
      | .miss _ => .hit pos marks

/-- Goes through steps from a position on. `whole` tells whether the end of the steps has to be the
end of the text. `fuel` bounds the number of steps in a row. -/
def run (text : Array Char) : Nat → Bool → List Step → List Round → Nat → Marks → Outcome
  | 0, _, _, _, _, marks => .miss marks
  | _ + 1, whole, [], _, pos, marks =>
    if whole && pos != text.size then .miss marks else .hit pos marks
  | fuel + 1, whole, step :: rest, loops, pos, marks =>
    let inLoop := !loops.isEmpty
    match step with
    | .char test =>
      match text[pos]? with
      | some c =>
        if test.passes c then run text fuel whole rest loops (pos + 1) marks else .miss marks
      | none => .miss marks
    | .spot s => if s.holds text pos then run text fuel whole rest loops pos marks else .miss marks
    | .mark index => run text fuel whole rest loops pos (marks.put index pos)
    | .branch alternatives =>
      tryEach (fun steps m => run text fuel whole (steps ++ rest) loops pos m) inLoop marks
        alternatives marks
    | .repeatChar greed min max test =>
      let room := text.size - pos
      let limit := match max with
        | some m => Nat.min m room
        | none => room
      match greed with
      | .greedy =>
        let n := countFrom text test limit pos
        if n < min then .miss marks
        else
          tryFewer (fun p m => run text fuel whole rest loops p m) inLoop marks (pos + min) (n - min)
            marks
      | .lazy =>
        if countFrom text test min pos < min then .miss marks
        else
          let extra := match max with
            | some m => m - min
            | none => room
          tryMore (fun p m => run text fuel whole rest loops p m)
            (fun p => countFrom text test 1 p == 1) inLoop marks extra (pos + min) marks
      | .possessive =>
        let n := countFrom text test limit pos
        if n < min then .miss marks else run text fuel whole rest loops (pos + n) marks
    | .loop lazy min max body =>
      run text fuel whole (.again lazy min max body :: rest) (⟨0, none⟩ :: loops) pos marks
    | .again lazy min max body =>
      match loops with
      | [] => .miss marks
      | round :: outer =>
        let next := step :: rest
        let canGo := (match max with
          | some m => round.count < m
          | none => true) && round.last != some pos
        if round.count < min then
          run text fuel whole (body ++ next) (⟨round.count + 1, round.last⟩ :: outer) pos marks
        else if lazy then
          match run text fuel whole rest outer pos marks with
          | .hit pos marks => .hit pos marks
          | .miss after =>
            let marks := marks.backTo (!outer.isEmpty) after
            if canGo then
              run text fuel whole (body ++ next) (⟨round.count + 1, some pos⟩ :: outer) pos marks
            else .miss marks
        else if canGo then
          match run text fuel whole (body ++ next) (⟨round.count + 1, some pos⟩ :: outer) pos marks with
          | .hit pos marks => .hit pos marks
          | .miss _ => run text fuel whole rest outer pos marks
        else run text fuel whole rest outer pos marks
    | .possessive min max body =>
      let room := text.size - pos + 2
      match rounds (fun p m => run text fuel false body loops p m) (min + room) min
        (max.map (· - min)) none pos marks with
      | .hit pos marks => run text fuel whole rest loops pos marks
      | .miss marks => .miss marks
    | .atomic body =>
      match run text fuel false body loops pos marks with
      | .hit pos marks => run text fuel whole rest loops pos marks
      | .miss marks => .miss marks
    | .look back negated body =>
      if negated then
        if pos < back then run text fuel whole rest loops pos marks
        else
          match run text fuel false body loops (pos - back) marks with
          | .hit _ marks => .miss marks
          | .miss after => run text fuel whole rest loops pos (marks.backTo inLoop after)
      else if pos < back then .miss marks
      else
        match run text fuel false body loops (pos - back) marks with
        | .hit _ marks => run text fuel whole rest loops pos marks
        | .miss marks => .miss marks
    | .backref group fold =>
      match marks.span? group with
      | some (a, b) =>
        if repeats text fold (b - a) a pos then run text fuel whole rest loops (pos + (b - a)) marks
        else .miss marks
      | none => .miss marks
    | .conditional group yes no =>
      run text fuel whole ((if (marks.span? group).isSome then yes else no) ++ rest) loops pos marks

mutual

/-- A bound on the number of steps in a row that one step leads to in a text of `size` characters. -/
def Step.cost (size : Nat) : Step → Nat
  | .char _ | .spot _ | .mark _ | .repeatChar _ _ _ _ | .backref _ _ => 1
  | .branch alternatives => 1 + Step.costOfAny size alternatives
  | .loop _ min _ body | .again _ min _ body | .possessive min _ body =>
    2 + (min + size + 2) * (2 + Step.costOfAll size body)
  | .atomic body | .look _ _ body => 2 + Step.costOfAll size body
  | .conditional _ yes no => 1 + Step.costOfAll size yes + Step.costOfAll size no

def Step.costOfAll (size : Nat) : List Step → Nat
  | [] => 0
  | step :: rest => Step.cost size step + Step.costOfAll size rest

def Step.costOfAny (size : Nat) : List (List Step) → Nat
  | [] => 0
  | steps :: rest => Step.costOfAll size steps + Step.costOfAny size rest

end

/-- Whether a program takes a whole text. A way through on which the ends of a group were noted in the
wrong order is an error. -/
def takesWhole (steps : List Step) (text : String) : Except Error Bool :=
  let chars := text.toList.toArray
  match run chars (Step.costOfAll chars.size steps + 2) true steps [] 0 Marks.empty with
  | .hit _ marks =>
    if (List.range (marks.count / 2)).any marks.crossed then .error .groupCrossed else .ok true
  | .miss _ => .ok false

def fullMatch (pattern text : String) : Except Error Bool := do
  let steps ← program pattern
  takesWhole steps text

end Tripwire.Pattern

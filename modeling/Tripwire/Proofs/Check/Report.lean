import Mathlib.Data.List.Forall2
import Tripwire.Proofs.Event.Meaning
import Tripwire.Proofs.Event.Stamp
import Tripwire.Proofs.Text.Lines

/-!
# The lines of a report

A report has a heading, a line for each event, the line `Filter:` and a line for each field of the
criteria that is set. It writes what it is given as it is: a line feed in a message, a name or a value
ends a line there, so the report has one line more for each of them.
-/

namespace Tripwire

open Time (Moment)

theorem feeds_isoUtc {m : Moment} {text : String} (h : isoUtc m = .ok text) : Text.feeds text = 0 := by
  rw [isoUtc] at h
  cases hu : m.toUtc? with
  | none => simp [hu] at h
  | some u =>
    simp only [hu, Except.ok.injEq] at h
    have hbody : '\n' ∉ u.date.iso.toList ++ 'T' :: u.clock.iso.toList := by
      intro hmem
      rcases Time.mem_iso hmem with hdigit | hmark
      · cases hdigit
      · revert hmark
        decide
    rw [Text.feeds_eq_zero_iff, ← h]
    simpa using hbody

namespace Criteria

/-! ### What is shown -/

/-- The order in which a report shows fields. -/
def Field.shown : List Field := [.kinds, .names, .reasons, .messages, .types, .after]

def Field.label : Field → String
  | .kinds => "obj kinds"
  | .names => "obj names"
  | .reasons => "event reasons"
  | .messages => "messages"
  | .types => "event types"
  | .after => "after"

/-- The values of a field, if it is set and holds texts. -/
def values? (c : Criteria) : Field → Option (List String)
  | .kinds => c.kinds
  | .names => c.names
  | .reasons => c.reasons
  | .messages => c.messages
  | .types => c.types
  | .after => none

def isSet (c : Criteria) : Field → Bool
  | .after => c.after.isSome
  | f => (c.values? f).isSome

def setFields (c : Criteria) : List Field := Field.shown.filter c.isSet

/-- How a field that is set is shown. -/
inductive ShowsField (c : Criteria) : Field → String → Prop where
  | values {f : Field} {vs : List String} (set : c.values? f = some vs) :
    ShowsField c f ("\t " ++ (f.label ++ ": " ++ bracketed vs))
  | after {m : Moment} {text : String} (set : c.after = some m) (written : isoUtc m = .ok text) :
    ShowsField c .after ("\t " ++ ("after: " ++ text))

/-- How an event is shown: when it was last seen, its object and its message. -/
inductive ShowsEvent (e : Event) : String → Prop where
  | seen {m : Moment} {text : String} (last : e.lastSeen = some m) (written : isoUtc m = .ok text) :
    ShowsEvent e ("\t" ++ text ++ "\t" ++ e.object.kind ++ "/" ++ e.object.name ++ "\t" ++ e.message)
  | unseen (last : e.lastSeen = none) :
    ShowsEvent e ("\t" ++ "None" ++ "\t" ++ e.object.kind ++ "/" ++ e.object.name ++ "\t" ++ e.message)

/-- The texts that a report shows as they are. -/
def shownTexts (c : Criteria) (events : List Event) : List String :=
  (events.flatMap fun e => [e.object.kind, e.object.name, e.message]) ++
    c.setFields.flatMap fun f => (c.values? f).getD []

/-- One line for each event between the heading and `Filter:`, then one for each field that is set. -/
structure LaysOut (c : Criteria) (events : List Event) (condition : String) (lines : List String) :
    Prop where
  count : lines.length = 1 + events.length + 1 + c.setFields.length
  heading : lines[0]? = some ("Following events match condition: <" ++ condition ++ ">")
  event (i : Nat) (e : Event) (at_place : events[i]? = some e) :
    ∃ line, lines[1 + i]? = some line ∧ ShowsEvent e line
  filter : lines[1 + events.length]? = some "Filter:"
  fields : List.Forall₂ c.ShowsField c.setFields (lines.drop (1 + events.length + 1))

/-! ### Events -/

theorem showsEvent_of_eventLine {e : Event} {line : String} (h : eventLine e = .ok line) :
    ShowsEvent e line := by
  rw [eventLine] at h
  cases hlast : e.lastSeen with
  | none =>
    rw [hlast] at h
    cases h
    exact .unseen hlast
  | some m =>
    rw [hlast] at h
    obtain ⟨text, htext, h⟩ := bind_eq_ok.1 h
    cases h
    exact .seen hlast htext

theorem feeds_of_showsEvent {e : Event} {line : String} (h : ShowsEvent e line) :
    Text.feeds line =
      Text.feeds e.object.kind + Text.feeds e.object.name + Text.feeds e.message := by
  have hseen (seen : String) (hnone : Text.feeds seen = 0) :
      Text.feeds ("\t" ++ seen ++ "\t" ++ e.object.kind ++ "/" ++ e.object.name ++ "\t" ++ e.message) =
        Text.feeds e.object.kind + Text.feeds e.object.name + Text.feeds e.message := by
    have htab : Text.feeds "\t" = 0 := by decide
    have hslash : Text.feeds "/" = 0 := by decide
    simp only [Text.feeds_append, hnone, htab, hslash]
    omega
  cases h with
  | seen _ hwritten => exact hseen _ (feeds_isoUtc hwritten)
  | unseen _ => exact hseen _ (by decide)

theorem feeds_eventLines {events : List Event} {shown : List String}
    (h : events.mapM eventLine = .ok shown) :
    (shown.map Text.feeds).sum =
      ((events.flatMap fun e => [e.object.kind, e.object.name, e.message]).map Text.feeds).sum := by
  induction events generalizing shown with
  | nil =>
    cases h
    rfl
  | cons e rest ih =>
    rw [List.mapM_cons] at h
    obtain ⟨line, hline, h⟩ := bind_eq_ok.1 h
    obtain ⟨lines, hlines, h⟩ := bind_eq_ok.1 h
    cases h
    have hfirst := feeds_of_showsEvent (showsEvent_of_eventLine hline)
    have hrest := ih hlines
    simp only [List.flatMap_cons, List.map_append, List.map_cons, List.map_nil, List.sum_append,
      List.sum_cons, List.sum_nil]
    omega

/-! ### Fields -/

theorem feeds_intercalate (vs : List String) :
    Text.feeds (", ".intercalate vs) = (vs.map Text.feeds).sum := by
  induction vs with
  | nil => rw [String.intercalate_nil]; decide
  | cons v rest ih =>
    cases rest with
    | nil => simp
    | cons next rest =>
      have hcomma : Text.feeds ", " = 0 := by decide
      rw [String.intercalate_cons_cons, Text.feeds_append, Text.feeds_append, ih, hcomma,
        List.map_cons (l := next :: rest), List.sum_cons (l := List.map _ _), Nat.add_zero]

theorem feeds_of_showsField {c : Criteria} {f : Field} {line : String} (h : c.ShowsField f line) :
    Text.feeds line = (((c.values? f).getD []).map Text.feeds).sum := by
  have hlabel (f : Field) : Text.feeds f.label = 0 := by cases f <;> decide
  cases h with
  | values set =>
    have hfront : Text.feeds "\t " = 0 ∧ Text.feeds ": " = 0 ∧ Text.feeds "[" = 0 ∧ Text.feeds "]" = 0 := by
      decide
    obtain ⟨htab, hcolon, hopen, hclose⟩ := hfront
    rw [set, Option.getD_some]
    simp only [bracketed, Text.feeds_append, hlabel, htab, hcolon, hopen, hclose, feeds_intercalate]
    omega
  | after set hwritten =>
    have hfront : Text.feeds "\t " = 0 ∧ Text.feeds "after: " = 0 := by decide
    obtain ⟨htab, hafter⟩ := hfront
    simp only [Text.feeds_append, htab, hafter, feeds_isoUtc hwritten]
    rfl

theorem feeds_fieldLines {c : Criteria} {fields : List Field} {lines : List String}
    (h : List.Forall₂ c.ShowsField fields lines) :
    (lines.map Text.feeds).sum =
      ((fields.flatMap fun f => (c.values? f).getD []).map Text.feeds).sum := by
  induction h with
  | nil => rfl
  | cons hfirst _ ih =>
    rw [List.map_cons, List.sum_cons, feeds_of_showsField hfirst, ih, List.flatMap_cons, List.map_append,
      List.sum_append]

/-- The line of a field that holds texts, if it is set. -/
def fieldLine (c : Criteria) (f : Field) : List String :=
  ((c.values? f).map fun vs => f.label ++ ": " ++ bracketed vs).toList

theorem showsField_fieldLine {c : Criteria} {f : Field} (h : f ≠ .after) :
    List.Forall₂ c.ShowsField ([f].filter c.isSet) ((c.fieldLine f).map ("\t " ++ ·)) := by
  have hset : c.isSet f = (c.values? f).isSome := by
    cases f with
    | after => exact absurd rfl h
    | _ => rfl
  rw [List.filter_singleton, hset, fieldLine]
  cases hvalues : c.values? f with
  | none => exact .nil
  | some vs => exact .cons (.values hvalues) .nil

theorem showsFields_of_describe {c : Criteria} {fields : List String} (h : c.describe = .ok fields) :
    List.Forall₂ c.ShowsField c.setFields (fields.map ("\t " ++ ·)) := by
  have hparts (bound : List String)
      (hbound : List.Forall₂ c.ShowsField ([Field.after].filter c.isSet) (bound.map ("\t " ++ ·)))
      (hfields : fields = c.fieldLine .kinds ++ c.fieldLine .names ++ c.fieldLine .reasons ++
        c.fieldLine .messages ++ c.fieldLine .types ++ bound) :
      List.Forall₂ c.ShowsField c.setFields (fields.map ("\t " ++ ·)) := by
    have hsplit : c.setFields = [Field.kinds].filter c.isSet ++ [Field.names].filter c.isSet ++
        [Field.reasons].filter c.isSet ++ [Field.messages].filter c.isSet ++
        [Field.types].filter c.isSet ++ [Field.after].filter c.isSet := by
      simp only [← List.filter_append]
      rfl
    have hshow (f : Field) (hf : f ≠ .after) := showsField_fieldLine (c := c) hf
    rw [hsplit, hfields]
    simp only [List.map_append]
    refine List.rel_append (List.rel_append (List.rel_append (List.rel_append (List.rel_append ?_ ?_)
      ?_) ?_) ?_) hbound
    all_goals exact hshow _ (by simp)
  rw [describe] at h
  cases hset : c.after with
  | none =>
    rw [hset] at h
    cases h
    refine hparts [] ?_ rfl
    simp [isSet, hset]
  | some m =>
    rw [hset] at h
    obtain ⟨text, htext, h⟩ := bind_eq_ok.1 h
    cases h
    refine hparts ["after: " ++ text] ?_ rfl
    simp only [isSet, hset, List.filter_singleton, Option.isSome_some]
    exact .cons (.after hset htext) .nil

/-! ### The whole report -/

def reportLines (condition : String) (shown fields : List String) : List String :=
  ("Following events match condition: <" ++ condition ++ ">") ::
    (shown ++ "Filter:" :: fields.map ("\t " ++ ·))

theorem report_eq_ok {c : Criteria} {events : List Event} {condition text : String}
    (h : c.report events condition = .ok text) :
    ∃ shown fields, events.mapM eventLine = .ok shown ∧ c.describe = .ok fields ∧
      text = "\n".intercalate (reportLines condition shown fields) ++ "\n" := by
  obtain ⟨shown, hshown, h⟩ := bind_eq_ok.1 h
  obtain ⟨fields, hfields, h⟩ := bind_eq_ok.1 h
  refine ⟨shown, fields, hshown, hfields, ?_⟩
  rw [← Except.ok.inj h, reportLines]
  simp

/-- What stands between the line feeds of a report has those of the texts that are shown. -/
theorem feeds_reportLines {c : Criteria} {events : List Event} {condition : String}
    {shown fields : List String} (hcondition : '\n' ∉ condition.toList)
    (hshown : events.mapM eventLine = .ok shown) (hfields : c.describe = .ok fields) :
    ((reportLines condition shown fields).map Text.feeds).sum =
      ((c.shownTexts events).map Text.feeds).sum := by
  have hheading : Text.feeds ("Following events match condition: <" ++ condition ++ ">") = 0 := by
    have hfront : Text.feeds "Following events match condition: <" = 0 := by decide
    have hback : Text.feeds ">" = 0 := by decide
    rw [Text.feeds_append, Text.feeds_append, hfront, Text.feeds_eq_zero_iff.2 hcondition, hback]
  have hfilter : Text.feeds "Filter:" = 0 := by decide
  have hevents := feeds_eventLines hshown
  have hlines := feeds_fieldLines (showsFields_of_describe hfields)
  rw [reportLines, shownTexts, List.map_cons, List.sum_cons, List.map_append, List.sum_append,
    List.map_cons, List.sum_cons, List.map_append, List.sum_append, hheading, hfilter, hevents, hlines,
    setFields]
  omega

theorem laysOut_reportLines {c : Criteria} {events : List Event} {condition : String}
    {shown fields : List String} (hshown : events.mapM eventLine = .ok shown)
    (hfields : c.describe = .ok fields) :
    c.LaysOut events condition (reportLines condition shown fields) := by
  have hlen : shown.length = events.length := length_mapM_ok hshown
  have hfield := showsFields_of_describe hfields
  have hlenFields : c.setFields.length = fields.length := by
    rw [hfield.length_eq, List.length_map]
  refine ⟨?_, rfl, fun i e he => ?_, ?_, ?_⟩
  · simp only [reportLines, List.length_cons, List.length_append, List.length_map, hlen, hlenFields]
    omega
  · obtain ⟨line, hline, hread⟩ := getElem?_mapM_ok hshown he
    refine ⟨line, ?_, showsEvent_of_eventLine hread⟩
    have hi : i < shown.length := (List.getElem?_eq_some_iff.1 hline).1
    rw [reportLines, Nat.add_comm, List.getElem?_cons_succ, List.getElem?_append_left hi, hline]
  · rw [reportLines, Nat.add_comm, List.getElem?_cons_succ, List.getElem?_append_right (by omega), hlen,
      Nat.sub_self]
    rfl
  · have hdrop : (reportLines condition shown fields).drop (1 + events.length + 1) =
        fields.map ("\t " ++ ·) := by
      rw [reportLines, Nat.add_comm 1, List.drop_succ_cons, ← hlen, List.drop_append]
      simp
    rw [hdrop]
    exact hfield

/-- A report is made of lines: one for the heading, one for each event, one that says `Filter:`, one
for each field that is set, and one more for each line feed in a text that is shown. So it is laid out
line by line exactly if none of these texts has a line feed. -/
theorem report_laid_out_iff {c : Criteria} {events : List Event} {condition text : String}
    (hcondition : '\n' ∉ condition.toList) (h : c.report events condition = .ok text) :
    ∃ lines, Text.IsLines lines text ∧
      lines.length = 1 + events.length + 1 + c.setFields.length +
        ((c.shownTexts events).map Text.feeds).sum ∧
      (c.LaysOut events condition lines ↔ ∀ t ∈ c.shownTexts events, '\n' ∉ t.toList) := by
  obtain ⟨shown, fields, hshown, hfields, htext⟩ := report_eq_ok h
  have hout : c.LaysOut events condition (reportLines condition shown fields) :=
    laysOut_reportLines hshown hfields
  have hended : text.toList = Text.ended (reportLines condition shown fields) := by
    have hne : reportLines condition shown fields ≠ [] := List.cons_ne_nil _ _
    rw [htext, Text.toList_ended hne]
  obtain ⟨lines, hlines⟩ : ∃ lines, Text.IsLines lines text := by
    have hofList := Text.exists_isLines ("\n".intercalate (reportLines condition shown fields)).toList
    rwa [htext, ← String.ofList_toList (s := _ ++ _), String.toList_append]
  have hcount : lines.length = 1 + events.length + 1 + c.setFields.length +
      ((c.shownTexts events).map Text.feeds).sum := by
    rw [hlines.length_eq, Text.feeds, hended, Text.count_ended, hout.count,
      feeds_reportLines hcondition hshown hfields]
  refine ⟨lines, hlines, hcount, fun hlaid => ?_, fun hnone => ?_⟩
  · rw [← Text.sum_feeds_eq_zero_iff]
    have hlen := hlaid.count
    omega
  · have hsum := feeds_reportLines hcondition hshown hfields
    rw [Text.sum_feeds_eq_zero_iff.2 hnone, Text.sum_feeds_eq_zero_iff] at hsum
    rw [hlines.unique ⟨hended, hsum⟩]
    exact hout

/-- Two events, one of them seen at a known time, and two fields that are set, one of them to nothing. -/
theorem two_events_take_two_lines :
    let c : Criteria := { kinds := some ["pod", "build"], messages := some [] }
    let first : Event := { object := { kind := "Pod", name := "app" }, lastSeen := some Moment.first }
    let second : Event := { object := { kind := "Build", name := "b1" }, message := "failed" }
    ∃ text lines, c.report [first, second] atLeastOne = .ok text ∧ Text.IsLines lines text ∧
      c.LaysOut [first, second] atLeastOne lines := by
  intro c first second
  obtain ⟨text, htext⟩ : ∃ text, c.report [first, second] atLeastOne = .ok text :=
    (c.okIff_report [first, second] atLeastOne).1 (by decide)
  obtain ⟨lines, hlines, -, hiff⟩ := report_laid_out_iff (by decide) htext
  exact ⟨text, lines, htext, hlines, hiff.2 (by decide)⟩

theorem message_of_two_lines_takes_two :
    let e : Event := { object := { kind := "Pod", name := "app" }, message := "first\nsecond" }
    ∃ text lines, ({} : Criteria).report [e] atLeastOne = .ok text ∧ Text.IsLines lines text ∧
      lines.length = 4 ∧ ¬({} : Criteria).LaysOut [e] atLeastOne lines := by
  intro e
  let lines := ["Following events match condition: <at least one exists>", "\tNone\tPod/app\tfirst",
    "second", "Filter:"]
  refine ⟨"\n".intercalate lines ++ "\n", lines, rfl, ⟨by decide, by decide⟩, rfl, fun h => ?_⟩
  cases h.count

end Criteria

end Tripwire

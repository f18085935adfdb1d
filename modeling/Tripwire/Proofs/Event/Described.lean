import Tripwire.Proofs.Event.Leaf

/-!
# Entries and their events

An entry whose parts are mappings, absent or empty describes an event, whatever its leaves hold. The
only exception is an infinite count.
-/

namespace Tripwire

open Time (Moment)

variable {W α β : Type}

theorem Act.reads_ok {r : Except Fault α} {a : α} (h : r = .ok a) :
    (Act.ofExcept r : Act W α).Reads (.ok a) := h ▸ Act.reads_ofExcept r

theorem Act.Reads.andThen {act : Act W α} {next : α → Act W β} {a : α} {r : Except Fault β}
    (h : act.Reads (.ok a)) (h' : (next a).Reads r) : (act >>= next).Reads r := by
  obtain ⟨notes, hact⟩ := h
  obtain ⟨more, hnext⟩ := h'
  refine ⟨notes ++ more, fun s => ?_⟩
  rw [Act.on_bind_ok (hact s), hnext]
  simp only [List.append_assoc]

namespace Value

/-- That what stands for a part of an entry counts as absent or is a mapping. -/
def IsPart (v : Value) : Prop := v.isTruthy = true → v.kind = .map

instance : DecidablePred IsPart := fun v => inferInstanceAs (Decidable (v.isTruthy = true → v.kind = .map))

theorem lookup_of_map {v : Value} (h : v.kind = .map) (key : String) :
    v.lookup key = .ok (v.leaf key) := by
  cases v with
  | map entries anchor => rfl
  | _ => cases h

/-- A part is read as a mapping with the same leaves. -/
theorem IsPart.orEmptyMap {v : Value} (h : v.IsPart) :
    v.orEmptyMap.kind = .map ∧ ∀ key, v.orEmptyMap.leaf key = v.leaf key := by
  unfold Value.orEmptyMap
  split
  · rename_i htruthy
    exact ⟨h htruthy, fun _ => rfl⟩
  · rename_i hfalsy
    refine ⟨rfl, fun key => ?_⟩
    cases v with
    | map entries anchor =>
      cases entries with
      | nil => rfl
      | cons e rest => exact absurd rfl hfalsy
    | _ => rfl

theorem Decoded.exists_textAt {v : Value} (h : v.Decoded) (hmap : v.kind = .map) (key : String) :
    ∃ t, v.textAt key = .ok t ∧ (v.leaf key).Says t := by
  obtain ⟨t, ht, hsays⟩ := (h.leaf key).exists_leafText
  refine ⟨t, ?_, hsays⟩
  rw [textAt, lookup_of_map hmap]
  exact ht

theorem Decoded.exists_textAt_part {v : Value} (h : v.Decoded) (hpart : v.IsPart) (key : String) :
    ∃ t, v.orEmptyMap.textAt key = .ok t ∧ (v.leaf key).Says t := by
  obtain ⟨hmap, hleaf⟩ := hpart.orEmptyMap
  obtain ⟨t, ht, hsays⟩ := (h.leaf key).exists_leafText
  refine ⟨t, ?_, hsays⟩
  rw [textAt, lookup_of_map hmap, hleaf]
  exact ht

end Value

/-- That an event is the one that the leaves of an entry tell of. -/
structure Event.Describes (e : Event) (entry : Value) : Prop where
  kind : ((entry.leaf "involvedObject").leaf "kind").Says e.object.kind
  objectName : ((entry.leaf "involvedObject").leaf "name").Says e.object.name
  objectSpace : ((entry.leaf "involvedObject").leaf "namespace").Says e.object.space
  reason : (entry.leaf "reason").Says e.reason
  message : (entry.leaf "message").Says e.message
  type : (entry.leaf "type").Says e.type
  name : ((entry.leaf "metadata").leaf "name").Says e.name
  space : ((entry.leaf "metadata").leaf "namespace").Says e.space
  component : ((entry.leaf "source").leaf "component").Says e.component
  lastSeen : e.lastSeen = (entry.leaf "lastTimestamp").moment?
  firstSeen : e.firstSeen = (entry.leaf "firstTimestamp").moment?
  aware : ∀ m, e.lastSeen = some m ∨ e.firstSeen = some m → m.offset.isSome = true
  count : (entry.leaf "count").Counts e.count

/-- A mapping that a JSON text can hold, with its parts in place. -/
structure Value.IsEntry (entry : Value) : Prop where
  map : entry.kind = .map
  decoded : entry.Decoded
  parts : ∀ key ∈ ["involvedObject", "metadata", "source"], (entry.leaf key).IsPart

/-- What it takes for a value that was read from a JSON text to be an entry. -/
def Value.looksLikeEntry (v : Value) : Bool :=
  v.kind == .map &&
    ["involvedObject", "metadata", "source"].all fun key => decide (v.leaf key).IsPart

theorem Value.isEntry_of_readDocument {cs : List Char} {entry : Value}
    (hread : Json.readDocument cs = .ok entry) (h : entry.looksLikeEntry = true) : entry.IsEntry := by
  obtain ⟨hmap, hparts⟩ := Bool.and_eq_true_iff.1 h
  refine ⟨eq_of_beq hmap, Json.decoded_readDocument hread, fun key hkey => ?_⟩
  exact of_decide_eq_true (List.all_eq_true.1 hparts key hkey)

namespace Event

variable {entry : Value}

/-- The leaves before the count never fail, and no more do those after it. -/
theorem reads_of_count (h : entry.IsEntry) :
    ∃ describe : Int → Event, (∀ n, (entry.leaf "count").Counts n → (describe n).Describes entry) ∧
      (Event.ofEntry entry : Act W Event).Reads
        ((entry.leaf "count").count >>= fun n => .ok (describe n)) := by
  have hlookup (key : String) := Value.lookup_of_map h.map key
  have htext (key : String) := h.decoded.exists_textAt h.map key
  have hpart (part : String) (hmem : part ∈ ["involvedObject", "metadata", "source"])
      (key : String) := (h.decoded.leaf part).exists_textAt_part (h.parts part hmem) key
  obtain ⟨kind, hkind, hkind'⟩ := hpart "involvedObject" (by simp) "kind"
  obtain ⟨objectName, hobjectName, hobjectName'⟩ := hpart "involvedObject" (by simp) "name"
  obtain ⟨objectSpace, hobjectSpace, hobjectSpace'⟩ :=
    hpart "involvedObject" (by simp) "namespace"
  obtain ⟨reason, hreason, hreason'⟩ := htext "reason"
  obtain ⟨message, hmessage, hmessage'⟩ := htext "message"
  obtain ⟨type, htype, htype'⟩ := htext "type"
  obtain ⟨name, hname, hname'⟩ := hpart "metadata" (by simp) "name"
  obtain ⟨space, hspace, hspace'⟩ := hpart "metadata" (by simp) "namespace"
  obtain ⟨component, hcomponent, hcomponent'⟩ := hpart "source" (by simp) "component"
  let describe (count : Int) : Event := {
    object := { kind, name := objectName, space := objectSpace }
    reason, message, type, name, space, count, component
    lastSeen := (entry.leaf "lastTimestamp").moment?
    firstSeen := (entry.leaf "firstTimestamp").moment? }
  refine ⟨describe, fun n hn => ?_, ?_⟩
  · exact {
      kind := hkind', objectName := hobjectName', objectSpace := hobjectSpace', reason := hreason'
      message := hmessage', type := htype', name := hname', space := hspace'
      component := hcomponent', lastSeen := rfl, firstSeen := rfl, count := hn
      aware := fun m hm => hm.elim Value.offset_of_moment? Value.offset_of_moment? }
  · -- in the order in which the entry is read
    unfold Event.ofEntry
    refine (Act.reads_ok (hlookup "involvedObject")).andThen ?_
    refine (Act.reads_ok (hlookup "metadata")).andThen ?_
    refine (Act.reads_ok (hlookup "source")).andThen ?_
    refine (Act.reads_ok hkind).andThen ((Act.reads_ok hobjectName).andThen ?_)
    refine (Act.reads_ok hobjectSpace).andThen ((Act.reads_ok hreason).andThen ?_)
    refine (Act.reads_ok hmessage).andThen ((Act.reads_ok htype).andThen ?_)
    refine (Act.reads_ok (hlookup "lastTimestamp")).andThen ((Value.reads_timestamp _).andThen ?_)
    refine (Act.reads_ok hname).andThen ((Act.reads_ok hspace).andThen ?_)
    refine (Act.reads_ok (hlookup "count")).andThen ((Act.reads_ofExcept _).bind fun n => ?_)
    refine (Act.reads_ok (hlookup "firstTimestamp")).andThen ((Value.reads_timestamp _).andThen ?_)
    exact (Act.reads_ok hcomponent).andThen (Act.reads_pure _)

theorem exists_read (h : entry.IsEntry) (hcount : ¬(entry.leaf "count").IsInfinite) :
    ∃ e, read entry = .ok e ∧ e.Describes entry := by
  obtain ⟨describe, hdescribes, hreads⟩ := reads_of_count (W := Unit) h
  obtain ⟨n, hn, hcounts⟩ := Value.exists_count hcount
  refine ⟨describe n, ?_, hdescribes n hcounts⟩
  rw [read, hreads.on_eq, hn]
  rfl

theorem read_of_isInfinite (h : entry.IsEntry) (hcount : (entry.leaf "count").IsInfinite) :
    read entry = .error .infinityToWhole := by
  obtain ⟨describe, -, hreads⟩ := reads_of_count (W := Unit) h
  rw [read, hreads.on_eq, Value.count_of_isInfinite hcount]
  rfl

end Event

/-- An entry is read as the event that its leaves tell of, unless its count is infinite; then reading it
fails. -/
theorem entry_described_unless_infinite {entry : Value} (h : entry.IsEntry) (s : Stage W) :
    (¬(entry.leaf "count").IsInfinite →
      ∃ e, ((Event.ofEntry entry).on s).1 = .ok e ∧ e.Describes entry) ∧
    ((entry.leaf "count").IsInfinite →
      ((Event.ofEntry entry).on s).1 = .error .infinityToWhole) := by
  rw [(Event.reads_ofEntry entry).on_eq s]
  exact ⟨Event.exists_read h, Event.read_of_isInfinite h⟩

/-- An empty list for an object, a mapping for a message and a letter for a count. -/
theorem odd_leaves_are_described :
    let text := "\x7b\"involvedObject\": [], \"message\": \x7b\"a\": [NaN]\x7d, \"count\": \"x\"\x7d"
    ∃ entry e, Json.readDocument text.toList = .ok entry ∧
      ((Event.ofEntry entry : Act Unit Event).on { world := () }).1 = .ok e ∧ e.Describes entry := by
  intro text
  obtain ⟨entry, hread, hlook⟩ := exists_ok_of_toOption (x := Json.readDocument text.toList)
    (f := fun v => (v.looksLikeEntry, decide (v.leaf "count").IsInfinite)) (b := (true, false))
    (by decide +kernel)
  obtain ⟨hentry, hcount⟩ := Prod.mk.inj hlook
  obtain ⟨e, he, hdescribes⟩ := (entry_described_unless_infinite
    (Value.isEntry_of_readDocument hread hentry) { world := () }).1 (of_decide_eq_false hcount)
  exact ⟨entry, e, hread, he, hdescribes⟩

theorem infinite_count_has_no_event :
    ∃ entry, Json.readDocument "\x7b\"count\": Infinity\x7d".toList = .ok entry ∧ entry.IsEntry ∧
      ¬∃ e, ((Event.ofEntry entry : Act Unit Event).on { world := () }).1 = .ok e := by
  obtain ⟨entry, hread, hlook⟩ := exists_ok_of_toOption
    (x := Json.readDocument "\x7b\"count\": Infinity\x7d".toList)
    (f := fun v => (v.looksLikeEntry, decide (v.leaf "count").IsInfinite)) (b := (true, true))
    (by decide +kernel)
  obtain ⟨hentry, hcount⟩ := Prod.mk.inj hlook
  have h := Value.isEntry_of_readDocument hread hentry
  refine ⟨entry, hread, h, ?_⟩
  rintro ⟨e, he⟩
  have hfails := Event.read_of_isInfinite h (of_decide_eq_true hcount)
  rw [Event.read] at hfails
  rw [hfails] at he
  cases he

end Tripwire

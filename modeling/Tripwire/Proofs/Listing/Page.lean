import Tripwire.Cluster.Listing
import Tripwire.Proofs.Event.Reading

/-!
# Pages

What a response comes to as a page of a listing: a document with entries, each of which describes an
event, and a token. Anything else about it fails, and the first thing that does is the fault.
-/

namespace Tripwire

variable {W : Type}

/-- The page that a response shows, or the first thing that is wrong with it. -/
def Page.read (r : Response) : Except Fault Page :=
  if r.succeeded then do
    let document ← r.document
    let items ← document.lookup "items"
    let events ← Event.readEach (if items.isTruthy then items else .list [])
    let metadata ← document.lookup "metadata"
    let next ← metadata.orEmptyMap.lookup "continue"
    return { events, next }
  else .error (.httpStatus r.status)

theorem Page.reads_ofResponse (r : Response) :
    (Page.ofResponse r : Act W Page).Reads (Page.read r) := by
  rw [Page.ofResponse, Page.read]
  cases r.succeeded with
  | false => exact Act.reads_fail _
  | true =>
    exact (Act.reads_ofExcept _).bind fun document => (Act.reads_ofExcept _).bind fun items =>
      (Event.reads_ofEntries _).bind fun events => (Act.reads_ofExcept _).bind fun metadata =>
      (Act.reads_ofExcept _).bind fun next => Act.reads_pure _

/-! ### Pages without fault -/

/-- The entries under a value: nothing that counts as absent holds any. -/
def Value.Lists (v : Value) (entries : List Value) : Prop :=
  if v.isTruthy then v.items = .ok entries else entries = []

/-- The token in metadata, which is null where there is none. -/
def Value.Continues (v : Value) (token : Value) : Prop :=
  (v.isTruthy = false ∧ token = .null) ∨
  ∃ entries anchor, v = .map entries anchor ∧
    token = (Entries.get? entries (.text "continue")).getD .null

/-- That a response reports success and its body is a document with the given entries and token. -/
def Response.Shows (r : Response) (entries : List Value) (token : Value) : Prop :=
  (200 ≤ r.status ∧ r.status ≤ 299) ∧
  ∃ fields anchor, r.document = .ok (.map fields anchor) ∧
    ((Entries.get? fields (.text "items")).getD .null).Lists entries ∧
    ((Entries.get? fields (.text "metadata")).getD .null).Continues token

theorem Response.succeeded_iff (r : Response) :
    r.succeeded = true ↔ 200 ≤ r.status ∧ r.status ≤ 299 := by
  simp [Response.succeeded]

theorem Value.lookup_eq_ok {v found : Value} {key : String} :
    v.lookup key = .ok found ↔ ∃ fields anchor, v = .map fields anchor ∧
      found = (Entries.get? fields (.text key)).getD .null := by
  cases v with
  | map fields anchor =>
    constructor
    · intro h
      exact ⟨fields, anchor, rfl, (Except.ok.inj h).symm⟩
    · rintro ⟨fields', anchor', h, rfl⟩
      cases h
      rfl
  | _ =>
    constructor
    · intro h
      cases h
    · rintro ⟨fields, anchor, h, -⟩
      cases h

theorem Event.readEach_eq_ok {items : Value} {events : List Event} :
    Event.readEach (if items.isTruthy then items else .list []) = .ok events ↔
      ∃ entries, items.Lists entries ∧ entries.map Event.read = events.map .ok := by
  rw [Event.readEach, bind_eq_ok]
  simp only [Event.mapM_read_eq_ok, Value.Lists]
  cases items.isTruthy with
  | true => rfl
  | false =>
    have hempty (entries : List Value) : (Value.list []).items = .ok entries ↔ entries = [] :=
      ⟨fun h => (Except.ok.inj h).symm, fun h => congrArg Except.ok h.symm⟩
    simp only [Bool.false_eq_true, ↓reduceIte, hempty]

theorem Value.lookup_continue_eq_ok {metadata token : Value} :
    metadata.orEmptyMap.lookup "continue" = .ok token ↔ metadata.Continues token := by
  rw [Value.lookup_eq_ok, Value.Continues, Value.orEmptyMap]
  cases ht : metadata.isTruthy with
  | true => simp
  | false =>
    constructor
    · rintro ⟨fields, anchor, hmap, htoken⟩
      cases hmap
      exact Or.inl ⟨rfl, htoken⟩
    · rintro (⟨-, rfl⟩ | ⟨fields, anchor, rfl, rfl⟩)
      · exact ⟨[], none, rfl, rfl⟩
      · -- A mapping that counts as absent is empty.
        have hfields : fields = [] := by simpa [Value.isTruthy] using ht
        subst hfields
        exact ⟨[], none, rfl, rfl⟩

/-- A response comes to a page if it shows entries that all describe events; these are the events. -/
theorem Page.read_eq_ok {r : Response} {page : Page} :
    Page.read r = .ok page ↔
      ∃ entries, r.Shows entries page.next ∧ entries.map Event.read = page.events.map .ok := by
  rw [Page.read]
  by_cases hs : r.succeeded = true
  · rw [if_pos hs]
    constructor
    · intro h
      obtain ⟨document, hdocument, h⟩ := bind_eq_ok.1 h
      obtain ⟨items, hitems, h⟩ := bind_eq_ok.1 h
      obtain ⟨events, hevents, h⟩ := bind_eq_ok.1 h
      obtain ⟨metadata, hmetadata, h⟩ := bind_eq_ok.1 h
      obtain ⟨next, hnext, h⟩ := bind_eq_ok.1 h
      cases h
      obtain ⟨fields, anchor, rfl, rfl⟩ := Value.lookup_eq_ok.1 hitems
      obtain ⟨fields', anchor', hmap, rfl⟩ := Value.lookup_eq_ok.1 hmetadata
      cases hmap
      obtain ⟨entries, hlists, hread⟩ := Event.readEach_eq_ok.1 hevents
      have hcontinues := Value.lookup_continue_eq_ok.1 hnext
      have hstatus := (Response.succeeded_iff r).1 hs
      exact ⟨entries, ⟨hstatus, fields, anchor, hdocument, hlists, hcontinues⟩, hread⟩
    · rintro ⟨entries, ⟨-, fields, anchor, hdocument, hlists, hcontinues⟩, hread⟩
      refine bind_eq_ok.2 ⟨_, hdocument, bind_eq_ok.2 ⟨_, rfl, ?_⟩⟩
      refine bind_eq_ok.2 ⟨page.events, Event.readEach_eq_ok.2 ⟨entries, hlists, hread⟩, ?_⟩
      refine bind_eq_ok.2 ⟨_, rfl, bind_eq_ok.2 ⟨page.next, ?_, rfl⟩⟩
      exact Value.lookup_continue_eq_ok.2 hcontinues
  · rw [if_neg hs]
    constructor
    · intro h
      cases h
    · rintro ⟨entries, ⟨hstatus, -⟩, -⟩
      exact absurd ((Response.succeeded_iff r).2 hstatus) hs

end Tripwire

import Tripwire.Config.Load
import Tripwire.Proofs.Config.Shared
import Tripwire.Proofs.Outcome

/-!
# No key twice

In what is read from documents and put together from layers no mapping has a key twice, also where
mappings are shared.
-/

namespace Tripwire

/-- Values in which every mapping has different keys. -/
inductive Value.Proper : Value → Prop where
  | leaf {v : Value} (hlist : v.kind ≠ .list) (hmap : v.kind ≠ .map) : Proper v
  | list {items : List Value} (each : ∀ v ∈ items, Proper v) : Proper (.list items)
  | map {entries : Entries} {anchor : Option Nat} (keys : entries.Distinct)
      (each : ∀ e ∈ entries, Proper e.2) : Proper (.map entries anchor)

namespace Entries

def Proper (entries : Entries) : Prop := entries.Distinct ∧ ∀ e ∈ entries, e.2.Proper

theorem proper_nil : Proper [] := ⟨distinct_nil, fun _ h => absurd h List.not_mem_nil⟩

variable {entries : Entries}

theorem Proper.under (h : entries.Proper) (key v : Value) (hv : entries.get? key = some v) :
    v.Proper := by
  obtain ⟨k, -, hmem⟩ := mem_of_get? hv
  exact h.2 _ hmem

theorem Proper.put (h : entries.Proper) {v : Value} (hv : v.Proper) (key : Value) :
    (entries.put key v).Proper := by
  refine ⟨h.1.put key v, fun e he => ?_⟩
  rcases mem_put he with hold | ⟨hnew, -⟩
  · exact h.2 e hold
  · rw [hnew]
    exact hv

theorem proper_ofPairs {pairs : List (Value × Value)} (h : ∀ p ∈ pairs, p.2.Proper) :
    (Entries.ofPairs pairs).Proper := by
  have hfold {base : Entries} (hbase : base.Proper) :
      (pairs.foldl (fun es p => put es p.1 p.2) base).Proper := by
    induction pairs generalizing base with
    | nil => exact hbase
    | cons p rest ih =>
      obtain ⟨hp, hrest⟩ := List.forall_mem_cons.1 h
      exact ih hrest (hbase.put hp p.1)
  exact hfold proper_nil

/-- Other values under the same keys. -/
theorem proper_mapValues {f : Value → Value} (keys : entries.Distinct)
    (each : ∀ e ∈ entries, (f e.2).Proper) :
    Entries.Proper (entries.map fun e => (e.1, f e.2)) :=
  ⟨keys.of_keys (map_fst_map f entries), List.forall_mem_map.2 each⟩

end Entries

namespace Value

theorem proper_map_iff {entries : Entries} {anchor : Option Nat} :
    (map entries anchor).Proper ↔ entries.Proper := by
  constructor
  · intro h
    cases h with
    | leaf _ hmap => exact absurd rfl hmap
    | map keys each => exact ⟨keys, each⟩
  · rintro ⟨keys, each⟩
    exact .map keys each

theorem proper_list_iff {items : List Value} : (list items).Proper ↔ ∀ v ∈ items, v.Proper := by
  constructor
  · intro h
    cases h with
    | leaf hlist _ => exact absurd rfl hlist
    | list each => exact each
  · exact .list

end Value

/-! ### Shared mappings -/

/-- A change that goes through lists and mappings item by item, or puts a proper value in the place of a
mapping, and leaves other values alone. -/
theorem Value.Proper.rebuild {g : Value → Value}
    (hleaf : ∀ v : Value, v.kind ≠ .list → v.kind ≠ .map → g v = v)
    (hlist : ∀ items, g (.list items) = .list (items.map g))
    (hmap : ∀ entries anchor, (g (.map entries anchor)).Proper ∨
      ∃ a, g (.map entries anchor) = .map (entries.map fun e => (e.1, g e.2)) a)
    {v : Value} (h : v.Proper) : (g v).Proper := by
  induction h with
  | leaf hl hm =>
    rw [hleaf _ hl hm]
    exact .leaf hl hm
  | list each ih =>
    rw [hlist]
    exact .list (List.forall_mem_map.2 ih)
  | @map entries anchor keys each ih =>
    obtain hproper | ⟨a, ha⟩ := hmap entries anchor
    · exact hproper
    · rw [ha]
      exact Value.proper_map_iff.2 (Entries.proper_mapValues keys ih)

theorem Value.Proper.renew {v : Value} (h : v.Proper) (a : Nat) {content : Entries}
    (hc : content.Proper) : (v.renew a content).Proper := by
  refine h.rebuild (fun v hlist hmap => ?_) (fun items => ?_) (fun entries anchor => ?_)
  · cases v with
    | list items => exact absurd rfl hlist
    | map entries anchor => exact absurd rfl hmap
    | _ => rfl
  · rw [Value.renew, renewItems_eq_map]
  · rw [Value.renew]
    split
    · exact .inl (Value.proper_map_iff.2 hc)
    · exact .inr ⟨anchor, by rw [renewEntries_eq_map]⟩

theorem Entries.Proper.renew {entries : Entries} (h : entries.Proper) (a : Nat) {content : Entries}
    (hc : content.Proper) : Entries.Proper (renewEntries a content entries) := by
  rw [renewEntries_eq_map]
  exact Entries.proper_mapValues h.1 fun e he => (h.2 e he).renew a hc

namespace News

def Proper (news : News) : Prop := ∀ change ∈ news, Entries.Proper change.2

theorem proper_nil : Proper [] := fun _ h => absurd h List.not_mem_nil

variable {news : News}

theorem Proper.apply (h : news.Proper) {entries : Entries} (he : entries.Proper) :
    (news.apply entries).Proper := by
  unfold News.apply
  induction news generalizing entries with
  | nil => exact he
  | cons change rest ih =>
    obtain ⟨hchange, hrest⟩ := List.forall_mem_cons.1 h
    exact ih hrest (he.renew change.1 hchange)

theorem Proper.applyValue (h : news.Proper) {v : Value} (hv : v.Proper) :
    (news.applyValue v).Proper := by
  unfold News.applyValue
  induction news generalizing v with
  | nil => exact hv
  | cons change rest ih =>
    obtain ⟨hchange, hrest⟩ := List.forall_mem_cons.1 h
    exact ih hrest (hv.renew change.1 hchange)

theorem Proper.add (h : news.Proper) (anchor : Option Nat) {content : Entries}
    (hc : content.Proper) : (news.add anchor content).Proper := by
  cases anchor with
  | none => exact h
  | some a => exact List.forall_mem_append.2 ⟨h, List.forall_mem_singleton.2 hc⟩

end News

/-! ### Layers -/

theorem proper_addByName {byName r : Entries} {place : Nat} {items : List Value}
    (hb : byName.Proper) (hi : ∀ v ∈ items, v.Proper) (h : addByName byName place items = .ok r) :
    r.Proper := by
  induction items generalizing byName place with
  | nil =>
    cases h
    exact hb
  | cons v rest ih =>
    obtain ⟨hv, hrest⟩ := List.forall_mem_cons.1 hi
    cases v with
    | map entry anchor =>
      rw [addByName, bind_eq_ok] at h
      obtain ⟨name, -, h⟩ := h
      exact ih (hb.put hv _) hrest h
    | _ => cases h

theorem proper_mappingBelow {key : Value} {current : Option Value} {lower : Entries}
    {anchor : Option Nat} (hc : ∀ c, current = some c → c.Proper)
    (h : mappingBelow key current = .ok (some (lower, anchor))) : lower.Proper := by
  unfold mappingBelow at h
  split at h
  · cases h
    exact Value.proper_map_iff.1 (hc _ rfl)
  · split at h
    · obtain ⟨byName, hby, heq⟩ := map_eq_ok.1 h
      cases heq
      exact proper_addByName Entries.proper_nil (Value.proper_list_iff.1 (hc _ rfl)) hby
    · cases h
  · cases h

/-- That laying a value over proper values leaves them proper, and what is told of shared mappings. -/
def LaysProper (v : Value) : Prop :=
  ∀ news key current laid more, News.Proper news → (∀ c, current = some c → c.Proper) →
    layValue news key current v = .ok (laid, more) → laid.Proper ∧ more.Proper

theorem proper_layEntries {news more : News} {lower upper merged : Entries} (hn : news.Proper)
    (hl : lower.Proper) (hu : ∀ e ∈ upper, LaysProper e.2)
    (h : layEntries news lower upper = .ok (merged, more)) : merged.Proper ∧ more.Proper := by
  induction upper generalizing news lower with
  | nil =>
    cases h
    exact ⟨hl, hn⟩
  | cons e rest ih =>
    obtain ⟨key, v⟩ := e
    obtain ⟨hv, hrest⟩ := List.forall_mem_cons.1 hu
    rw [layEntries, bind_eq_ok] at h
    obtain ⟨⟨laid, told⟩, hlaid, h⟩ := h
    obtain ⟨hlaid, htold⟩ := hv _ _ _ _ _ hn (hl.under key) hlaid
    exact ih htold (htold.apply (hl.put hlaid key)) hrest h

theorem laysProper {v : Value} (hv : v.Proper) : LaysProper v := by
  have hother {w : Value} (hw : w.Proper) (hnot : ∀ news key current,
      layValue news key current w = .ok (news.applyValue w, news)) : LaysProper w := by
    intro news key current laid more hn _ h
    rw [hnot] at h
    cases h
    exact ⟨hn.applyValue hw, hn⟩
  induction hv with
  | @leaf v hlist hmap =>
    refine hother (.leaf hlist hmap) fun news key current => ?_
    cases v with
    | map entries anchor => exact absurd rfl hmap
    | _ => rfl
  | list each => exact hother (.list each) fun _ _ _ => rfl
  | @map entries anchor keys each ih =>
    intro news key current laid more hn hc h
    rw [layValue, bind_eq_ok] at h
    obtain ⟨below, hbelow, h⟩ := h
    cases below with
    | none =>
      cases h
      exact ⟨hn.applyValue (.map keys each), hn⟩
    | some p =>
      obtain ⟨lower, place⟩ := p
      obtain ⟨⟨merged, told⟩, hmerged, h⟩ := bind_eq_ok.1 h
      cases h
      obtain ⟨hproper, htold⟩ := proper_layEntries hn (proper_mappingBelow hc hbelow) ih hmerged
      exact ⟨Value.proper_map_iff.2 hproper, htold.add place hproper⟩

theorem proper_lay {lower upper merged : Entries} (hl : lower.Proper) (hu : upper.Proper)
    (h : lower.lay upper = .ok merged) : merged.Proper := by
  obtain ⟨⟨r, news⟩, hr, rfl⟩ := map_eq_ok.1 h
  exact (proper_layEntries News.proper_nil hl (fun e he => laysProper (hu.2 e he)) hr).1

/-! ### Documents -/

namespace Yaml

theorem proper_timestampValue {s : String} {v : Value} (h : timestampValue s = .ok v) :
    v.Proper := by
  unfold timestampValue at h
  split at h
  · cases h
  · split at h
    · obtain ⟨date, -, h⟩ := bind_eq_ok.1 h
      cases h
      exact .leaf nofun nofun
    · dsimp only at h
      rename_i stamp _ _ hour minute second _
      have hrest {r : Except Fault (Option Time.Offset)} (h : (do
          let offset ← r
          let date ← (Time.Date.ofFields stamp.year stamp.month stamp.day).mapError dateFault
          let clock ← (Time.Clock.ofFields hour minute second
            (fractionMicros stamp.fraction)).mapError clockFault
          return Value.moment ⟨date, clock, offset⟩) = .ok v) : v.Proper := by
        obtain ⟨offset, -, h⟩ := bind_eq_ok.1 h
        obtain ⟨date, -, h⟩ := bind_eq_ok.1 h
        obtain ⟨clock, -, h⟩ := bind_eq_ok.1 h
        cases h
        exact .leaf nofun nofun
      split at h
      all_goals exact hrest h

theorem proper_scalarValue {tag : Tag} {s : String} {v : Value} (h : scalarValue tag s = .ok v) :
    v.Proper := by
  unfold scalarValue at h
  split at h
  · cases h
    exact .leaf nofun nofun
  · split at h
    · cases h
      exact .leaf nofun nofun
    · cases h
  · obtain ⟨n, -, rfl⟩ := map_eq_ok.1 h
    exact .leaf nofun nofun
  · obtain ⟨x, -, rfl⟩ := map_eq_ok.1 h
    exact .leaf nofun nofun
  · exact proper_timestampValue h
  · unfold bytesValue at h
    split at h
    · split at h
      · cases h
        exact .leaf nofun nofun
      · cases h
    · cases h
  · cases h
    exact .leaf nofun nofun
  all_goals cases h

theorem proper_leafValue {n : Node} {v : Value} (h : leafValue n = .ok v) : v.Proper := by
  unfold leafValue at h
  split at h
  · cases h
  · cases h
  · cases h
  · obtain ⟨s, -, h⟩ := bind_eq_ok.1 h
    exact proper_scalarValue h

/-- By the fuel that the three share. -/
theorem proper_valueOf (fuel : Nat) :
    (∀ {n : Node} {v : Value}, valueOf fuel n = .ok v → v.Proper) ∧
    (∀ {ns : List Node} {vs : List Value}, valuesOf fuel ns = .ok vs → ∀ v ∈ vs, v.Proper) ∧
    ∀ {ns : List (Node × Node)} {ps : List (Value × Value)}, pairsOf fuel ns = .ok ps →
      ∀ p ∈ ps, p.2.Proper := by
  induction fuel with
  | zero =>
    refine ⟨fun h => ?_, fun h => ?_, fun h => ?_⟩
    · cases h
    · cases h
    · cases h
  | succ fuel ih =>
    obtain ⟨hvalue, hvalues, hpairs⟩ := ih
    refine ⟨fun h => ?_, fun {ns vs} h => ?_, fun {ns ps} h => ?_⟩
    · unfold valueOf at h
      split at h
      · obtain ⟨vs, hvs, rfl⟩ := map_eq_ok.1 h
        exact .list (hvalues hvs)
      · obtain ⟨entries, -, h⟩ := bind_eq_ok.1 h
        obtain ⟨pairs, hps, h⟩ := bind_eq_ok.1 h
        cases h
        exact Value.proper_map_iff.2 (Entries.proper_ofPairs (hpairs hps))
      · exact proper_leafValue h
    · cases ns with
      | nil =>
        cases h
        exact fun v hv => absurd hv List.not_mem_nil
      | cons n rest =>
        rw [valuesOf, bind_eq_ok] at h
        obtain ⟨v, hv, h⟩ := h
        obtain ⟨vs', hvs, h⟩ := bind_eq_ok.1 h
        cases h
        exact List.forall_mem_cons.2 ⟨hvalue hv, hvalues hvs⟩
    · cases ns with
      | nil =>
        cases h
        exact fun p hp => absurd hp List.not_mem_nil
      | cons n rest =>
        obtain ⟨k, n⟩ := n
        rw [pairsOf, bind_eq_ok] at h
        obtain ⟨key, -, h⟩ := h
        obtain ⟨v, hv, h⟩ := bind_eq_ok.1 h
        obtain ⟨others, hothers, h⟩ := bind_eq_ok.1 h
        cases h
        exact List.forall_mem_cons.2 ⟨hvalue hv, hpairs hothers⟩

theorem reanchorItems_eq_map (f : Nat → Option Nat) (items : List Value) :
    reanchorItems f items = items.map (reanchor f) :=
  eq_map_of_cons rfl (fun _ _ => rfl) items

theorem reanchorEntries_eq_map (f : Nat → Option Nat) (entries : Entries) :
    reanchorEntries f entries = entries.map fun e => (e.1, reanchor f e.2) :=
  eq_map_of_cons rfl (fun _ _ => rfl) entries

theorem proper_reanchor {v : Value} (h : v.Proper) (f : Nat → Option Nat) :
    (reanchor f v).Proper := by
  refine h.rebuild (fun v hlist hmap => ?_) (fun items => ?_) (fun entries anchor => ?_)
  · cases v with
    | list items => exact absurd rfl hlist
    | map entries anchor => exact absurd rfl hmap
    | _ => rfl
  · rw [reanchor, reanchorItems_eq_map]
  · exact .inr ⟨anchor.bind f, by rw [reanchor, reanchorEntries_eq_map]⟩

theorem proper_documentValue {place places : Nat} {n : Node} {v : Value}
    (h : documentValue place places n = .ok v) : v.Proper := by
  have hvalue (h : (do
      let v ← valueOf (4 * n.size + 8) n
      let anchors := anchorsOf v
      return reanchor (fun a => if 1 < anchors.count a then some (a * places + place) else none) v :
        Except Fault Value) = .ok v) : v.Proper := by
    obtain ⟨u, hu, h⟩ := bind_eq_ok.1 h
    cases h
    exact proper_reanchor ((proper_valueOf _).1 hu) _
  unfold documentValue at h
  split at h
  · obtain ⟨_, -, h⟩ := bind_eq_ok.1 h
    exact hvalue h
  · exact hvalue h

theorem proper_readDocument {place places : Nat} {cs : List Char} {v : Value}
    (h : readDocument place places cs = .ok v) : v.Proper := by
  obtain ⟨tokens, -, h⟩ := bind_eq_ok.1 h
  obtain ⟨node, -, h⟩ := bind_eq_ok.1 h
  cases node with
  | none =>
    cases h
    exact .leaf nofun nofun
  | some n => exact proper_documentValue h

end Yaml

/-- That no document which a host reads has a mapping with a key twice. -/
def Host.ReadsProper (h : Host) : Prop :=
  ∀ place cs v, h.read place cs = .ok v → v.Proper

theorem Host.readsProper_of_yaml {h : Host}
    (hread : h.read = fun place => Yaml.readDocument place 2) : h.ReadsProper := by
  intro place cs v hv
  rw [hread] at hv
  exact Yaml.proper_readDocument hv

theorem proper_fileEntries {h : Host} (hproper : h.ReadsProper) {place : Nat} {p : Files.Path}
    {bytes : List UInt8} {entries : Entries} (hread : fileEntries h place p bytes = .ok entries) :
    entries.Proper := by
  obtain ⟨v, hv, hread⟩ := bind_eq_ok.1 hread
  have hdocument : v.Proper := by
    unfold Host.documentOf at hv
    split at hv
    · exact hproper _ _ _ hv
    · cases hv
  split at hread
  · unfold Config.sectionEntries at hread
    split at hread
    · cases hread
      exact Entries.proper_nil
    · cases hread
      exact Value.proper_map_iff.1 hdocument
    · cases hread
  · cases hread
    exact Entries.proper_nil

end Tripwire

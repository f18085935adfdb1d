import Tripwire.Proofs.Config.Written

/-!
# Mappings with other keys

Two mappings of clusters that differ only in the keys of entries with names of their own describe the
same clusters. As long as none of these keys is addressed, whatever is laid over both keeps them so.
-/

namespace Tripwire

def NamesItself (v : Value) : Prop :=
  ∃ entries : Entries, v = .map entries none ∧ entries.HasKey "name"

/-- That two entries are the same, apart from keys outside a class of names. -/
inductive RekeyedEntry (fixed : String → Prop) : Value × Value → Value × Value → Prop where
  | same (key v : Value) : RekeyedEntry fixed (key, v) (key, v)
  | other {a b : String} {v : Value} (ha : ¬ fixed a) (hb : ¬ fixed b) (hv : NamesItself v) :
      RekeyedEntry fixed (.text a, v) (.text b, v)

/-- That two mappings are the same, apart from keys outside a class of names. -/
def Rekeyed (fixed : String → Prop) : Entries → Entries → Prop :=
  List.Forall₂ (RekeyedEntry fixed)

variable {fixed : String → Prop}

theorem RekeyedEntry.sameKey {d e : Value × Value} (h : RekeyedEntry fixed d e) {name : String}
    (hname : fixed name) :
    d.2 = e.2 ∧ d.1.sameKey (.text name) = e.1.sameKey (.text name) := by
  cases h with
  | same key v => exact ⟨rfl, rfl⟩
  | @other a b v ha hb _ =>
    have hna : (a == name) = false := by
      rw [beq_eq_false_iff_ne]
      rintro rfl
      exact ha hname
    have hnb : (b == name) = false := by
      rw [beq_eq_false_iff_ne]
      rintro rfl
      exact hb hname
    exact ⟨rfl, by rw [Value.sameKey_text, Value.sameKey_text, hna, hnb]⟩

theorem Rekeyed.get? {a b : Entries} (h : Rekeyed fixed a b) {name : String}
    (hname : fixed name) : a.get? (.text name) = b.get? (.text name) := by
  induction h with
  | nil => rfl
  | @cons d e _ _ hd _ ih =>
    obtain ⟨hv, hk⟩ := hd.sameKey hname
    obtain ⟨dk, dv⟩ := d
    obtain ⟨ek, ev⟩ := e
    rw [Entries.get?_cons, Entries.get?_cons, hk, ih]
    rw [show dv = ev from hv]

theorem Rekeyed.put {a b : Entries} (h : Rekeyed fixed a b) {name : String} (hname : fixed name)
    (v : Value) : Rekeyed fixed (a.put (.text name) v) (b.put (.text name) v) := by
  induction h with
  | nil => exact .cons (.same _ v) .nil
  | @cons d e _ _ hd hrest ih =>
    obtain ⟨-, hk⟩ := hd.sameKey hname
    obtain ⟨dk, dv⟩ := d
    obtain ⟨ek, ev⟩ := e
    rw [Entries.put, Entries.put]
    cases hs : dk.sameKey (.text name) with
    | false =>
      have hs' : ek.sameKey (.text name) = false := hk.symm.trans hs
      rw [hs', if_neg (by simp), if_neg (by simp)]
      exact .cons hd ih
    | true =>
      have hs' : ek.sameKey (.text name) = true := hk.symm.trans hs
      rw [hs', if_pos rfl, if_pos rfl]
      refine .cons ?_ hrest
      cases hd with
      | same _ _ => exact .same _ v
      | other ha _ _ =>
        rw [Value.sameKey_text, beq_iff_eq] at hs
        exact absurd (hs ▸ hname) ha

/-- What is laid under fixed names is laid over both in the same way. -/
theorem Rekeyed.lay {a b upper : Entries} (h : Rekeyed fixed a b) (ha : a.IsTree) (hb : b.IsTree)
    (hu : upper.IsTree) (hkeys : upper.TextKeys) (hfixed : ∀ name, upper.HasKey name → fixed name) :
    (∃ f, a.lay upper = .error f ∧ b.lay upper = .error f) ∨
      ∃ m n, a.lay upper = .ok m ∧ b.lay upper = .ok n ∧ Rekeyed fixed m n := by
  induction upper generalizing a b with
  | nil => exact Or.inr ⟨a, b, rfl, rfl, h⟩
  | cons e rest ih =>
    obtain ⟨k, v⟩ := e
    obtain ⟨-, hv, hrest⟩ := Entries.isTree_cons.1 hu
    obtain ⟨⟨name, hk⟩, hrestKeys⟩ := List.forall_mem_cons.1 hkeys
    obtain rfl : k = .text name := hk
    have hname : fixed name := hfixed name (Entries.hasKey_cons.2 (Or.inl rfl))
    have hget := h.get? hname
    rw [lay_cons ha hv, lay_cons hb hv, ← hget]
    rcases hlaid : layOver (.text name) (a.get? (.text name)) v with f | laid
    · exact Or.inl ⟨f, rfl, rfl⟩
    · have ht := layOver_isTree (ha.under _) hv hlaid
      exact ih (h.put hname laid) (ha.put ht _) (hb.put ht _) hrest hrestKeys
        fun other hother => hfixed other (Entries.hasKey_cons.2 (Or.inr hother))

/-! ### Reading the clusters -/

def DistinctWithin (entries : Entries) : Prop :=
  ∀ e ∈ entries, ∀ content anchor, e.2 = .map content anchor → Entries.Distinct content

theorem distinctWithin_of_isTree {entries : Entries} (h : entries.IsTree) :
    DistinctWithin entries := by
  intro e he content anchor heq
  exact (Value.isTree_map_iff.1 (heq ▸ h.2 e he)).2.1

theorem DistinctWithin.resolve {entries : Entries} (h : DistinctWithin entries)
    (lookup : String → Option String) : DistinctWithin (resolveEntries lookup entries) := by
  induction entries with
  | nil => exact h
  | cons e rest ih =>
    obtain ⟨k, v⟩ := e
    obtain ⟨hfirst, hrest⟩ := List.forall_mem_cons.1 h
    rw [resolveEntries]
    refine List.forall_mem_cons.2 ⟨fun content anchor heq => ?_, ih hrest⟩
    cases v with
    | map old a =>
      obtain ⟨rfl, -⟩ := Value.map.inj heq
      exact (hfirst old a rfl).of_keys (map_fst_resolveEntries lookup old)
    | _ => cases heq

theorem namedEntry_of_namesItself {entries : Entries} (hd : entries.Distinct)
    (hown : entries.HasKey "name") (anchor : Option Nat) (name : String) (place : Nat) :
    ∃ named, Config.namedEntry (.text name) (.map entries anchor) = .ok named ∧
      Config.clusterOf place named = Config.clusterOf place (.map entries anchor) := by
  refine ⟨_, rfl, ?_⟩
  refine clusterOf_ofPairs_name hd (fun hnone => ?_) anchor
  rw [Entries.HasKey, hnone] at hown
  cases hown

theorem Rekeyed.clustersFrom_eq {a b : Entries} (h : Rekeyed fixed a b)
    (hd : DistinctWithin a)
    (place : Nat) :
    (∃ f, a.mapM (fun e => Config.namedEntry e.1 e.2) = .error f ∧
        b.mapM (fun e => Config.namedEntry e.1 e.2) = .error f) ∨
      ∃ items items', a.mapM (fun e => Config.namedEntry e.1 e.2) = .ok items ∧
        b.mapM (fun e => Config.namedEntry e.1 e.2) = .ok items' ∧
        Config.clustersFrom place items = Config.clustersFrom place items' := by
  induction h generalizing place with
  | nil => exact Or.inr ⟨[], [], rfl, rfl, rfl⟩
  | @cons d e rest rest' hde _ ih =>
    obtain ⟨hfirst, hrest⟩ := List.forall_mem_cons.1 hd
    rw [List.mapM_cons, List.mapM_cons]
    have hnamed : (∃ f, Config.namedEntry d.1 d.2 = .error f ∧ Config.namedEntry e.1 e.2 = .error f) ∨
        ∃ x y, Config.namedEntry d.1 d.2 = .ok x ∧ Config.namedEntry e.1 e.2 = .ok y ∧
          Config.clusterOf place x = Config.clusterOf place y := by
      cases hde with
      | same key v =>
        rcases hx : Config.namedEntry key v with f | x
        · exact Or.inl ⟨f, rfl, rfl⟩
        · exact Or.inr ⟨x, x, rfl, rfl, rfl⟩
      | @other s t v _ _ hv =>
        obtain ⟨entries, rfl, hown⟩ := hv
        have hdistinct := hfirst entries none rfl
        obtain ⟨x, hx, hcx⟩ := namedEntry_of_namesItself hdistinct hown none s place
        obtain ⟨y, hy, hcy⟩ := namedEntry_of_namesItself hdistinct hown none t place
        exact Or.inr ⟨x, y, hx, hy, hcx.trans hcy.symm⟩
    rcases hnamed with ⟨f, hdf, hef⟩ | ⟨x, y, hx, hy, hxy⟩
    · exact Or.inl ⟨f, by rw [hdf]; rfl, by rw [hef]; rfl⟩
    · rcases ih hrest (place + 1) with ⟨f, hdf, hef⟩ | ⟨items, items', hitems, hitems', hfrom⟩
      · exact Or.inl ⟨f, by rw [hx, hdf]; rfl, by rw [hy, hef]; rfl⟩
      · refine Or.inr ⟨x :: items, y :: items', by rw [hx, hitems]; rfl,
          by rw [hy, hitems']; rfl, ?_⟩
        rw [Config.clustersFrom, Config.clustersFrom, hxy, hfrom]

theorem Rekeyed.clustersOf_eq {a b : Entries} (h : Rekeyed fixed a b)
    (hd : DistinctWithin a)
    (x y : Option Nat) : Config.clustersOf (.map a x) = Config.clustersOf (.map b y) := by
  rw [Config.clustersOf, Config.clustersOf]
  rcases h.clustersFrom_eq hd 0 with ⟨f, ha, hb⟩ | ⟨items, items', ha, hb, hfrom⟩
  · rw [ha, hb]
  · rw [ha, hb, ok_bind, ok_bind, hfrom]

theorem Rekeyed.resolve {a b : Entries} (h : Rekeyed fixed a b)
    (lookup : String → Option String) :
    Rekeyed fixed (resolveEntries lookup a) (resolveEntries lookup b) := by
  induction h with
  | nil => exact .nil
  | @cons d e _ _ hde _ ih =>
    refine .cons ?_ ih
    cases hde with
    | same key v => exact .same key _
    | @other s t v hs ht hv =>
      obtain ⟨entries, rfl, hown⟩ := hv
      refine .other hs ht ⟨resolveEntries lookup entries, rfl, ?_⟩
      rw [Entries.HasKey, get?_resolveEntries, Option.isSome_map]
      exact hown

theorem Rekeyed.sameClusters {a b : Entries} (h : Rekeyed fixed a b) (ha : a.IsTree) :
    Config.SameClusters (.map a none) (.map b none) := by
  have hd := distinctWithin_of_isTree ha
  intro lookup
  cases lookup with
  | none => exact h.clustersOf_eq hd none none
  | some lookup => exact (h.resolve lookup).clustersOf_eq (hd.resolve lookup) none none

end Tripwire

import Tripwire.Json.Reader
import Tripwire.Proofs.Decimal.Digits
import Tripwire.Proofs.Outcome
import Tripwire.Proofs.Value.Tree
import Tripwire.Value.Text

/-!
# Decoded values

A JSON text holds no dates and no byte strings, its mappings go from texts, and its whole numbers stay
within the limit of digits. Nothing more is needed for a value to have a text.
-/

namespace Tripwire

/-- That a value is one that a JSON text can hold. -/
inductive Value.Decoded : Value → Prop where
  | null : Decoded .null
  | bool (b : Bool) : Decoded (.bool b)
  | int {n : Int} (small : n.natAbs < 10 ^ Decimal.digitLimit) : Decoded (.int n)
  | float (x : Float) : Decoded (.float x)
  | text (s : String) : Decoded (.text s)
  | list {items : List Value} (each : ∀ v ∈ items, Decoded v) : Decoded (.list items)
  | map {entries : Entries} {anchor : Option Nat} (keys : ∀ e ∈ entries, ∃ s, e.1 = .text s)
      (each : ∀ e ∈ entries, Decoded e.2) : Decoded (.map entries anchor)

/-! ### Texts of decoded values -/

namespace Value

theorem exists_innerItems {items : List Value} (h : ∀ v ∈ items, ∃ t, v.inner = .ok t) :
    ∃ ts, innerItems items = .ok ts := by
  induction items with
  | nil => exact ⟨[], rfl⟩
  | cons v rest ih =>
    obtain ⟨hv, hrest⟩ := List.forall_mem_cons.1 h
    obtain ⟨t, ht⟩ := hv
    obtain ⟨ts, hts⟩ := ih hrest
    refine ⟨t :: ts, ?_⟩
    rw [innerItems, ht, hts]
    rfl

theorem exists_innerEntries {entries : Entries} (hkeys : ∀ e ∈ entries, ∃ s, e.1 = .text s)
    (h : ∀ e ∈ entries, ∃ t, e.2.inner = .ok t) : ∃ ts, innerEntries entries = .ok ts := by
  induction entries with
  | nil => exact ⟨[], rfl⟩
  | cons e rest ih =>
    obtain ⟨k, v⟩ := e
    obtain ⟨⟨s, hs⟩, hkeys⟩ := List.forall_mem_cons.1 hkeys
    obtain ⟨⟨t, ht⟩, hrest⟩ := List.forall_mem_cons.1 h
    obtain ⟨ts, hts⟩ := ih hkeys hrest
    dsimp only at hs ht
    refine ⟨(Text.quoted s ++ ": " ++ t) :: ts, ?_⟩
    rw [innerEntries, hs, ht, hts]
    rfl

theorem Decoded.exists_inner {v : Value} (h : v.Decoded) : ∃ t, v.inner = .ok t := by
  induction h with
  | null => exact ⟨_, rfl⟩
  | bool b => exact ⟨_, rfl⟩
  | @int n small =>
    refine ⟨toString n, ?_⟩
    rw [inner, wholeText, Nat.pow_eq, if_neg (Nat.not_le_of_lt small)]
  | float x => exact ⟨_, rfl⟩
  | text s => exact ⟨_, rfl⟩
  | list each ih =>
    obtain ⟨ts, hts⟩ := exists_innerItems ih
    refine ⟨"[" ++ ", ".intercalate ts ++ "]", ?_⟩
    rw [inner, hts]
    rfl
  | map keys each ih =>
    obtain ⟨ts, hts⟩ := exists_innerEntries keys ih
    refine ⟨"\x7b" ++ ", ".intercalate ts ++ "\x7d", ?_⟩
    rw [inner, hts]
    rfl

theorem Decoded.exists_toText {v : Value} (h : v.Decoded) : ∃ t, v.toText = .ok t := by
  cases v with
  | text s => exact ⟨s, rfl⟩
  | date d => cases h
  | moment m => cases h
  | _ => exact h.exists_inner

theorem Decoded.get? {v w : Value} {key : String} (h : v.Decoded) (hw : v.get? key = some w) :
    w.Decoded := by
  cases h with
  | map keys each =>
    obtain ⟨k, -, hmem⟩ := Entries.mem_of_get? hw
    exact each _ hmem
  | _ => cases hw

end Value

/-! ### What is read is decoded -/

namespace Json

theorem decoded_readNumber {cs rest : List Char} {v : Value} (h : readNumber cs = .ok (v, rest)) :
    v.Decoded := by
  unfold readNumber at h
  split at h
  dsimp only at h
  split at h
  · cases h
  · split at h
    · split at h
      · cases h
      · rename_i negative _ _ _ _ hshort
        cases h
        have hsmall := Nat.lt_of_lt_of_le (Decimal.digitsValue_lt _)
          (Nat.pow_le_pow_right (by decide) (Nat.le_of_not_lt hshort))
        refine .int ?_
        split
        · rwa [Int.natAbs_neg]
        · exact hsmall
    · cases h
      exact .float _

theorem decoded_readAtom {cs rest : List Char} {v : Value} (h : readAtom cs = .ok (v, rest)) :
    v.Decoded := by
  unfold readAtom at h
  split at h
  · rename_i found hfound
    cases h
    obtain ⟨⟨word, w⟩, hmem, hword⟩ := List.exists_of_findSome?_eq_some hfound
    obtain ⟨after, -, hafter⟩ := Option.map_eq_some_iff.1 hword
    cases hafter
    have hwords : ∀ p ∈ words, p.2.Decoded := by
      simp only [words, List.forall_mem_cons, List.not_mem_nil, false_implies, implies_true, and_true]
      exact ⟨.null, .bool _, .bool _, .float _, .float _, .float _⟩
    exact hwords _ hmem
  · exact decoded_readNumber h

theorem decoded_put {entries : Entries} {s : String} {v : Value}
    (h : (Value.map entries none).Decoded) (hv : v.Decoded) :
    (Value.map (entries.put (.text s) v) none).Decoded := by
  cases h with
  | map keys each =>
    refine .map (fun e he => ?_) fun e he => ?_
    · rcases Entries.mem_put he with hold | ⟨-, hnew | hkey⟩
      · exact keys e hold
      · exact ⟨s, hnew⟩
      · obtain ⟨e', he', hsame⟩ := List.mem_map.1 hkey
        rw [← hsame]
        exact keys e' he'
    · rcases Entries.mem_put he with hold | ⟨hvalue, -⟩
      · exact each e hold
      · rw [hvalue]
        exact hv

/-- What the three readers have in common, by the fuel that they share. -/
theorem decoded_read (fuel : Nat) :
    (∀ {cs rest : List Char} {v : Value}, readValue fuel cs = .ok (v, rest) → v.Decoded) ∧
    (∀ {before items : List Value} {cs rest : List Char}, (∀ v ∈ before, v.Decoded) →
      readItems fuel before cs = .ok (items, rest) → ∀ v ∈ items, v.Decoded) ∧
    ∀ {before entries : Entries} {cs rest : List Char}, (Value.map before none).Decoded →
      readEntries fuel before cs = .ok (entries, rest) → (Value.map entries none).Decoded := by
  induction fuel with
  | zero =>
    refine ⟨fun h => ?_, fun _ h => ?_, fun _ h => ?_⟩
    · cases h
    · cases h
    · cases h
  | succ fuel ih =>
    obtain ⟨hvalue, hitems, hentries⟩ := ih
    refine ⟨fun h => ?_, fun hbefore h => ?_, fun hbefore h => ?_⟩
    · unfold readValue at h
      split at h
      · obtain ⟨⟨s, after⟩, -, h⟩ := bind_eq_ok.1 h
        cases h
        exact .text s
      · split at h
        · cases h
          exact .list fun v hv => absurd hv List.not_mem_nil
        · obtain ⟨⟨items, after⟩, hread, h⟩ := bind_eq_ok.1 h
          cases h
          exact .list (hitems (fun v hv => absurd hv List.not_mem_nil) hread)
      · have hnone : (Value.map [] none).Decoded :=
          .map (fun e he => absurd he List.not_mem_nil) fun e he => absurd he List.not_mem_nil
        split at h
        · cases h
          exact hnone
        · obtain ⟨⟨entries, after⟩, hread, h⟩ := bind_eq_ok.1 h
          cases h
          exact hentries hnone hread
      · exact decoded_readAtom h
    · rw [readItems] at h
      obtain ⟨⟨v, after⟩, hread, h⟩ := bind_eq_ok.1 h
      have hall := List.forall_mem_cons.2 ⟨hvalue hread, hbefore⟩
      dsimp only at h
      split at h
      · exact hitems hall h
      · cases h
        exact fun w hw => hall w (List.mem_reverse.1 hw)
      · cases h
    · unfold readEntries at h
      split at h
      · obtain ⟨⟨key, after⟩, -, h⟩ := bind_eq_ok.1 h
        dsimp only at h
        split at h
        · obtain ⟨⟨v, after⟩, hread, h⟩ := bind_eq_ok.1 h
          have hput := decoded_put (s := key) hbefore (hvalue hread)
          dsimp only at h
          split at h
          · exact hentries hput h
          · cases h
            exact hput
          · cases h
        · cases h
      · cases h

theorem decoded_readDocument {cs : List Char} {v : Value} (h : readDocument cs = .ok v) :
    v.Decoded := by
  obtain ⟨⟨w, rest⟩, hread, h⟩ := bind_eq_ok.1 h
  dsimp only at h
  split at h
  · cases h
    exact (decoded_read _).1 hread
  · cases h

end Json

end Tripwire

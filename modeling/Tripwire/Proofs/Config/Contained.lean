import Tripwire.Config.Basic
import Tripwire.Config.Layer
import Tripwire.Proofs.Outcome

/-!
# Faults that are no invalid values

Reading a configuration may fail with an invalid value, which is reported, or with another fault, which
escapes. Merging layers and reading clusters never lets a fault escape. Reading a number does where the
value is of a kind that has no number, or is too large for one.
-/

namespace Tripwire

variable {α β : Type}

/-- That something fails, and not with an invalid value. -/
def Escapes (r : Except Fault α) : Prop := ∃ f, r = .error f ∧ f.isInvalidValue = false

theorem not_escapes_ok (a : α) : ¬Escapes (.ok a : Except Fault α) := by
  rintro ⟨f, h, -⟩
  cases h

theorem escapes_error {f : Fault} : Escapes (.error f : Except Fault α) ↔ f.isInvalidValue = false := by
  constructor
  · rintro ⟨f', h, hf⟩
    cases h
    exact hf
  · intro h
    exact ⟨f, rfl, h⟩

theorem escapes_bind {x : Except Fault α} {f : α → Except Fault β} :
    Escapes (x >>= f) ↔ Escapes x ∨ ∃ a, x = .ok a ∧ Escapes (f a) := by
  cases x with
  | error e => simp [error_bind, escapes_error]
  | ok a => simp [ok_bind, not_escapes_ok]

theorem escapes_map {x : Except Fault α} {f : α → β} : Escapes (x.map f) ↔ Escapes x := by
  cases x with
  | error e => exact escapes_error.trans escapes_error.symm
  | ok a => exact iff_of_false (not_escapes_ok _) (not_escapes_ok _)

theorem not_escapes_bind {x : Except Fault α} {f : α → Except Fault β} (h : ¬Escapes x)
    (h' : ∀ a, ¬Escapes (f a)) : ¬Escapes (x >>= f) := by
  rw [escapes_bind]
  rintro (hx | ⟨a, -, ha⟩)
  · exact h hx
  · exact h' a ha

theorem not_escapes_blame (f : ConfigFault) : ¬Escapes (Config.blame f : Except Fault α) := by
  rintro ⟨f', h, hf⟩
  cases h
  cases hf

/-! ### Texts -/

namespace Value

theorem not_escapes_wholeText (n : Int) : ¬Escapes (wholeText n) := by
  unfold wholeText
  split
  · simp [escapes_error, Fault.isInvalidValue]
  · exact not_escapes_ok _

mutual

theorem not_escapes_inner (v : Value) : ¬Escapes v.inner := by
  cases v with
  | int n => exact not_escapes_wholeText n
  | list items => exact not_escapes_bind (not_escapes_innerItems items) fun _ => not_escapes_ok _
  | map entries anchor =>
    exact not_escapes_bind (not_escapes_innerEntries entries) fun _ => not_escapes_ok _
  | _ => exact not_escapes_ok _

theorem not_escapes_innerItems (items : List Value) : ¬Escapes (innerItems items) := by
  cases items with
  | nil => exact not_escapes_ok _
  | cons v rest =>
    exact not_escapes_bind (not_escapes_inner v) fun _ =>
      not_escapes_bind (not_escapes_innerItems rest) fun _ => not_escapes_ok _

theorem not_escapes_innerEntries (entries : List (Value × Value)) :
    ¬Escapes (innerEntries entries) := by
  cases entries with
  | nil => exact not_escapes_ok _
  | cons e rest =>
    obtain ⟨k, v⟩ := e
    exact not_escapes_bind (not_escapes_inner k) fun _ =>
      not_escapes_bind (not_escapes_inner v) fun _ =>
      not_escapes_bind (not_escapes_innerEntries rest) fun _ => not_escapes_ok _

end

theorem not_escapes_toText (v : Value) : ¬Escapes v.toText := by
  unfold toText
  split
  · exact not_escapes_ok _
  · exact not_escapes_ok _
  · exact not_escapes_ok _
  · exact not_escapes_inner _

end Value

/-! ### Layers -/

theorem not_escapes_clusterName (entry : Entries) (place : Nat) :
    ¬Escapes (clusterName entry place) := by
  unfold clusterName
  split
  · split
    · exact Value.not_escapes_toText _
    · exact not_escapes_ok _
  · exact not_escapes_ok _

theorem not_escapes_addByName (byName : Entries) (place : Nat) (items : List Value) :
    ¬Escapes (addByName byName place items) := by
  induction items generalizing byName place with
  | nil => exact not_escapes_ok _
  | cons v rest ih =>
    cases v with
    | map entry anchor =>
      exact not_escapes_bind (not_escapes_clusterName entry place) fun _ => ih _ _
    | _ => exact not_escapes_blame .clusterNotMapping

theorem not_escapes_clustersByName (items : List Value) : ¬Escapes (clustersByName items) :=
  not_escapes_addByName [] 0 items

theorem not_escapes_mappingBelow (key : Value) (current : Option Value) :
    ¬Escapes (mappingBelow key current) := by
  unfold mappingBelow
  split
  · exact not_escapes_ok _
  · split
    · rw [escapes_map]
      exact not_escapes_clustersByName _
    · exact not_escapes_ok _
  · exact not_escapes_ok _

mutual

theorem not_escapes_layValue (news : News) (key : Value) (current : Option Value) (v : Value) :
    ¬Escapes (layValue news key current v) := by
  cases v with
  | map upper anchor =>
    refine not_escapes_bind (not_escapes_mappingBelow key current) fun below => ?_
    cases below with
    | none => exact not_escapes_ok _
    | some lower =>
      exact not_escapes_bind (not_escapes_layEntries news lower.1 upper) fun _ => not_escapes_ok _
  | _ => exact not_escapes_ok _

theorem not_escapes_layEntries (news : News) (lower : Entries) (upper : List (Value × Value)) :
    ¬Escapes (layEntries news lower upper) := by
  cases upper with
  | nil => exact not_escapes_ok _
  | cons e rest =>
    obtain ⟨key, v⟩ := e
    exact not_escapes_bind (not_escapes_layValue news key (lower.get? key) v) fun _ =>
      not_escapes_layEntries _ _ rest

end

theorem not_escapes_lay (lower upper : Entries) : ¬Escapes (lower.lay upper) := by
  rw [Entries.lay, escapes_map]
  exact not_escapes_layEntries [] lower upper

theorem not_escapes_mappingOnPath (key : String) (current : Option Value) :
    ¬Escapes (mappingOnPath key current) := by
  unfold mappingOnPath
  split
  · exact not_escapes_ok _
  · split
    · rw [escapes_map]
      exact not_escapes_clustersByName _
    · exact not_escapes_ok _
  · exact not_escapes_ok _

theorem not_escapes_writeAt (v : Value) (entries : Entries) (path : List String) :
    ¬Escapes (writeAt v entries path) := by
  induction path generalizing entries with
  | nil => exact not_escapes_ok _
  | cons key path ih =>
    cases path with
    | nil => exact not_escapes_ok _
    | cons next rest =>
      exact not_escapes_bind (not_escapes_mappingOnPath key _) fun _ =>
        not_escapes_bind (ih _) fun _ => not_escapes_ok _

theorem not_escapes_writeAll (entries : Entries) (writes : List (List String × Value)) :
    ¬Escapes (entries.writeAll writes) := by
  induction writes generalizing entries with
  | nil => exact not_escapes_ok _
  | cons w rest ih =>
    obtain ⟨path, v⟩ := w
    refine not_escapes_bind ?_ ih
    rw [Entries.write, escapes_map]
    exact not_escapes_writeAt v entries path

/-- Whatever the layers hold, putting them together fails with an invalid value or not at all. -/
theorem not_escapes_mergeLayers (shared loc : Entries) (environment overrides : List (String × String)) :
    ¬Escapes (mergeLayers shared loc environment overrides) :=
  not_escapes_bind (not_escapes_lay _ _) fun _ => not_escapes_bind (not_escapes_lay _ _) fun _ =>
    not_escapes_bind (not_escapes_writeAll _ _) fun _ => not_escapes_bind (not_escapes_lay _ _)
    fun _ => not_escapes_writeAll _ _

/-! ### Clusters -/

namespace Config

theorem not_escapes_sectionEntries (v : Value) (name : String) : ¬Escapes (sectionEntries v name) := by
  unfold sectionEntries
  split
  · exact not_escapes_ok _
  · exact not_escapes_ok _
  · exact not_escapes_blame _

theorem not_escapes_optionalText (v : Value) : ¬Escapes (optionalText v) := by
  unfold optionalText
  split
  · exact not_escapes_ok _
  · exact not_escapes_ok _
  · exact not_escapes_bind (Value.not_escapes_toText v) fun _ => not_escapes_ok _

theorem not_escapes_switch (v : Value) (name : String) : ¬Escapes (switch v name) := by
  unfold switch
  split
  · exact not_escapes_ok _
  · split
    · exact not_escapes_ok _
    · exact not_escapes_blame _
  · exact not_escapes_blame _

theorem not_escapes_clusterOf (place : Nat) (entry : Value) : ¬Escapes (clusterOf place entry) := by
  cases entry with
  | map entries anchor =>
    unfold clusterOf
    simp only
    split
    · exact not_escapes_blame .clusterWithoutUrl
    · exact not_escapes_bind (not_escapes_clusterName entries place) fun _ =>
        not_escapes_bind (Value.not_escapes_toText _) fun _ =>
        not_escapes_bind (not_escapes_optionalText _) fun _ =>
        not_escapes_bind (not_escapes_optionalText _) fun _ =>
        not_escapes_bind (not_escapes_switch _ _) fun _ => not_escapes_ok _
  | _ => exact not_escapes_blame _

theorem not_escapes_clustersFrom (place : Nat) (items : List Value) :
    ¬Escapes (clustersFrom place items) := by
  induction items generalizing place with
  | nil => exact not_escapes_ok _
  | cons entry rest ih =>
    exact not_escapes_bind (not_escapes_clusterOf place entry) fun _ =>
      not_escapes_bind (ih _) fun _ => not_escapes_ok _

theorem not_escapes_namedEntry (name entry : Value) : ¬Escapes (namedEntry name entry) :=
  not_escapes_bind (Value.not_escapes_toText name) fun _ =>
    not_escapes_bind (not_escapes_sectionEntries entry _) fun _ => not_escapes_ok _

theorem not_escapes_mapM {f : α → Except Fault β} (h : ∀ a, ¬Escapes (f a)) (as : List α) :
    ¬Escapes (as.mapM f) := by
  induction as with
  | nil => exact not_escapes_ok _
  | cons a as ih =>
    rw [List.mapM_cons]
    exact not_escapes_bind (h a) fun _ => not_escapes_bind ih fun _ => not_escapes_ok _

theorem not_escapes_clustersOf (v : Value) : ¬Escapes (clustersOf v) := by
  unfold clustersOf
  split
  · exact not_escapes_ok _
  · exact not_escapes_bind (not_escapes_mapM (fun e : Value × Value => not_escapes_namedEntry e.1 e.2) _)
      fun _ => not_escapes_clustersFrom 0 _
  · exact not_escapes_clustersFrom 0 _
  · exact not_escapes_blame _

end Config

/-! ### Numbers -/

namespace Value

/-- The kinds of values that are no numbers and no texts of numbers. -/
def IsNumberless (v : Value) : Prop := v.kind ∈ [.null, .date, .moment, .list, .map]

/-- That a whole number is wanted of a value of a kind that has none, or of an infinity. -/
def LacksWhole (v : Value) : Prop :=
  v.IsNumberless ∨ ∃ x negative, v = .float x ∧ Decimal.Double.ofFloat x = .infinite negative

/-- That a real number is wanted of a value of a kind that has none, or of too large a whole number. -/
def LacksReal (v : Value) : Prop :=
  v.IsNumberless ∨ ∃ n, v = .int n ∧ Decimal.wholeToDouble? n = none

theorem not_escapes_wholeOf (shown : String) (reading : Decimal.WholeReading) :
    ¬Escapes (wholeOf shown reading) := by
  cases reading with
  | value n => exact not_escapes_ok n
  | tooLong digits => simp [wholeOf, escapes_error, Fault.isInvalidValue]
  | malformed => simp [wholeOf, escapes_error, Fault.isInvalidValue]

theorem escapes_truncate (x : Float) :
    Escapes (truncate x) ↔ ∃ negative, Decimal.Double.ofFloat x = .infinite negative := by
  unfold truncate
  cases Decimal.Double.ofFloat x with
  | nan => simp [escapes_error, Fault.isInvalidValue]
  | infinite negative => simp [escapes_error, Fault.isInvalidValue]
  | finite negative mantissa exponent => simp [not_escapes_ok]

theorem escapes_toWhole (v : Value) : Escapes v.toWhole ↔ v.LacksWhole := by
  cases v with
  | bool b => simp [toWhole, not_escapes_ok, LacksWhole, IsNumberless, kind]
  | int n => simp [toWhole, not_escapes_ok, LacksWhole, IsNumberless, kind]
  | float x => simp [toWhole, escapes_truncate, LacksWhole, IsNumberless, kind]
  | text s => simp [toWhole, not_escapes_wholeOf, LacksWhole, IsNumberless, kind]
  | bytes bs => simp [toWhole, not_escapes_wholeOf, LacksWhole, IsNumberless, kind]
  | _ => simp [toWhole, escapes_error, Fault.isInvalidValue, LacksWhole, IsNumberless, kind]

theorem escapes_toReal (v : Value) : Escapes v.toReal ↔ v.LacksReal := by
  cases v with
  | bool b => simp [toReal, not_escapes_ok, LacksReal, IsNumberless, kind]
  | int n =>
    cases h : Decimal.wholeToDouble? n <;>
      simp [toReal, h, not_escapes_ok, escapes_error, Fault.isInvalidValue, LacksReal, IsNumberless,
        kind]
  | float x => simp [toReal, not_escapes_ok, LacksReal, IsNumberless, kind]
  | text s =>
    cases h : Decimal.readReal? s <;>
      simp [toReal, h, not_escapes_ok, escapes_error, Fault.isInvalidValue, LacksReal, IsNumberless,
        kind]
  | bytes bs =>
    cases h : Decimal.readRealChars? (bytesChars bs) <;>
      simp [toReal, h, not_escapes_ok, escapes_error, Fault.isInvalidValue, LacksReal, IsNumberless,
        kind]
  | _ => simp [toReal, escapes_error, Fault.isInvalidValue, LacksReal, IsNumberless, kind]

end Value

/-! ### Configurations -/

namespace Config

/-- That the first thing wrong with the data of a configuration is a value without a number where one
is wanted. What comes before it in the order of reading is as it should be. -/
inductive Misfit (data : Entries) : Prop where
  | requestTimeout {settings : Entries}
      (settingsRead : sectionEntries (valueAt data "settings") "settings" = .ok settings)
      (lacks : (valueOr settings "request_timeout_seconds" (.int 20)).LacksWhole)
  | pageSize {settings : Entries} {requestTimeout : Int} {userAgent : String}
      (settingsRead : sectionEntries (valueAt data "settings") "settings" = .ok settings)
      (timeoutRead :
        (valueOr settings "request_timeout_seconds" (.int 20)).toWhole = .ok requestTimeout)
      (agentRead : (valueOr settings "user_agent" (.text "failfast/0.1")).toText = .ok userAgent)
      (lacks : (valueOr settings "page_size" (.int 500)).LacksWhole)
  | timeout {settings waiting : Entries} {read : Settings}
      (settingsRead : sectionEntries (valueAt data "settings") "settings" = .ok settings)
      (read : settingsOf settings = .ok read)
      (waitingRead : sectionEntries (valueAt data "waiting") "waiting" = .ok waiting)
      (lacks : (valueOr waiting "timeout_seconds" (.int 300)).LacksReal)
  | interval {settings waiting : Entries} {read : Settings} {timeout : Float}
      (settingsRead : sectionEntries (valueAt data "settings") "settings" = .ok settings)
      (read : settingsOf settings = .ok read)
      (waitingRead : sectionEntries (valueAt data "waiting") "waiting" = .ok waiting)
      (timeoutRead : (valueOr waiting "timeout_seconds" (.int 300)).toReal = .ok timeout)
      (lacks : (valueOr waiting "poll_interval_seconds" (.int 5)).LacksReal)

theorem escapes_settingsOf (entries : Entries) :
    Escapes (settingsOf entries) ↔
      (valueOr entries "request_timeout_seconds" (.int 20)).LacksWhole ∨
      ∃ requestTimeout,
        (valueOr entries "request_timeout_seconds" (.int 20)).toWhole = .ok requestTimeout ∧
        ∃ userAgent, (valueOr entries "user_agent" (.text "failfast/0.1")).toText = .ok userAgent ∧
          (valueOr entries "page_size" (.int 500)).LacksWhole := by
  simp only [settingsOf, escapes_bind, Value.escapes_toWhole, Value.not_escapes_toText, false_or,
    pure, Except.pure, not_escapes_ok, and_false, exists_false, or_false]

theorem escapes_waitingOf (entries : Entries) :
    Escapes (waitingOf entries) ↔
      (valueOr entries "timeout_seconds" (.int 300)).LacksReal ∨
      ∃ timeout, (valueOr entries "timeout_seconds" (.int 300)).toReal = .ok timeout ∧
        (valueOr entries "poll_interval_seconds" (.int 5)).LacksReal := by
  have hchecked (timeout interval : Float) : ¬Escapes (do
      if interval ≤ 0.0 then blame .intervalNotPositive
      return ({ timeout, interval } : Waiting)) := by
    split
    · exact not_escapes_blame .intervalNotPositive
    · exact not_escapes_ok _
  simp only [waitingOf, escapes_bind (x := Value.toReal _), Value.escapes_toReal, hchecked, and_false,
    exists_false, or_false]

/-- A configuration is read if and only if each of its three parts is. -/
theorem ofValue_eq_ok_iff {data : Entries} {anchor : Option Nat} {c : Config} :
    ofValue (.map data anchor) = .ok c ↔
      (sectionEntries (valueAt data "settings") "settings" >>= settingsOf) = .ok c.settings ∧
      (sectionEntries (valueAt data "waiting") "waiting" >>= waitingOf) = .ok c.waiting ∧
      clustersOf (valueAt data "clusters") = .ok c.clusters := by
  constructor
  · intro h
    obtain ⟨settings, hsection, h⟩ := bind_eq_ok.1 h
    obtain ⟨settings', hsettings, h⟩ := bind_eq_ok.1 h
    obtain ⟨waiting, hsection', h⟩ := bind_eq_ok.1 h
    obtain ⟨waiting', hwaiting, h⟩ := bind_eq_ok.1 h
    obtain ⟨clusters, hclusters, h⟩ := bind_eq_ok.1 h
    cases h
    exact ⟨bind_eq_ok.2 ⟨_, hsection, hsettings⟩, bind_eq_ok.2 ⟨_, hsection', hwaiting⟩, hclusters⟩
  · rintro ⟨hsettings, hwaiting, hclusters⟩
    obtain ⟨settings, hsection, hsettings⟩ := bind_eq_ok.1 hsettings
    obtain ⟨waiting, hsection', hwaiting⟩ := bind_eq_ok.1 hwaiting
    rw [ofValue, hsection, ok_bind, hsettings, ok_bind, hsection', ok_bind, hwaiting, ok_bind,
      hclusters]
    rfl

theorem escapes_ofValue (data : Entries) (anchor : Option Nat) :
    Escapes (ofValue (.map data anchor)) ↔ Misfit data := by
  simp only [ofValue, escapes_bind, not_escapes_sectionEntries, not_escapes_clustersOf,
    escapes_settingsOf, escapes_waitingOf, pure, Except.pure, not_escapes_ok, false_or, and_false,
    exists_false, or_false]
  constructor
  · rintro ⟨settings, hsettings, (hlacks | ⟨timeout, htimeout, agent, hagent, hlacks⟩) |
      ⟨read, hread, waiting, hwaiting, hlacks | ⟨timeout, htimeout, hlacks⟩⟩⟩
    · exact .requestTimeout hsettings hlacks
    · exact .pageSize hsettings htimeout hagent hlacks
    · exact .timeout hsettings hread hwaiting hlacks
    · exact .interval hsettings hread hwaiting htimeout hlacks
  · rintro (⟨hsettings, hlacks⟩ | ⟨hsettings, htimeout, hagent, hlacks⟩ |
      ⟨hsettings, hread, hwaiting, hlacks⟩ | ⟨hsettings, hread, hwaiting, htimeout, hlacks⟩)
    · exact ⟨_, hsettings, .inl (.inl hlacks)⟩
    · exact ⟨_, hsettings, .inl (.inr ⟨_, htimeout, _, hagent, hlacks⟩)⟩
    · exact ⟨_, hsettings, .inr ⟨_, hread, _, hwaiting, .inl hlacks⟩⟩
    · exact ⟨_, hsettings, .inr ⟨_, hread, _, hwaiting, .inr ⟨_, htimeout, hlacks⟩⟩⟩

end Config

end Tripwire

import Tripwire.CommandLine.Run
import Tripwire.Proofs.Config.Contained
import Tripwire.Proofs.Event.Reading
import Tripwire.Proofs.Time.Calendar

/-!
# Loading without escape

Loading a configuration comes to a configuration or to an invalid value, unless the document of a file
cannot be read or the first thing wrong with the data is a value without a number. The command reports
an invalid value and fails with anything else.
-/

namespace Tripwire

open Files (Path)

variable {W : Type}

namespace Host

/-- What a file holds as a layer; one that is missing or may not be opened holds nothing. -/
def layer (h : Host) (place : Nat) (p : Path) : Except Fault Entries :=
  match h.find? p with
  | some (.file bytes) => if p.text ∈ h.unreadable then .ok [] else fileEntries h place p bytes
  | _ => .ok []

theorem reads_fileLayer (h : Host) (place : Nat) (p : Path) :
    (fileLayer h place p : Act W Entries).Reads (h.layer place p) := by
  rw [fileLayer, layer]
  cases h.find? p with
  | none => exact Act.reads_pure []
  | some e =>
    cases e with
    | directory children => exact Act.reads_pure []
    | file bytes =>
      by_cases hclosed : p.text ∈ h.unreadable
      · simp only [if_pos hclosed]
        exact (Act.reads_note _ _).bind fun _ => Act.reads_pure []
      · simp only [if_neg hclosed]
        exact Act.reads_ofExcept _

def ownPath? (own : Option String) : Option Path := (own.filter (· ≠ "")).map Path.ofText

def rootPath (h : Host) (root : Option Path) : Path := root.getD (Path.ofDirectory (h.projectRoot none))

def sharedPath (h : Host) (root : Option Path) : Path := (h.rootPath root).child sharedName

def localPath (h : Host) (root : Option Path) (own : Option String) : Path :=
  (ownPath? own).getD ((h.rootPath root).child localName)

/-- A file that is asked for has to exist. -/
def checkOwn (h : Host) (own : Option String) : Except Fault Unit :=
  match ownPath? own with
  | some p => if (h.find? p).isNone then .error (.config (.fileNotFound p.text)) else .ok ()
  | none => .ok ()

/-- The configuration of a host, or the first thing that is wrong with it. -/
def load (h : Host) (root : Option Path) (own : Option String) (given : Option (Named String))
    (overrides : Named String) : Except Fault Config := do
  h.checkOwn own
  let shared ← h.layer 0 (h.sharedPath root)
  let loc ← h.layer 1 (h.localPath root own)
  let layers ← mergeLayers shared loc (given.getD h.environment) overrides
  Config.ofValue (.map (resolveEntries h.environment.get? layers) none)

theorem reads_loadConfig (h : Host) (root : Option Path) (own : Option String)
    (given : Option (Named String)) (overrides : Named String) :
    (loadConfig h root own given overrides : Act W Config).Reads
      (h.load root own given overrides) := by
  have hlayers : (loadLayers h (h.rootPath root) (ownPath? own) given overrides : Act W Entries).Reads
      (do
        let shared ← h.layer 0 (h.sharedPath root)
        let loc ← h.layer 1 (h.localPath root own)
        mergeLayers shared loc (given.getD h.environment) overrides) :=
    (h.reads_fileLayer 0 _).bind fun _ => (h.reads_fileLayer 1 _).bind fun _ => Act.reads_ofExcept _
  have hrest := hlayers.bind fun layers => Act.reads_ofExcept (W := W)
    (Config.ofValue (.map (resolveEntries h.environment.get? layers) none))
  simp only [bind_assoc] at hrest
  rw [loadConfig, load, checkOwn]
  simp only
  rw [← ownPath?]
  cases hown : ownPath? own with
  | none =>
    rw [hown] at hrest
    exact hrest
  | some p =>
    rw [hown] at hrest
    simp only
    split
    · exact Act.reads_fail _
    · exact hrest

/-! ### What escapes -/

/-- That a file may be opened and its document cannot be read, for another cause than an invalid
value. -/
def Garbles (h : Host) (place : Nat) (p : Path) : Prop :=
  ∃ bytes f, h.find? p = some (.file bytes) ∧ p.text ∉ h.unreadable ∧
    h.documentOf place bytes = .error f ∧ f.isInvalidValue = false

theorem escapes_fileEntries (h : Host) (place : Nat) (p : Path) (bytes : List UInt8) :
    Escapes (fileEntries h place p bytes) ↔ Escapes (h.documentOf place bytes) := by
  have hentries (v : Value) :
      ¬Escapes (if v.isTruthy then Config.sectionEntries v p.text else return []) := by
    split
    · exact Config.not_escapes_sectionEntries v p.text
    · exact not_escapes_ok _
  rw [fileEntries, escapes_bind]
  simp only [hentries, and_false, exists_false, or_false]

theorem escapes_layer (h : Host) (place : Nat) (p : Path) :
    Escapes (h.layer place p) ↔ h.Garbles place p := by
  rw [layer, Garbles]
  cases h.find? p with
  | none => simp [not_escapes_ok]
  | some e =>
    cases e with
    | directory children => simp [not_escapes_ok]
    | file bytes =>
      by_cases hclosed : p.text ∈ h.unreadable
      · simp [hclosed, not_escapes_ok]
      · simp only [if_neg hclosed, escapes_fileEntries]
        simp [Escapes, hclosed]

theorem not_escapes_checkOwn (h : Host) (own : Option String) : ¬Escapes (h.checkOwn own) := by
  unfold checkOwn
  split
  · split
    · exact not_escapes_blame _
    · exact not_escapes_ok ()
  · exact not_escapes_ok ()

/-- That the first thing wrong with a configuration is a file whose document cannot be read, or a value
without a number. -/
inductive Misreads (h : Host) (root : Option Path) (own : Option String)
    (given : Option (Named String)) (overrides : Named String) : Prop where
  | sharedFile (found : h.checkOwn own = .ok ()) (garbled : h.Garbles 0 (h.sharedPath root))
  | ownFile {shared : Entries} (found : h.checkOwn own = .ok ())
      (sharedRead : h.layer 0 (h.sharedPath root) = .ok shared)
      (garbled : h.Garbles 1 (h.localPath root own))
  | number {shared loc layers : Entries} (found : h.checkOwn own = .ok ())
      (sharedRead : h.layer 0 (h.sharedPath root) = .ok shared)
      (ownRead : h.layer 1 (h.localPath root own) = .ok loc)
      (merges : mergeLayers shared loc (given.getD h.environment) overrides = .ok layers)
      (misfit : Config.Misfit (resolveEntries h.environment.get? layers))

theorem escapes_load (h : Host) (root : Option Path) (own : Option String)
    (given : Option (Named String)) (overrides : Named String) :
    Escapes (h.load root own given overrides) ↔ h.Misreads root own given overrides := by
  simp only [load, escapes_bind, not_escapes_checkOwn, escapes_layer, not_escapes_mergeLayers,
    Config.escapes_ofValue, false_or]
  constructor
  · rintro ⟨⟨⟩, hfound, hshared | ⟨shared, hshared, hown | ⟨loc, hown, layers, hlayers, hmisfit⟩⟩⟩
    · exact .sharedFile hfound hshared
    · exact .ownFile hfound hshared hown
    · exact .number hfound hshared hown hlayers hmisfit
  · rintro (⟨hfound, hshared⟩ | ⟨hfound, hshared, hown⟩ |
      ⟨hfound, hshared, hown, hlayers, hmisfit⟩)
    · exact ⟨(), hfound, .inl hshared⟩
    · exact ⟨(), hfound, .inr ⟨_, hshared, .inl hown⟩⟩
    · exact ⟨(), hfound, .inr ⟨_, hshared, .inr ⟨_, hown, _, hlayers, hmisfit⟩⟩⟩

end Host

/-! ### What the command makes of it -/

namespace CommandLine

/-- A run whose configuration cannot be loaded ends with a text for an invalid value; anything else that
is wrong goes through it. -/
def unloaded (f : Fault) : Except Fault Ending :=
  if f.isInvalidValue then .ok (.stop ("Invalid configuration: " ++ f.message)) else .error f

theorem on_orInvalid_error {α : Type} {act : Act W α} {s t : Stage W} {f : Fault}
    (h : act.on s = (.error f, t)) :
    (orInvalid act).on s = (if f.isInvalidValue then .ok (.error f.message) else .error f, t) := by
  have hact : (do return .ok (← act) : Act W (Except String α)).on s = (.error f, t) :=
    Act.on_bind_error h
  rw [orInvalid, Act.on_tryCatch, hact]
  simp only
  split
  · rfl
  · rfl

theorem on_run_of_error {o : Outside W} {a : Arguments} {overrides : Named String}
    (hset : overridesOf a.overrides [] = .ok overrides) {s t : Stage W} {f : Fault}
    (hload : (loadConfig o.host none a.config none overrides).on s = (.error f, t)) :
    (run o a).on s = (unloaded f, t) := by
  have hreported := on_orInvalid_error hload
  rw [run, hset, unloaded]
  cases hf : f.isInvalidValue with
  | true =>
    rw [hf] at hreported
    exact Act.on_bind_ok hreported
  | false =>
    rw [hf] at hreported
    exact Act.on_bind_error hreported

end CommandLine

/-- Loading a configuration comes to one or to an invalid value, unless the host misreads it; and the
command ends with a text for an invalid value and fails with any other fault. -/
theorem loads_or_reports_unless_misread (h : Host) (root : Option Path) (own : Option String)
    (given : Option (Named String)) (overrides : Named String) (s : Stage W) :
    (((∃ config, ((loadConfig h root own given overrides).on s).1 = .ok config) ∨
        ∃ f, ((loadConfig h root own given overrides).on s).1 = .error f ∧
          f.isInvalidValue = true) ↔
      ¬h.Misreads root own given overrides) ∧
    ∀ (o : CommandLine.Outside W) (a : CommandLine.Arguments) (f : Fault) (t : Stage W),
      CommandLine.overridesOf a.overrides [] = .ok overrides →
      (loadConfig o.host none a.config none overrides).on s = (.error f, t) →
      (CommandLine.run o a).on s = (CommandLine.unloaded f, t) := by
  constructor
  · rw [(h.reads_loadConfig root own given overrides).on_eq s, ← Host.escapes_load]
    cases h.load root own given overrides with
    | ok config => simp [not_escapes_ok]
    | error f => simp [escapes_error]
  · intro o a f t hset hload
    exact CommandLine.on_run_of_error hset hload

/-- The fault of something that failed. -/
def faultOf? {α : Type} : Except Fault α → Option Fault
  | .ok _ => none
  | .error f => some f

theorem eq_error_of_faultOf? {α : Type} {r : Except Fault α} {f : Fault} (h : faultOf? r = some f) :
    r = .error f := by
  cases r with
  | ok a => cases h
  | error f' => rw [Option.some.inj h]

/-- A page size that is a word is an invalid value, which the command reports. -/
theorem worded_page_size_is_reported :
    let h : Host := { files := .directory [] }
    let overrides : Named String := [("settings.page_size", "ten")]
    let a : CommandLine.Arguments := { overrides := ["settings.page_size=ten"] }
    ¬h.Misreads none none none overrides ∧
      ∃ o : CommandLine.Outside Unit, o.host = h ∧
        ((CommandLine.run o a).on { world := () }).1 = .ok (.stop
          "Invalid configuration: invalid literal for int() with base 10: 'ten'") := by
  intro h overrides a
  let o : CommandLine.Outside Unit :=
    { host := h
      network := { connect := fun _ => pure (), get := fun _ => Act.fail .badJson, reach := fun _ => 0 }
      clock := pure (.whole 0), sleep := fun _ => pure (), now := Time.Moment.first, patience := 0 }
  have hfault : ((loadConfig h none none none overrides).on ({ world := () } : Stage Unit)).1 =
      .error (.badWhole 10 "'ten'") := eq_error_of_faultOf? (by decide +kernel)
  have hset : CommandLine.overridesOf a.overrides [] = .ok overrides := by cbv
  obtain ⟨hiff, hrun⟩ := loads_or_reports_unless_misread h none none none overrides
    ({ world := () } : Stage Unit)
  refine ⟨hiff.1 (.inr ⟨_, hfault, rfl⟩), o, rfl, ?_⟩
  rw [hrun o a _ _ hset (Prod.ext hfault rfl)]
  rfl

/-- A page size that is null has no number. The command fails with that instead of a report. -/
theorem null_page_size_escapes :
    let bytes := "settings:\n  page_size:\n".toUTF8.toList
    let h : Host := { files := .directory [("failfast.yaml", .file bytes)] }
    let loaded := ((loadConfig h (some (Path.ofText ".")) none none []).on
      ({ world := () } : Stage Unit)).1
    ¬((∃ config, loaded = .ok config) ∨ ∃ f, loaded = .error f ∧ f.isInvalidValue = true) := by
  intro bytes h loaded
  have hloaded : loaded = .error (.noWhole .null) := eq_error_of_faultOf? (by decide +kernel)
  rintro (⟨config, hconfig⟩ | ⟨f, hf, hinvalid⟩)
  · rw [hloaded] at hconfig
    cases hconfig
  · rw [hloaded] at hf
    cases hf
    cases hinvalid

end Tripwire

/-
The server password and the certificate passphrase in the secret store of the operating system (`gui/secrets.rs`), and
the sessions that use it: `GuiState::new` reads both, the user edits the fields, `save_config` writes both.

Every read and every write may fail; a write that fails leaves the store as it is. A read that fails yields the empty
string, like one that finds nothing, and storing the empty string deletes.

Results, for every stored secret and every run:
- `saveConfig_apply`, `inv_step`: a save writes each field as it stands; an unedited field is what its read yielded.
- `secrets_kept_iff`: the runs that delete or replace no secret the user has not edited are exactly those in which every
  save that gets through to such a secret is in a session that could read it.
-/
import MumbledFlight.Lib.Runs
import Mathlib.Logic.Function.Basic

namespace MumbledFlight.Secrets

/-! ## The store -/

inductive SecretKey where
  | serverPassword
  | certPassphrase
deriving DecidableEq

abbrev SecretStore := SecretKey → Option String

inductive KeyringError where
  | noEntry
  /-- any other error -/
  | unavailable

/-- `Entry::get_password`, which succeeds or fails as the platform's store does -/
def getPassword (available : Bool) (stored : SecretStore) (key : SecretKey) : Except KeyringError String :=
  if available then
    match stored key with
    | some secret => .ok secret
    | none => .error .noEntry
  else .error .unavailable

def load (available : Bool) (stored : SecretStore) (key : SecretKey) : String :=
  match getPassword available stored key with
  | .ok secret => secret
  | .error .noEntry => ""
  | .error .unavailable => ""

/-- stores the value, or deletes the entry when it is empty; an absent entry is no error -/
def store (available : Bool) (stored : SecretStore) (key : SecretKey) (value : String) : SecretStore :=
  if available then Function.update stored key (if value.isEmpty then none else some value) else stored

/-- `GuiState`, its secret fields -/
structure GuiSecrets where
  serverPassword : String
  certPass : String

namespace GuiSecrets

def new (available : SecretKey → Bool) (stored : SecretStore) : GuiSecrets where
  serverPassword := load (available .serverPassword) stored .serverPassword
  certPass := load (available .certPassphrase) stored .certPassphrase

def field (g : GuiSecrets) : SecretKey → String
  | .serverPassword => g.serverPassword
  | .certPassphrase => g.certPass

def edit (g : GuiSecrets) (value : String) : SecretKey → GuiSecrets
  | .serverPassword => { g with serverPassword := value }
  | .certPassphrase => { g with certPass := value }

/-- `save_config`, what it does to the secret store -/
def saveConfig (g : GuiSecrets) (available : SecretKey → Bool) (stored : SecretStore) : SecretStore :=
  let stored := store (available .serverPassword) stored .serverPassword g.serverPassword
  store (available .certPassphrase) stored .certPassphrase g.certPass

theorem field_new (available : SecretKey → Bool) (stored : SecretStore) (key : SecretKey) :
    (new available stored).field key = load (available key) stored key := by
  cases key <;> rfl

theorem field_edit_of_ne (g : GuiSecrets) (value : String) {key key' : SecretKey} (h : key' ≠ key) :
    (g.edit value key).field key' = g.field key' := by
  cases key <;> cases key' <;> first | exact absurd rfl h | rfl

/-- the two writes do not touch each other -/
theorem saveConfig_apply (g : GuiSecrets) (available : SecretKey → Bool) (stored : SecretStore) (key : SecretKey) :
    g.saveConfig available stored key =
      if available key then if (g.field key).isEmpty then none else some (g.field key) else stored key := by
  unfold saveConfig store
  cases key
  · by_cases hother : available .certPassphrase <;> by_cases h : available .serverPassword <;>
      simp [hother, h, field]
  · by_cases hother : available .serverPassword <;> by_cases h : available .certPassphrase <;>
      simp [hother, h, field]

end GuiSecrets

theorem load_of_available (stored : SecretStore) (key : SecretKey) : load true stored key = (stored key).getD "" := by
  unfold load getPassword
  cases stored key <;> rfl

/-! ## Sessions -/

/-- the store, the GUI, and two facts of its session -/
structure SecretsRun where
  stored : SecretStore
  gui : Option GuiSecrets
  /-- the user has edited the field -/
  edited : SecretKey → Bool
  /-- the session's read of the key did not fail -/
  readable : SecretKey → Bool

inductive SecretsEvent where
  /-- `GuiState::new` -/
  | new (available : SecretKey → Bool)
  | edit (key : SecretKey) (value : String)
  | saveConfig (available : SecretKey → Bool)

/-- before the first session -/
def init (stored : SecretStore) : SecretsRun := ⟨stored, none, fun _ => false, fun _ => false⟩

def step (s : SecretsRun) : SecretsEvent → SecretsRun
  | .new available => ⟨s.stored, some (.new available s.stored), fun _ => false, available⟩
  | .edit key value =>
    match s.gui with
    | some g => { s with gui := some (g.edit value key), edited := Function.update s.edited key true }
    | none => s
  | .saveConfig available =>
    match s.gui with
    | some g => { s with stored := g.saveConfig available s.stored }
    | none => s

theorem step_edit {s : SecretsRun} {g : GuiSecrets} (h : s.gui = some g) (key : SecretKey) (value : String) :
    step s (.edit key value) =
      { s with gui := some (g.edit value key), edited := Function.update s.edited key true } := by
  simp only [step, h]

theorem step_saveConfig {s : SecretsRun} {g : GuiSecrets} (h : s.gui = some g) (available : SecretKey → Bool) :
    step s (.saveConfig available) = { s with stored := g.saveConfig available s.stored } := by
  simp only [step, h]

/-- without a session nothing is edited or saved -/
theorem step_edit_of_none {s : SecretsRun} (h : s.gui = none) (key : SecretKey) (value : String) :
    step s (.edit key value) = s := by
  simp only [step, h]

theorem step_saveConfig_of_none {s : SecretsRun} (h : s.gui = none) (available : SecretKey → Bool) :
    step s (.saveConfig available) = s := by
  simp only [step, h]

/-- a secret whose field the user has not edited stays in the store -/
def OnlyByUser (s : SecretsRun) (e : SecretsEvent) : Prop :=
  ∀ key secret, s.stored key = some secret → s.edited key = false → (step s e).stored key = some secret

/-- a save that gets through to a secret the user has not edited is in a session that could read it -/
def ReadBeforeSave (s : SecretsRun) : SecretsEvent → Prop
  | .saveConfig available =>
    ∀ key secret, s.gui.isSome → s.stored key = some secret → s.edited key = false → available key = true →
      s.readable key = true ∧ secret ≠ ""
  | _ => True

/-- an unedited field is what the read of the session yielded -/
def Inv (s : SecretsRun) : Prop :=
  ∀ g, s.gui = some g → ∀ key, s.edited key = false →
    g.field key = if s.readable key then (s.stored key).getD "" else ""

theorem inv_init (stored : SecretStore) : Inv (init stored) := fun _ h => nomatch h

theorem inv_new (s : SecretsRun) (available : SecretKey → Bool) : Inv (step s (.new available)) := by
  intro g hg key _
  obtain rfl : GuiSecrets.new available s.stored = g := Option.some.inj hg
  rw [GuiSecrets.field_new]
  cases havailable : available key with
  | true => simp only [step, havailable, if_true, load_of_available]
  | false => simp only [step, havailable, Bool.false_eq_true, if_false, load, getPassword]

theorem inv_edit {s : SecretsRun} (h : Inv s) {g : GuiSecrets} (hgui : s.gui = some g) (key : SecretKey)
    (value : String) : Inv (step s (.edit key value)) := by
  rw [step_edit hgui]
  intro g' hg' key' hunedited
  obtain rfl : g.edit value key = g' := Option.some.inj hg'
  have hne : key' ≠ key := by
    rintro rfl
    simp at hunedited
  dsimp only at hunedited
  rw [Function.update_of_ne hne] at hunedited
  rw [GuiSecrets.field_edit_of_ne g value hne]
  exact h g hgui key' hunedited

/-- a save leaves what it saves -/
theorem inv_saveConfig {s : SecretsRun} (h : Inv s) {g : GuiSecrets} (hgui : s.gui = some g)
    (available : SecretKey → Bool) : Inv (step s (.saveConfig available)) := by
  rw [step_saveConfig hgui]
  intro g' hg' key hunedited
  obtain rfl : g = g' := Option.some.inj (hgui.symm.trans hg')
  have hfield := h g hgui key hunedited
  dsimp only
  rw [GuiSecrets.saveConfig_apply]
  by_cases hreadable : s.readable key = true
  · rw [if_pos hreadable] at hfield ⊢
    split_ifs with havailable hempty
    · exact String.isEmpty_iff.1 hempty
    · rfl
    · exact hfield
  · rw [if_neg hreadable] at hfield ⊢
    exact hfield

theorem inv_step (s : SecretsRun) (e : SecretsEvent) (h : Inv s) : Inv (step s e) := by
  cases hgui : s.gui with
  | none =>
    cases e with
    | new available => exact inv_new s available
    | edit key value => rwa [step_edit_of_none hgui key value]
    | saveConfig available => rwa [step_saveConfig_of_none hgui available]
  | some g =>
    cases e with
    | new available => exact inv_new s available
    | edit key value => exact inv_edit h hgui key value
    | saveConfig available => exact inv_saveConfig h hgui available

/-! ## What a save keeps -/

/-- a save writes the secret back, unless the field is empty -/
theorem saveConfig_keeps_iff {s : SecretsRun} (h : Inv s) {g : GuiSecrets} (hgui : s.gui = some g)
    (available : SecretKey → Bool) {key : SecretKey} {secret : String} (hstored : s.stored key = some secret)
    (hunedited : s.edited key = false) :
    (step s (.saveConfig available)).stored key = some secret ↔
      (available key = true → s.readable key = true ∧ secret ≠ "") := by
  have hfield := h g hgui key hunedited
  rw [hstored, Option.getD_some] at hfield
  rw [step_saveConfig hgui]
  dsimp only
  rw [GuiSecrets.saveConfig_apply, hfield, hstored]
  by_cases havailable : available key = true
  · by_cases hreadable : s.readable key = true
    · by_cases hempty : secret = "" <;> simp [havailable, hreadable, hempty]
    · simp [havailable, hreadable]
  · simp [havailable]

theorem onlyByUser_iff {s : SecretsRun} (h : Inv s) (e : SecretsEvent) : OnlyByUser s e ↔ ReadBeforeSave s e := by
  cases hgui : s.gui with
  | none =>
    refine iff_of_true ?_ ?_
    · intro key secret hstored _
      cases e with
      | new available => exact hstored
      | edit key' value => rwa [step_edit_of_none hgui key' value]
      | saveConfig available => rwa [step_saveConfig_of_none hgui available]
    · cases e with
      | saveConfig available =>
        intro key secret hsome
        rw [hgui] at hsome
        exact nomatch hsome
      | _ => trivial
  | some g =>
    cases e with
    | new available => exact iff_of_true (fun _ _ hstored _ => hstored) trivial
    | edit key value =>
      refine iff_of_true ?_ trivial
      intro key' secret hstored _
      rwa [step_edit hgui]
    | saveConfig available =>
      refine ⟨?_, ?_⟩
      · intro hkept key secret _ hstored hunedited
        exact (saveConfig_keeps_iff h hgui available hstored hunedited).1 (hkept key secret hstored hunedited)
      · intro hread key secret hstored hunedited
        have hsession : s.gui.isSome = true := by rw [hgui, Option.isSome_some]
        exact (saveConfig_keeps_iff h hgui available hstored hunedited).2
          (hread key secret hsession hstored hunedited)

/-- Secrets. A run deletes or replaces no secret whose field the user has not edited exactly if each of its saves that
gets through to such a secret is in a session whose read of it succeeded, and the secret is not the empty string. -/
theorem secrets_kept_iff (stored : SecretStore) (es : List SecretsEvent) :
    Runs.Meets step OnlyByUser (init stored) es ↔ Runs.Meets step ReadBeforeSave (init stored) es :=
  Runs.meets_congr inv_step (fun _ e h => onlyByUser_iff h e) (inv_init stored) es

/-- the store is locked when the plugin is enabled, and open when it is disabled again -/
theorem failed_read_deletes :
    let stored : SecretStore := fun _ => some "hunter2"
    let es : List SecretsEvent := [.new fun _ => false, .saveConfig fun _ => true]
    (Runs.run step (init stored) es).stored .serverPassword = none ∧
    ¬Runs.Meets step OnlyByUser (init stored) es := by
  intro stored es
  have hdeleted : (Runs.run step (init stored) es).stored .serverPassword = none := by decide
  refine ⟨hdeleted, ?_⟩
  intro h
  have hkept : (Runs.run step (init stored) es).stored .serverPassword = some "hunter2" :=
    h.2.1 .serverPassword "hunter2" rfl rfl
  rw [hdeleted] at hkept
  exact nomatch hkept

end MumbledFlight.Secrets

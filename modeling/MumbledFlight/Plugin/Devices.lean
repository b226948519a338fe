/-
The device pickers (`GuiState` in `gui/mod.rs`): selections kept as indices into lists that a background thread replaces
every two seconds, and the names they are loaded from and saved as.

`refresh_output_devices` takes the names configured at the start whenever a live list is empty, and the selection's own
name otherwise. The comment there says that the lists are empty on the first refresh; the input lists are empty after
every snapshot without inputs.

Results, for every loaded configuration and every sequence of snapshots and picks:
- `ambientOutput_refresh`, `micInput_refresh`, `radioParams_refresh`: the selections after a snapshot.
- `selection_survives_iff`: a snapshot keeps the selections exactly if it revives no configured name, and no input is
  named like one of the radio's sentinels. `mic_pick_undone` is a pick that is undone.
- `saved_selection_iff`: without a pick the loaded names are written back exactly if every snapshot had them, from the
  first one on, or for inputs from one that follows a snapshot without inputs. `mic_lost_before_first_snapshot` is a
  save that came too early.
-/
import MumbledFlight.Lib.F32
import MumbledFlight.Lib.Runs
import MumbledFlight.Plugin.Gui

namespace MumbledFlight

/-! ## Configuration -/

inductive LevelFilter where
  | error | warn | info | debug | trace
deriving DecidableEq

def LevelFilter.ofConfig (logLevel : String) : LevelFilter :=
  match logLevel.toLower with
  | "error" => .error
  | "warn" => .warn
  | "debug" => .debug
  | "trace" => .trace
  | _ => .info

/-- `to_string().to_lowercase()` -/
def LevelFilter.toConfig : LevelFilter → String
  | .error => "error"
  | .warn => "warn"
  | .info => "info"
  | .debug => "debug"
  | .trace => "trace"

structure PluginConfig where
  server : String
  port : UInt16
  certPath : String
  serverCa : String
  flightId : String
  userName : String
  gain : F32
  ambientVol : F32
  icVol : F32
  denoise : Bool
  ambientDevice : String
  icDevice : String
  micDevice : String
  logLevel : String
  /-- "" is disabled, "__auto__" the auto-sink, anything else a device -/
  radioSource : String
  spatialWidth : F32
deriving DecidableEq

def PluginConfig.default : PluginConfig where
  server := "127.0.0.1"
  port := 64738
  certPath := ""
  serverCa := ""
  flightId := ""
  userName := ""
  gain := 1
  ambientVol := 1
  icVol := 1
  denoise := false
  ambientDevice := ""
  icDevice := ""
  micDevice := ""
  logLevel := "info"
  radioSource := ""
  spatialWidth := 1

inductive RadioSource where
  | disabled
  | autoSink
  | device (name : String)
deriving DecidableEq

/-- a device that is not among the names is disabled -/
def RadioSource.among (names : List String) : RadioSource → RadioSource
  | .device name => if name ∈ names then .device name else .disabled
  | source => source

def radioAutoSink : String := "__auto__"

/-- a radio source as the configuration names it -/
def RadioSource.configName : RadioSource → String
  | .disabled => ""
  | .autoSink => radioAutoSink
  | .device name => name

/-! ## The device lists -/

/-- one enumeration of the devices; the outputs start with the system default, whose name is empty -/
structure DeviceSnapshot where
  outputNames : List String
  outputLabels : List String
  inputNames : List String
  inputLabels : List String
  outputs_labelled : outputLabels.length = outputNames.length
  inputs_labelled : inputLabels.length = inputNames.length
  default_first : outputNames.head? = some ""

structure AudioControls where
  gain : F32
  ambientVol : F32
  icVol : F32
  spatialWidth : F32
  denoise : Bool
deriving DecidableEq

/-- `GuiState`, the part that is loaded and saved -/
structure GuiDevices where
  fields : Fields
  audio : AudioControls
  logLevel : LevelFilter
  outputDevices : List String
  outputDeviceLabels : List String
  selectedAmbient : ℕ
  selectedIc : ℕ
  /-- index 0 is the system default -/
  micInputDevices : List String
  micInputDeviceLabels : List String
  selectedMic : ℕ
  /-- index 0 is disabled; on Linux 1 is the auto-sink -/
  radioInputDevices : List String
  radioInputDeviceLabels : List String
  selectedRadio : ℕ
  /-- the configured names -/
  initialAmbientDevice : String
  initialIcDevice : String
  initialMicDevice : String
  initialRadioSource : String

namespace GuiDevices

/-- `GuiState::new`, with the two secrets the secret store returned -/
def new (autoUser : Option String) (serverPassword certPass : String) (cfg : PluginConfig) : GuiDevices where
  fields :=
    { server := cfg.server
      port := cfg.port
      serverPassword := serverPassword
      certPath := cfg.certPath
      certPass := certPass
      serverCa := cfg.serverCa
      flightId := cfg.flightId
      userName := if cfg.userName.isEmpty then autoUser.getD "" else cfg.userName }
  audio := ⟨cfg.gain, cfg.ambientVol, cfg.icVol, cfg.spatialWidth, cfg.denoise⟩
  logLevel := .ofConfig cfg.logLevel
  outputDevices := []
  outputDeviceLabels := []
  selectedAmbient := 0
  selectedIc := 0
  micInputDevices := []
  micInputDeviceLabels := []
  selectedMic := 0
  radioInputDevices := []
  radioInputDeviceLabels := []
  selectedRadio := 0
  initialAmbientDevice := cfg.ambientDevice
  initialIcDevice := cfg.icDevice
  initialMicDevice := cfg.micDevice
  initialRadioSource := cfg.radioSource

/-- none is the system default -/
def outputDeviceAt (g : GuiDevices) (i : ℕ) : Option String := g.outputDevices[i]?.filter fun name => name ≠ ""

def ambientOutput (g : GuiDevices) : Option String := g.outputDeviceAt g.selectedAmbient

def icOutput (g : GuiDevices) : Option String := g.outputDeviceAt g.selectedIc

def micInput (g : GuiDevices) : Option String :=
  match g.selectedMic with
  | 0 => none
  | i + 1 => g.micInputDevices[i]?

section

variable (linux : Bool)

/-- from the radio index to the device list -/
def radioDeviceOffset : ℕ := if linux then 2 else 1

def radioParams (g : GuiDevices) : RadioSource :=
  if g.selectedRadio = 0 then .disabled
  else if linux = true ∧ g.selectedRadio = 1 then .autoSink
  else
    match g.radioInputDevices[g.selectedRadio - radioDeviceOffset linux]? with
    | some name => .device name
    | none => .disabled

def radioSourceStr (g : GuiDevices) : String :=
  if g.selectedRadio = 0 then ""
  else if linux = true ∧ g.selectedRadio = 1 then radioAutoSink
  else g.radioInputDevices[g.selectedRadio - radioDeviceOffset linux]?.getD ""

/-- the names a refresh looks for -/
def wantedAmbient (g : GuiDevices) : Option String :=
  if g.outputDevices.isEmpty then some g.initialAmbientDevice else g.ambientOutput

def wantedIc (g : GuiDevices) : Option String :=
  if g.outputDevices.isEmpty then some g.initialIcDevice else g.icOutput

def currentMic (g : GuiDevices) : String :=
  if g.micInputDevices.isEmpty then g.initialMicDevice else g.micInput.getD ""

def currentRadio (g : GuiDevices) : String :=
  if g.radioInputDevices.isEmpty then g.initialRadioSource else g.radioSourceStr linux

def refreshOutputDevices (g : GuiDevices) (snap : DeviceSnapshot) : GuiDevices :=
  let resolve (cur : Option String) : ℕ := (cur.bind fun name => snap.outputNames.idxOf? name).getD 0
  { g with
    selectedAmbient := resolve g.wantedAmbient
    selectedIc := resolve g.wantedIc
    outputDevices := snap.outputNames
    outputDeviceLabels := snap.outputLabels
    selectedRadio :=
      if g.currentRadio linux = "" then 0
      else if linux = true ∧ g.currentRadio linux = radioAutoSink then 1
      else ((snap.inputNames.idxOf? (g.currentRadio linux)).map (· + radioDeviceOffset linux)).getD 0
    selectedMic :=
      if g.currentMic = "" then 0 else ((snap.inputNames.idxOf? g.currentMic).map (· + 1)).getD 0
    micInputDevices := snap.inputNames
    micInputDeviceLabels := snap.inputLabels
    radioInputDevices := snap.inputNames
    radioInputDeviceLabels := snap.inputLabels }

/-- what `save_config` writes to the file; the two secrets go to the secret store -/
def saveConfig (g : GuiDevices) : PluginConfig :=
  let outName (i : ℕ) : String := g.outputDevices[i]?.getD ""
  let inName (i : ℕ) : String :=
    match i with
    | 0 => ""
    | i + 1 => g.micInputDevices[i]?.getD ""
  { server := g.fields.server
    port := g.fields.port
    certPath := g.fields.certPath
    serverCa := g.fields.serverCa
    flightId := g.fields.flightId
    userName := g.fields.userName
    gain := g.audio.gain
    ambientVol := g.audio.ambientVol
    icVol := g.audio.icVol
    spatialWidth := g.audio.spatialWidth
    denoise := g.audio.denoise
    ambientDevice := outName g.selectedAmbient
    icDevice := outName g.selectedIc
    micDevice := inName g.selectedMic
    logLevel := g.logLevel.toConfig
    radioSource := g.radioSourceStr linux }

end

end GuiDevices

/-- what happens to the settings; a pick is an index of the combo's list. The pickers are disabled while connected,
which only leaves runs out. -/
inductive DeviceEvent where
  /-- a refresh that found a snapshot -/
  | snapshot (snap : DeviceSnapshot)
  | pickAmbient (i : ℕ)
  | pickIc (i : ℕ)
  | pickMic (i : ℕ)
  | pickRadio (i : ℕ)
  | edit (fields : Fields) (audio : AudioControls)
  | setLogLevel (level : LevelFilter)

def DeviceEvent.IsPick : DeviceEvent → Prop
  | .pickAmbient _ | .pickIc _ | .pickMic _ | .pickRadio _ => True
  | .snapshot _ | .edit _ _ | .setLogLevel _ => False

namespace GuiDevices

variable (linux : Bool)

def step (g : GuiDevices) : DeviceEvent → GuiDevices
  | .snapshot snap => g.refreshOutputDevices linux snap
  | .pickAmbient i => if i < g.outputDeviceLabels.length then { g with selectedAmbient := i } else g
  | .pickIc i => if i < g.outputDeviceLabels.length then { g with selectedIc := i } else g
  | .pickMic i =>
    -- the picker is shown only if there is a device
    if g.micInputDeviceLabels ≠ [] ∧ i < g.micInputDeviceLabels.length + 1 then { g with selectedMic := i } else g
  | .pickRadio i =>
    if i < g.radioInputDeviceLabels.length + radioDeviceOffset linux then { g with selectedRadio := i } else g
  | .edit fields audio => { g with fields := fields, audio := audio }
  | .setLogLevel level => { g with logLevel := level }

/-! ## After a snapshot -/

theorem getElem?_of_idxOf? {names : List String} {name : String} {i : ℕ} (h : names.idxOf? name = some i) :
    names[i]? = some name := by
  obtain ⟨hlt, hget, -⟩ := List.idxOf?_eq_some_iff.1 h
  rw [List.getElem?_eq_getElem hlt, hget]

/-- an output is found by its name, or the default is taken -/
theorem resolve_output {names : List String} (hdefault : names.head? = some "") (wanted : Option String) :
    names[(wanted.bind fun name => names.idxOf? name).getD 0]? =
      some ((wanted.filter fun name => name ∈ names).getD "") := by
  have hzero : names[0]? = some "" := by rw [← List.head?_eq_getElem?, hdefault]
  cases wanted with
  | none => exact hzero
  | some name =>
    cases hi : names.idxOf? name with
    | none =>
      have hnot : name ∉ names := List.idxOf?_eq_none_iff.1 hi
      simp [hi, hnot, hzero, Option.filter]
    | some i =>
      have hget := getElem?_of_idxOf? hi
      have hmem : name ∈ names := List.mem_of_getElem? hget
      simp [hi, hmem, hget, Option.filter]

theorem outputName_filter (name : Option String) :
    (some (name.getD "")).filter (fun name => name ≠ "") = name.filter fun name => name ≠ "" := by
  cases name <;> simp

theorem ambientOutput_refresh (g : GuiDevices) (snap : DeviceSnapshot) :
    (g.refreshOutputDevices linux snap).ambientOutput =
      (g.wantedAmbient.filter fun name => name ∈ snap.outputNames).filter fun name => name ≠ "" := by
  simp only [ambientOutput, outputDeviceAt, refreshOutputDevices]
  rw [resolve_output snap.default_first]
  exact outputName_filter _

theorem icOutput_refresh (g : GuiDevices) (snap : DeviceSnapshot) :
    (g.refreshOutputDevices linux snap).icOutput =
      (g.wantedIc.filter fun name => name ∈ snap.outputNames).filter fun name => name ≠ "" := by
  simp only [icOutput, outputDeviceAt, refreshOutputDevices]
  rw [resolve_output snap.default_first]
  exact outputName_filter _

theorem micInput_refresh (g : GuiDevices) (snap : DeviceSnapshot) :
    (g.refreshOutputDevices linux snap).micInput =
      if g.currentMic ≠ "" ∧ g.currentMic ∈ snap.inputNames then some g.currentMic else none := by
  by_cases hempty : g.currentMic = ""
  · simp [micInput, refreshOutputDevices, hempty]
  · cases hi : snap.inputNames.idxOf? g.currentMic with
    | none =>
      have hnot : g.currentMic ∉ snap.inputNames := List.idxOf?_eq_none_iff.1 hi
      simp [micInput, refreshOutputDevices, hempty, hi, hnot]
    | some i =>
      have hget := getElem?_of_idxOf? hi
      have hmem : g.currentMic ∈ snap.inputNames := List.mem_of_getElem? hget
      simp [micInput, refreshOutputDevices, hempty, hi, hmem, hget]

/-- what a name means as a radio source among these devices -/
def radioOf (names : List String) (name : String) : RadioSource :=
  if name = "" then .disabled
  else if linux = true ∧ name = radioAutoSink then .autoSink
  else if name ∈ names then .device name
  else .disabled

theorem radioParams_at {g : GuiDevices} {i : ℕ} (h : g.selectedRadio = i + radioDeviceOffset linux) {name : String}
    (hget : g.radioInputDevices[i]? = some name) : g.radioParams linux = .device name := by
  unfold radioParams
  cases linux with
  | true =>
    have h2 : g.selectedRadio = i + 2 := h
    rw [if_neg (by omega), if_neg (by omega), h2, show i + 2 - radioDeviceOffset true = i from rfl, hget]
  | false =>
    have h1 : g.selectedRadio = i + 1 := h
    rw [if_neg (by omega), if_neg (by simp), h1, show i + 1 - radioDeviceOffset false = i from rfl, hget]

theorem radioParams_refresh (g : GuiDevices) (snap : DeviceSnapshot) :
    (g.refreshOutputDevices linux snap).radioParams linux = radioOf linux snap.inputNames (g.currentRadio linux) := by
  unfold radioOf
  split_ifs with hempty hauto hmem
  · simp [radioParams, refreshOutputDevices, hempty]
  · have hsel : (g.refreshOutputDevices linux snap).selectedRadio = 1 := by
      simp only [refreshOutputDevices, if_neg hempty, if_pos hauto]
    rw [radioParams, hsel, if_neg one_ne_zero, if_pos ⟨hauto.1, rfl⟩]
  · cases hi : snap.inputNames.idxOf? (g.currentRadio linux) with
    | none => exact absurd hmem (List.idxOf?_eq_none_iff.1 hi)
    | some i =>
      have hsel : (g.refreshOutputDevices linux snap).selectedRadio = i + radioDeviceOffset linux := by
        simp only [refreshOutputDevices, if_neg hempty, if_neg hauto, hi]
        rfl
      exact radioParams_at linux hsel (getElem?_of_idxOf? hi)
  · have hsel : (g.refreshOutputDevices linux snap).selectedRadio = 0 := by
      simp only [refreshOutputDevices, if_neg hempty, if_neg hauto, List.idxOf?_eq_none_iff.2 hmem]
      rfl
    rw [radioParams, hsel, if_pos rfl]

/-! ## Selections across a snapshot -/

/-- the selections after the snapshot are those before it, each one that is gone replaced by its default -/
def Survives (g : GuiDevices) (snap : DeviceSnapshot) (g' : GuiDevices) : Prop :=
  (g'.ambientOutput = g.ambientOutput.filter fun name => name ∈ snap.outputNames) ∧
  (g'.icOutput = g.icOutput.filter fun name => name ∈ snap.outputNames) ∧
  (g'.micInput = g.micInput.filter fun name => name ∈ snap.inputNames) ∧
  g'.radioParams linux = (g.radioParams linux).among snap.inputNames

/-- the configured microphone is not revived, and no nameless one is in use -/
def MicKept (g : GuiDevices) (snap : DeviceSnapshot) : Prop :=
  if g.micInputDevices = [] then g.initialMicDevice = "" ∨ g.initialMicDevice ∉ snap.inputNames
  else g.micInput = some "" → "" ∉ snap.inputNames

/-- the configured radio source is the current one or not revived, and no device in use is named like a sentinel -/
def RadioKept (g : GuiDevices) (snap : DeviceSnapshot) : Prop :=
  if g.radioInputDevices = [] then
    (g.radioParams linux = .autoSink → linux = true ∧ g.initialRadioSource = radioAutoSink) ∧
    (g.radioParams linux = .disabled → g.initialRadioSource = "" ∨
      g.initialRadioSource ∉ snap.inputNames ∧ ¬(linux = true ∧ g.initialRadioSource = radioAutoSink))
  else
    ∀ name, g.radioParams linux = .device name →
      (name = "" → "" ∉ snap.inputNames) ∧ ¬(linux = true ∧ name = radioAutoSink)

theorem isEmpty_of_head? {names : List String} (h : names.head? = some "") : names.isEmpty = false := by
  cases names with
  | nil => cases h
  | cons name names => rfl

/-- an output is kept once the live list is there: it is never nameless -/
theorem output_survives {names : List String} {cur : Option String} (hcur : cur ≠ some "") :
    ((cur.filter fun name => name ∈ names).filter fun name => name ≠ "") = cur.filter fun name => name ∈ names := by
  cases cur with
  | none => rfl
  | some name =>
    have hne : name ≠ "" := fun h => hcur (h ▸ rfl)
    by_cases hmem : name ∈ names
    · simp [Option.filter, hmem, hne]
    · simp [Option.filter, hmem]

theorem outputDeviceAt_ne (g : GuiDevices) (i : ℕ) : g.outputDeviceAt i ≠ some "" := by
  unfold outputDeviceAt
  intro h
  have := (Option.filter_eq_some_iff.1 h).2
  simp at this

theorem micInput_of_empty {g : GuiDevices} (h : g.micInputDevices = []) : g.micInput = none := by
  unfold micInput
  split
  · rfl
  · rw [h]
    rfl

theorem currentMic_of_empty {g : GuiDevices} (h : g.micInputDevices = []) : g.currentMic = g.initialMicDevice := by
  simp [currentMic, h]

theorem currentMic_of_ne {g : GuiDevices} (h : g.micInputDevices ≠ []) : g.currentMic = g.micInput.getD "" := by
  simp [currentMic, h]

theorem mic_survives_iff (g : GuiDevices) (snap : DeviceSnapshot) :
    ((g.refreshOutputDevices linux snap).micInput = g.micInput.filter fun name => name ∈ snap.inputNames) ↔
      g.MicKept snap := by
  rw [micInput_refresh]
  unfold MicKept
  by_cases hempty : g.micInputDevices = []
  · rw [currentMic_of_empty hempty, micInput_of_empty hempty, if_pos hempty]
    by_cases hname : g.initialMicDevice = "" <;> by_cases hmem : g.initialMicDevice ∈ snap.inputNames <;>
      simp [hname, hmem]
  · rw [currentMic_of_ne hempty, if_neg hempty]
    cases g.micInput with
    | none => simp
    | some name =>
      by_cases hname : name = ""
      · by_cases hmem : "" ∈ snap.inputNames <;> simp [Option.filter, hname, hmem]
      · by_cases hmem : name ∈ snap.inputNames <;> simp [Option.filter, hname, hmem]

theorem radioParams_of_empty {g : GuiDevices} (h : g.radioInputDevices = []) :
    g.radioParams linux = .disabled ∨ g.radioParams linux = .autoSink ∧ linux = true := by
  unfold radioParams
  split_ifs with h0 h1
  · exact Or.inl rfl
  · exact Or.inr ⟨rfl, h1.1⟩
  · rw [h]
    exact Or.inl rfl

theorem radioAutoSink_ne : radioAutoSink ≠ "" := by
  decide

theorem radioSourceStr_eq (g : GuiDevices) : g.radioSourceStr linux = (g.radioParams linux).configName := by
  unfold radioSourceStr radioParams
  split_ifs
  · rfl
  · rfl
  · cases g.radioInputDevices[g.selectedRadio - radioDeviceOffset linux]? <;> rfl

theorem autoSink_linux {g : GuiDevices} (h : g.radioParams linux = .autoSink) : linux = true := by
  unfold radioParams at h
  split_ifs at h with h0 h1
  · exact h1.1
  · split at h <;> cases h

theorem currentRadio_of_empty {g : GuiDevices} (h : g.radioInputDevices = []) :
    g.currentRadio linux = g.initialRadioSource := by
  simp [currentRadio, h]

theorem currentRadio_of_ne {g : GuiDevices} (h : g.radioInputDevices ≠ []) :
    g.currentRadio linux = (g.radioParams linux).configName := by
  simp [currentRadio, h, radioSourceStr_eq]

theorem radio_survives_iff (g : GuiDevices) (snap : DeviceSnapshot) :
    (g.refreshOutputDevices linux snap).radioParams linux = (g.radioParams linux).among snap.inputNames ↔
      g.RadioKept linux snap := by
  rw [radioParams_refresh]
  unfold RadioKept
  by_cases hempty : g.radioInputDevices = []
  · rw [currentRadio_of_empty linux hempty, if_pos hempty]
    unfold radioOf
    rcases radioParams_of_empty linux hempty with hp | ⟨hp, hlinux⟩
    · rw [hp]
      split_ifs with h1 h2 h3 <;> simp_all [RadioSource.among]
    · rw [hp]
      split_ifs with h1 h2 h3 <;> simp_all [RadioSource.among, radioAutoSink_ne.symm]
  · rw [currentRadio_of_ne linux hempty, if_neg hempty]
    cases hp : g.radioParams linux with
    | disabled => simp [RadioSource.configName, radioOf, RadioSource.among]
    | autoSink =>
      have hlinux := autoSink_linux linux hp
      simp [RadioSource.configName, radioOf, RadioSource.among, hlinux, radioAutoSink_ne]
    | device name =>
      have hall : (∀ name', RadioSource.device name = .device name' →
          (name' = "" → "" ∉ snap.inputNames) ∧ ¬(linux = true ∧ name' = radioAutoSink)) ↔
          (name = "" → "" ∉ snap.inputNames) ∧ ¬(linux = true ∧ name = radioAutoSink) := by
        simp
      rw [hall]
      unfold radioOf RadioSource.configName RadioSource.among
      by_cases hname : name = ""
      · by_cases hmem : "" ∈ snap.inputNames <;> simp [hname, hmem, radioAutoSink_ne.symm]
      · by_cases hauto : linux = true ∧ name = radioAutoSink
        · obtain ⟨rfl, rfl⟩ := hauto
          by_cases hmem : radioAutoSink ∈ snap.inputNames <;> simp [radioAutoSink_ne, hmem]
        · by_cases hmem : name ∈ snap.inputNames <;> simp [hname, hauto, hmem]

/-- a snapshot has been consumed -/
theorem head?_step {g : GuiDevices} (h : g.outputDevices.head? = some "") (e : DeviceEvent) :
    (g.step linux e).outputDevices.head? = some "" := by
  cases e with
  | snapshot snap => exact snap.default_first
  | edit fields audio => exact h
  | setLogLevel level => exact h
  | _ =>
    simp only [step]
    split_ifs <;> exact h

theorem survives_iff {g : GuiDevices} (hconsumed : g.outputDevices.head? = some "") (snap : DeviceSnapshot) :
    g.Survives linux snap (g.refreshOutputDevices linux snap) ↔ g.MicKept snap ∧ g.RadioKept linux snap := by
  have hlive : g.outputDevices.isEmpty = false := isEmpty_of_head? hconsumed
  have hambient : (g.refreshOutputDevices linux snap).ambientOutput =
      g.ambientOutput.filter fun name => name ∈ snap.outputNames := by
    rw [ambientOutput_refresh, wantedAmbient, hlive, if_neg Bool.false_ne_true]
    exact output_survives (outputDeviceAt_ne g _)
  have hic : (g.refreshOutputDevices linux snap).icOutput = g.icOutput.filter fun name => name ∈ snap.outputNames := by
    rw [icOutput_refresh, wantedIc, hlive, if_neg Bool.false_ne_true]
    exact output_survives (outputDeviceAt_ne g _)
  unfold Survives
  rw [mic_survives_iff, radio_survives_iff]
  exact (and_iff_right hambient).trans (and_iff_right hic)

end GuiDevices

open GuiDevices

/-- Refresh. In every state after a first snapshot, a further snapshot keeps all selections if and only if it revives no
configured microphone or radio source over an empty live list, and no input in use is named like a sentinel. -/
theorem selection_survives_iff (linux : Bool) (autoUser : Option String) (serverPassword certPass : String)
    (cfg : PluginConfig) (before : List DeviceEvent) (first : DeviceSnapshot) (after : List DeviceEvent)
    (snap : DeviceSnapshot) :
    let g := Runs.run (GuiDevices.step linux) (.new autoUser serverPassword certPass cfg)
      (before ++ .snapshot first :: after)
    g.Survives linux snap (g.refreshOutputDevices linux snap) ↔ g.MicKept snap ∧ g.RadioKept linux snap := by
  intro g
  have hconsumed : g.outputDevices.head? = some "" := by
    have hrun : g = Runs.run (GuiDevices.step linux)
        ((Runs.run (GuiDevices.step linux) (.new autoUser serverPassword certPass cfg) before).refreshOutputDevices
          linux first) after := Runs.run_append _ _ _
    rw [hrun]
    exact Runs.run_inv (P := fun g : GuiDevices => g.outputDevices.head? = some "") (fun _ e h => head?_step linux h e)
      first.default_first after
  exact survives_iff linux hconsumed snap

def headsetOnly : DeviceSnapshot where
  outputNames := [""]
  outputLabels := ["(system default)"]
  inputNames := ["headset"]
  inputLabels := ["Headset"]
  outputs_labelled := rfl
  inputs_labelled := rfl
  default_first := rfl

def noInputs : DeviceSnapshot where
  outputNames := [""]
  outputLabels := ["(system default)"]
  inputNames := []
  inputLabels := []
  outputs_labelled := rfl
  inputs_labelled := rfl
  default_first := rfl

/-- The headset is configured and there; the user picks the system default; the inputs go away and come back. -/
theorem mic_pick_undone :
    let g := Runs.run (GuiDevices.step true) (.new none "" "" { PluginConfig.default with micDevice := "headset" })
      ([] ++ .snapshot headsetOnly :: [.pickMic 0, .snapshot noInputs])
    g.micInput = none ∧ (g.refreshOutputDevices true headsetOnly).micInput = some "headset" ∧
      ¬g.Survives true headsetOnly (g.refreshOutputDevices true headsetOnly) := by
  intro g
  have hbefore : g.micInput = none := by decide
  have hafter : (g.refreshOutputDevices true headsetOnly).micInput = some "headset" := by decide
  refine ⟨hbefore, hafter, ?_⟩
  rintro ⟨-, -, hmic, -⟩
  rw [hbefore, hafter] at hmic
  cases hmic

/-! ## Saving -/

/-- the snapshots among the events -/
def snapshotsOf (es : List DeviceEvent) : List DeviceSnapshot :=
  es.filterMap fun
    | .snapshot snap => some snap
    | _ => none

/-- the live input list after the snapshots -/
def liveInputs (snaps : List DeviceSnapshot) : List String := (snaps.getLast?.map DeviceSnapshot.inputNames).getD []

/-- the name is the default, or every snapshot had it, and there was one -/
def OutputKept (name : String) (snaps : List DeviceSnapshot) : Prop :=
  name = "" ∨ snaps ≠ [] ∧ ∀ snap ∈ snaps, name ∈ snap.outputNames

/-- the name is the default, or some last snapshots all had it, the first of them over an empty live list -/
def InputKept (name : String) (snaps : List DeviceSnapshot) : Prop :=
  name = "" ∨ ∃ earlier later, snaps = earlier ++ later ∧ later ≠ [] ∧ liveInputs earlier = [] ∧
    ∀ snap ∈ later, name ∈ snap.inputNames

/-- on Linux the auto-sink needs no device, only a first snapshot -/
def RadioSourceKept (linux : Bool) (name : String) (snaps : List DeviceSnapshot) : Prop :=
  if linux = true ∧ name = radioAutoSink then snaps ≠ [] else InputKept name snaps

theorem outputKept_snoc (name : String) (snaps : List DeviceSnapshot) (snap : DeviceSnapshot) :
    OutputKept name (snaps ++ [snap]) ↔
      name = "" ∨ name ∈ snap.outputNames ∧ (snaps = [] ∨ OutputKept name snaps) := by
  unfold OutputKept
  by_cases hname : name = ""
  · simp [hname]
  · cases snaps with
    | nil => simp [hname]
    | cons s snaps =>
      simp only [hname, false_or, List.append_eq_nil_iff, List.mem_append, List.mem_singleton, ne_eq, reduceCtorEq,
        false_and, not_false_eq_true, true_and]
      refine ⟨?_, ?_⟩
      · exact fun h => ⟨h snap (Or.inr rfl), fun s' hs' => h s' (Or.inl hs')⟩
      · intro ⟨hlast, hall⟩ s' hs'
        rcases hs' with hs' | rfl
        · exact hall s' hs'
        · exact hlast

theorem inputKept_snoc (name : String) (snaps : List DeviceSnapshot) (snap : DeviceSnapshot) :
    InputKept name (snaps ++ [snap]) ↔
      name = "" ∨ name ∈ snap.inputNames ∧ (liveInputs snaps = [] ∨ InputKept name snaps) := by
  refine ⟨?_, ?_⟩
  · intro h
    rcases h with h | ⟨earlier, later, hsplit, hne, hlive, hall⟩
    · exact Or.inl h
    · obtain ⟨later, last, rfl⟩ := (List.eq_nil_or_concat' later).resolve_left hne
      rw [← List.append_assoc] at hsplit
      obtain ⟨hsnaps, hlast⟩ := List.append_inj' hsplit rfl
      cases hlast
      refine Or.inr ⟨hall snap (by simp), ?_⟩
      by_cases hnil : later = []
      · rw [hsnaps, hnil, List.append_nil]
        exact Or.inl hlive
      · exact Or.inr (Or.inr ⟨earlier, later, hsnaps, hnil, hlive, fun s hs => hall s (by simp [hs])⟩)
  · intro h
    rcases h with h | ⟨hmem, h | h | ⟨earlier, later, rfl, hne, hlive, hall⟩⟩
    · exact Or.inl h
    · exact Or.inr ⟨snaps, [snap], rfl, by simp, h, by simpa using hmem⟩
    · exact Or.inl h
    · refine Or.inr ⟨earlier, later ++ [snap], by simp, by simp, hlive, ?_⟩
      intro s hs
      rcases List.mem_append.1 hs with hs | hs
      · exact hall s hs
      · rw [List.mem_singleton.1 hs]
        exact hmem

theorem liveInputs_snoc (snaps : List DeviceSnapshot) (snap : DeviceSnapshot) :
    liveInputs (snaps ++ [snap]) = snap.inputNames := by
  simp [liveInputs]

/-- A selection without picks: the configured name as long as it is kept, then the default for good. -/
def Remembers (value name : String) (kept : Prop) : Prop := (kept → value = name) ∧ (¬kept → value = "")

theorem Remembers.eq_iff {value name : String} {kept : Prop} (h : Remembers value name kept)
    (hdefault : name = "" → kept) : value = name ↔ kept := by
  refine ⟨?_, h.1⟩
  intro hvalue
  by_contra hkept
  exact hkept (hdefault (hvalue.symm.trans (h.2 hkept)))

/-- A snapshot looks for the configured name if the live list is empty, for the selection's own name otherwise. -/
theorem Remembers.refresh {value name : String} {kept kept' : Prop} (h : Remembers value name kept)
    (names : List String) (empty : Bool) (hkept : kept' ↔ name = "" ∨ name ∈ names ∧ (empty = true ∨ kept))
    {value' : String} (hvalue : value' =
      if (if empty then name else value) ∈ names then (if empty then name else value) else "") :
    Remembers value' name kept' := by
  by_cases hlive : empty = true ∨ kept
  · have hcur : (if empty then name else value) = name := by
      rcases hlive with rfl | hold
      · rfl
      · rw [h.1 hold, ite_self]
    rw [hcur] at hvalue
    rw [and_iff_left hlive] at hkept
    rw [Remembers, hkept]
    by_cases hmem : name ∈ names
    · rw [if_pos hmem] at hvalue
      exact ⟨fun _ => hvalue, fun hnot => absurd (Or.inr hmem) hnot⟩
    · rw [if_neg hmem] at hvalue
      exact ⟨fun hkeep => hvalue.trans (hkeep.resolve_right hmem).symm, fun _ => hvalue⟩
  · -- the selection is the default already, and nothing looks for the configured name again
    obtain ⟨hempty, hold⟩ := not_or.1 hlive
    have hgone : value' = "" := by rw [hvalue, if_neg hempty, h.2 hold, ite_self]
    refine ⟨?_, fun _ => hgone⟩
    intro hkeep
    rcases hkept.1 hkeep with hname | ⟨-, hagain⟩
    · exact hgone.trans hname.symm
    · exact absurd hagain hlive

/-- the selection after the snapshots: the configured names, and the last lists -/
structure Remembering (linux : Bool) (cfg : PluginConfig) (snaps : List DeviceSnapshot) (g : GuiDevices) : Prop where
  initialAmbient : g.initialAmbientDevice = cfg.ambientDevice
  initialIc : g.initialIcDevice = cfg.icDevice
  initialMic : g.initialMicDevice = cfg.micDevice
  initialRadio : g.initialRadioSource = cfg.radioSource
  outputs : g.outputDevices.isEmpty = snaps.isEmpty
  mics : g.micInputDevices = liveInputs snaps
  radios : g.radioInputDevices = liveInputs snaps
  ambient : Remembers (g.ambientOutput.getD "") cfg.ambientDevice (OutputKept cfg.ambientDevice snaps)
  ic : Remembers (g.icOutput.getD "") cfg.icDevice (OutputKept cfg.icDevice snaps)
  mic : Remembers (g.micInput.getD "") cfg.micDevice (InputKept cfg.micDevice snaps)
  radio : Remembers (g.radioSourceStr linux) cfg.radioSource (RadioSourceKept linux cfg.radioSource snaps)

section

variable {linux : Bool} {cfg : PluginConfig} {snaps : List DeviceSnapshot} {g : GuiDevices}

theorem outputKept_nil (name : String) : OutputKept name [] ↔ name = "" := by
  simp [OutputKept]

theorem inputKept_nil (name : String) : InputKept name [] ↔ name = "" := by
  simp [InputKept]

theorem radioSourceKept_nil (name : String) : RadioSourceKept linux name [] ↔ name = "" := by
  unfold RadioSourceKept
  split_ifs with hauto
  · simp [hauto.2, radioAutoSink_ne]
  · exact inputKept_nil name

/-- nothing is selected before the first snapshot -/
theorem remembers_blank {name : String} {kept : Prop} (hkept : kept ↔ name = "") : Remembers "" name kept :=
  ⟨fun h => (hkept.1 h).symm, fun _ => rfl⟩

theorem remembering_new (linux : Bool) (autoUser : Option String) (serverPassword certPass : String)
    (cfg : PluginConfig) : Remembering linux cfg [] (.new autoUser serverPassword certPass cfg) where
  initialAmbient := rfl
  initialIc := rfl
  initialMic := rfl
  initialRadio := rfl
  outputs := rfl
  mics := rfl
  radios := rfl
  ambient := remembers_blank (outputKept_nil _)
  ic := remembers_blank (outputKept_nil _)
  mic := remembers_blank (inputKept_nil _)
  radio := remembers_blank (radioSourceKept_nil _)

theorem output_getD {names : List String} (wanted : Option String) :
    ((wanted.filter fun name => name ∈ names).filter fun name => name ≠ "").getD "" =
      if wanted.getD "" ∈ names then wanted.getD "" else "" := by
  cases wanted with
  | none => simp
  | some name =>
    by_cases hmem : name ∈ names
    · by_cases hname : name = ""
      · rw [hname] at hmem ⊢
        simp [Option.filter, hmem]
      · simp [Option.filter, hmem, hname]
    · simp [Option.filter, hmem]

/-- an output after a further snapshot, `wanted` being what the refresh looks for -/
theorem Remembers.output {value name : String} (h : Remembers value name (OutputKept name snaps))
    (snap : DeviceSnapshot) {wanted : Option String}
    (hwanted : wanted.getD "" = if snaps.isEmpty then name else value) :
    Remembers (((wanted.filter fun name => name ∈ snap.outputNames).filter fun name => name ≠ "").getD "") name
      (OutputKept name (snaps ++ [snap])) := by
  refine h.refresh snap.outputNames snaps.isEmpty ?_ ?_
  · rw [outputKept_snoc, List.isEmpty_iff]
  · rw [output_getD, hwanted]

theorem Remembering.ambient_refresh (h : Remembering linux cfg snaps g) (snap : DeviceSnapshot) :
    Remembers ((g.refreshOutputDevices linux snap).ambientOutput.getD "") cfg.ambientDevice
      (OutputKept cfg.ambientDevice (snaps ++ [snap])) := by
  rw [ambientOutput_refresh]
  apply h.ambient.output snap
  rw [wantedAmbient, h.outputs, h.initialAmbient]
  split_ifs <;> rfl

theorem Remembering.ic_refresh (h : Remembering linux cfg snaps g) (snap : DeviceSnapshot) :
    Remembers ((g.refreshOutputDevices linux snap).icOutput.getD "") cfg.icDevice
      (OutputKept cfg.icDevice (snaps ++ [snap])) := by
  rw [icOutput_refresh]
  apply h.ic.output snap
  rw [wantedIc, h.outputs, h.initialIc]
  split_ifs <;> rfl

theorem Remembering.mic_refresh (h : Remembering linux cfg snaps g) (snap : DeviceSnapshot) :
    Remembers ((g.refreshOutputDevices linux snap).micInput.getD "") cfg.micDevice
      (InputKept cfg.micDevice (snaps ++ [snap])) := by
  refine h.mic.refresh snap.inputNames (liveInputs snaps).isEmpty ?_ ?_
  · rw [inputKept_snoc, List.isEmpty_iff]
  · have hcur : g.currentMic = if (liveInputs snaps).isEmpty then cfg.micDevice else g.micInput.getD "" := by
      rw [currentMic, h.mics, h.initialMic]
    rw [micInput_refresh, ← hcur]
    by_cases hname : g.currentMic = ""
    · simp [hname]
    · by_cases hmem : g.currentMic ∈ snap.inputNames <;> simp [hname, hmem]

theorem configName_radioOf (names : List String) {name : String} (h : ¬(linux = true ∧ name = radioAutoSink)) :
    (radioOf linux names name).configName = if name ∈ names then name else "" := by
  unfold radioOf
  split_ifs with hname hmem
  · exact hname.symm
  · rfl
  · rfl
  · rfl

theorem Remembering.radio_refresh (h : Remembering linux cfg snaps g) (snap : DeviceSnapshot) :
    Remembers ((g.refreshOutputDevices linux snap).radioSourceStr linux) cfg.radioSource
      (RadioSourceKept linux cfg.radioSource (snaps ++ [snap])) := by
  have hcur : g.currentRadio linux =
      if (liveInputs snaps).isEmpty then cfg.radioSource else g.radioSourceStr linux := by
    rw [currentRadio, h.radios, h.initialRadio]
  rw [radioSourceStr_eq, radioParams_refresh]
  have hradio := h.radio
  unfold RadioSourceKept at hradio ⊢
  by_cases hauto : linux = true ∧ cfg.radioSource = radioAutoSink
  · -- the auto-sink is looked for until it is selected, and stays selected
    rw [if_pos hauto] at hradio ⊢
    have hsink : g.currentRadio linux = radioAutoSink := by
      rw [hcur]
      split_ifs with hempty
      · exact hauto.2
      · have hsome : snaps ≠ [] := by
          intro hnil
          rw [hnil] at hempty
          exact hempty rfl
        exact (hradio.1 hsome).trans hauto.2
    rw [hsink, hauto.1]
    exact ⟨fun _ => hauto.2.symm, fun hnot => absurd (by simp) hnot⟩
  · rw [if_neg hauto] at hradio ⊢
    have hplain : ¬(linux = true ∧ g.currentRadio linux = radioAutoSink) := by
      intro ⟨hlinux, hsink⟩
      rw [hcur] at hsink
      split_ifs at hsink
      · exact hauto ⟨hlinux, hsink⟩
      · by_cases hkept : InputKept cfg.radioSource snaps
        · exact hauto ⟨hlinux, (hradio.1 hkept).symm.trans hsink⟩
        · exact radioAutoSink_ne (hsink.symm.trans (hradio.2 hkept))
    refine hradio.refresh snap.inputNames (liveInputs snaps).isEmpty ?_ ?_
    · rw [inputKept_snoc, List.isEmpty_iff]
    · rw [configName_radioOf _ hplain, hcur]

theorem Remembering.step (h : Remembering linux cfg snaps g) {e : DeviceEvent} (hquiet : ¬e.IsPick) :
    Remembering linux cfg (snaps ++ snapshotsOf [e]) (g.step linux e) := by
  cases e with
  | snapshot snap =>
    exact
      { initialAmbient := h.initialAmbient
        initialIc := h.initialIc
        initialMic := h.initialMic
        initialRadio := h.initialRadio
        outputs := by
          have hsome : (snaps ++ [snap]).isEmpty = false := by simp
          exact (isEmpty_of_head? snap.default_first).trans hsome.symm
        mics := (liveInputs_snoc snaps snap).symm
        radios := (liveInputs_snoc snaps snap).symm
        ambient := h.ambient_refresh snap
        ic := h.ic_refresh snap
        mic := h.mic_refresh snap
        radio := h.radio_refresh snap }
  | edit fields audio =>
    have hsame : snaps ++ snapshotsOf [.edit fields audio] = snaps := List.append_nil snaps
    rw [hsame]
    exact { h with }
  | setLogLevel level =>
    have hsame : snaps ++ snapshotsOf [.setLogLevel level] = snaps := List.append_nil snaps
    rw [hsame]
    exact { h with }
  | pickAmbient i => exact absurd trivial hquiet
  | pickIc i => exact absurd trivial hquiet
  | pickMic i => exact absurd trivial hquiet
  | pickRadio i => exact absurd trivial hquiet

theorem Remembering.run (h : Remembering linux cfg snaps g) {es : List DeviceEvent} (hquiet : ∀ e ∈ es, ¬e.IsPick) :
    Remembering linux cfg (snaps ++ snapshotsOf es) (Runs.run (GuiDevices.step linux) g es) := by
  induction es generalizing snaps g with
  | nil =>
    have hsame : snaps ++ snapshotsOf [] = snaps := List.append_nil snaps
    rw [hsame]
    exact h
  | cons e es ih =>
    have hstep := h.step (hquiet e List.mem_cons_self)
    have hsplit : snapshotsOf (e :: es) = snapshotsOf [e] ++ snapshotsOf es := List.filterMap_append (l := [e])
    rw [hsplit, ← List.append_assoc]
    exact ih hstep fun e' he' => hquiet e' (List.mem_cons_of_mem e he')

/-- what is written to the file is what is selected -/
theorem saveConfig_eq (linux : Bool) (g : GuiDevices) :
    (g.saveConfig linux).ambientDevice = g.ambientOutput.getD "" ∧ (g.saveConfig linux).icDevice = g.icOutput.getD "" ∧
      (g.saveConfig linux).micDevice = g.micInput.getD "" := by
  have hout (i : ℕ) : g.outputDevices[i]?.getD "" = (g.outputDeviceAt i).getD "" := by
    unfold outputDeviceAt
    cases g.outputDevices[i]? with
    | none => rfl
    | some name => by_cases hname : name = "" <;> simp [Option.filter, hname]
  refine ⟨hout _, hout _, ?_⟩
  unfold saveConfig micInput
  cases g.selectedMic <;> rfl

end

theorem inputKept_of_blank {name : String} (h : name = "") (snaps : List DeviceSnapshot) : InputKept name snaps :=
  Or.inl h

theorem radioSourceKept_of_blank (linux : Bool) {name : String} (h : name = "") (snaps : List DeviceSnapshot) :
    RadioSourceKept linux name snaps := by
  unfold RadioSourceKept
  rw [if_neg fun hauto => radioAutoSink_ne (hauto.2.symm.trans h)]
  exact inputKept_of_blank h snaps

/-- Saving. Without picks, the loaded names are written back if and only if each of them is kept. -/
theorem saved_selection_iff (linux : Bool) (autoUser : Option String) (serverPassword certPass : String)
    (cfg : PluginConfig) (es : List DeviceEvent) (hquiet : ∀ e ∈ es, ¬e.IsPick) :
    let saved := (Runs.run (GuiDevices.step linux) (.new autoUser serverPassword certPass cfg) es).saveConfig linux
    saved.ambientDevice = cfg.ambientDevice ∧ saved.icDevice = cfg.icDevice ∧ saved.micDevice = cfg.micDevice ∧
        saved.radioSource = cfg.radioSource ↔
      OutputKept cfg.ambientDevice (snapshotsOf es) ∧ OutputKept cfg.icDevice (snapshotsOf es) ∧
        InputKept cfg.micDevice (snapshotsOf es) ∧ RadioSourceKept linux cfg.radioSource (snapshotsOf es) := by
  intro saved
  have h := (remembering_new linux autoUser serverPassword certPass cfg).run hquiet
  rw [List.nil_append] at h
  obtain ⟨hambient, hic, hmic⟩ := saveConfig_eq linux
    (Runs.run (GuiDevices.step linux) (.new autoUser serverPassword certPass cfg) es)
  rw [hambient, hic, hmic]
  refine and_congr (h.ambient.eq_iff Or.inl) (and_congr (h.ic.eq_iff Or.inl) (and_congr (h.mic.eq_iff Or.inl) ?_))
  exact h.radio.eq_iff fun hblank => radioSourceKept_of_blank linux hblank _

theorem saved_selection_iff_one :
    (∀ e ∈ [DeviceEvent.snapshot headsetOnly], ¬e.IsPick) ∧
      ((Runs.run (GuiDevices.step true) (.new none "" "" { PluginConfig.default with micDevice := "headset" })
        [.snapshot headsetOnly]).saveConfig true).micDevice = "headset" := by
  have hquiet : ∀ e ∈ [DeviceEvent.snapshot headsetOnly], ¬e.IsPick := by
    intro e he
    rw [List.mem_singleton.1 he]
    exact id
  have h := saved_selection_iff true none "" "" { PluginConfig.default with micDevice := "headset" }
    [.snapshot headsetOnly] hquiet
  have hmic : InputKept "headset" [headsetOnly] :=
    Or.inr ⟨[], [headsetOnly], rfl, List.cons_ne_nil _ _, rfl, by simp [headsetOnly]⟩
  have hradio : RadioSourceKept true "" [headsetOnly] := radioSourceKept_of_blank true rfl _
  exact ⟨hquiet, (h.2 ⟨Or.inl rfl, Or.inl rfl, hmic, hradio⟩).2.2.1⟩

/-- the plugin is disabled before the first snapshot -/
theorem mic_lost_before_first_snapshot :
    ((Runs.run (GuiDevices.step true) (.new none "" "" { PluginConfig.default with micDevice := "headset" })
      []).saveConfig true).micDevice ≠ "headset" := by
  decide

end MumbledFlight

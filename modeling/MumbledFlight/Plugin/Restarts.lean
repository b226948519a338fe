/-
The settings over restarts of the simulator: `XPluginEnable` loads the configuration, the session changes and saves it,
`XPluginDisable` saves it for the last time. A selection that a session loses is saved as lost, and an automatic user
name is saved like a configured one; the next session cannot tell.

The file is what it is read as, if it can be read. What was saved is read back as it was; a save that fails leaves
anything. Saves during a session may fail, the last one of each session succeeds.

Results, for every file and every number of sessions:
- `devices_across_restarts`: without a pick, each configured device is kept exactly if every session kept it, and is the
  default for good otherwise.
- `settings_across_restarts`: without an edit the other settings stay, the log level in its canonical spelling; and the
  user name is the first one that was configured or automatic.
-/
import MumbledFlight.Plugin.Devices

namespace MumbledFlight

/-! ## Sessions -/

/-- `PluginConfig::load` -/
def PluginConfig.load (file : Option PluginConfig) : PluginConfig := file.getD .default

inductive SaveOutcome where
  | done
  /-- and what the file is read as then -/
  | failed (left : Option PluginConfig)

def PluginConfig.save (cfg : PluginConfig) : SaveOutcome → Option PluginConfig
  | .done => some cfg
  | .failed left => left

inductive SessionEvent where
  | device (e : DeviceEvent)
  /-- `save_config`, on connecting or for a new log level -/
  | save (outcome : SaveOutcome)

/-- from `XPluginEnable` to `XPluginDisable` -/
structure PluginSession where
  autoUser : Option String
  /-- the two secrets, as they are loaded -/
  serverPassword : String
  certPass : String
  events : List SessionEvent

section

variable (linux : Bool)

def sessionStep (s : GuiDevices × Option PluginConfig) : SessionEvent → GuiDevices × Option PluginConfig
  | .device e => (s.1.step linux e, s.2)
  | .save outcome => (s.1, (s.1.saveConfig linux).save outcome)

/-- what a session makes of the file -/
def restart (file : Option PluginConfig) (s : PluginSession) : Option PluginConfig :=
  let start := GuiDevices.new s.autoUser s.serverPassword s.certPass (.load file)
  let last := Runs.run (sessionStep linux) (start, file) s.events
  (last.1.saveConfig linux).save .done

end

namespace PluginSession

def deviceEvents (s : PluginSession) : List DeviceEvent :=
  s.events.filterMap fun
    | .device e => some e
    | .save _ => none

def snapshots (s : PluginSession) : List DeviceSnapshot := snapshotsOf s.deviceEvents

/-- nothing is picked -/
def Quiet (s : PluginSession) : Prop := ∀ e ∈ s.deviceEvents, ¬e.IsPick

end PluginSession

/-- a field or the log level is edited -/
def DeviceEvent.IsEdit : DeviceEvent → Prop
  | .edit _ _ => True
  | .setLogLevel _ => True
  | _ => False

def PluginSession.Untouched (s : PluginSession) : Prop := ∀ e ∈ s.deviceEvents, ¬e.IsEdit

/-- the GUI when the plugin is disabled -/
def PluginSession.last (linux : Bool) (s : PluginSession) (cfg : PluginConfig) : GuiDevices :=
  Runs.run (GuiDevices.step linux) (.new s.autoUser s.serverPassword s.certPass cfg) s.deviceEvents

variable {linux : Bool}

theorem run_sessionStep (s : GuiDevices × Option PluginConfig) (es : List SessionEvent) :
    (Runs.run (sessionStep linux) s es).1 = Runs.run (GuiDevices.step linux) s.1
      (es.filterMap fun
        | .device e => some e
        | .save _ => none) := by
  induction es generalizing s with
  | nil => rfl
  | cons e es ih =>
    rw [Runs.run_cons, ih]
    cases e <;> rfl

/-- the saves in between do not matter -/
theorem load_restart (file : Option PluginConfig) (s : PluginSession) :
    PluginConfig.load (restart linux file s) = (s.last linux (.load file)).saveConfig linux := by
  unfold restart
  dsimp only
  rw [run_sessionStep]
  rfl

/-! ## Devices -/

inductive DeviceSetting where
  | ambient
  | ic
  | mic
  | radio

def PluginConfig.device (cfg : PluginConfig) : DeviceSetting → String
  | .ambient => cfg.ambientDevice
  | .ic => cfg.icDevice
  | .mic => cfg.micDevice
  | .radio => cfg.radioSource

/-- what keeps the name of a device in a session -/
def DeviceSetting.Kept (linux : Bool) (name : String) (snaps : List DeviceSnapshot) : DeviceSetting → Prop
  | .ambient | .ic => OutputKept name snaps
  | .mic => InputKept name snaps
  | .radio => RadioSourceKept linux name snaps

theorem kept_of_blank {name : String} (h : name = "") (setting : DeviceSetting) (snaps : List DeviceSnapshot) :
    setting.Kept linux name snaps := by
  cases setting with
  | ambient => exact Or.inl h
  | ic => exact Or.inl h
  | mic => exact inputKept_of_blank h snaps
  | radio => exact radioSourceKept_of_blank linux h snaps

/-- one session -/
theorem remembers_session {s : PluginSession} (h : s.Quiet) (cfg : PluginConfig) (setting : DeviceSetting) :
    Remembers (((s.last linux cfg).saveConfig linux).device setting) (cfg.device setting)
      (setting.Kept linux (cfg.device setting) s.snapshots) := by
  have hrun := (remembering_new linux s.autoUser s.serverPassword s.certPass cfg).run h
  rw [List.nil_append] at hrun
  obtain ⟨hambient, hic, hmic⟩ := saveConfig_eq linux (s.last linux cfg)
  cases setting with
  | ambient =>
    change Remembers ((s.last linux cfg).saveConfig linux).ambientDevice _ _
    rw [hambient]
    exact hrun.ambient
  | ic =>
    change Remembers ((s.last linux cfg).saveConfig linux).icDevice _ _
    rw [hic]
    exact hrun.ic
  | mic =>
    change Remembers ((s.last linux cfg).saveConfig linux).micDevice _ _
    rw [hmic]
    exact hrun.mic
  | radio => exact hrun.radio

/-- what is lost once has nothing left to be kept -/
theorem Remembers.trans {first value value' : String} {keptBefore : Prop} (kept : String → Prop)
    (hbefore : Remembers value first keptBefore) (h : Remembers value' value (kept value)) (hblank : kept "") :
    Remembers value' first (keptBefore ∧ kept first) := by
  by_cases hkept : keptBefore
  · obtain rfl := hbefore.1 hkept
    rw [Remembers, and_iff_right hkept]
    exact h
  · have hlost := hbefore.2 hkept
    rw [hlost] at h
    refine ⟨fun hall => absurd hall.1 hkept, fun _ => h.1 hblank⟩

/-- Devices. Over any number of sessions without picks, each device that the file configured is still the configured one
if every session kept it, and the default if one did not, whatever the later sessions find. -/
theorem devices_across_restarts (linux : Bool) (file : Option PluginConfig) {ss : List PluginSession}
    (hquiet : ∀ s ∈ ss, s.Quiet) (setting : DeviceSetting) :
    let first := (PluginConfig.load file).device setting
    Remembers ((PluginConfig.load (Runs.run (restart linux) file ss)).device setting) first
      (∀ s ∈ ss, setting.Kept linux first s.snapshots) := by
  intro first
  induction ss using List.reverseRecOn with
  | nil => exact ⟨fun _ => rfl, fun hnot => absurd (fun _ hs => absurd hs List.not_mem_nil) hnot⟩
  | append_singleton ss s ih =>
    obtain ⟨hbefore, hs⟩ := List.forall_mem_append.1 hquiet
    rw [Runs.run_snoc, load_restart, List.forall_mem_append, List.forall_mem_singleton]
    exact (ih hbefore).trans (fun name => setting.Kept linux name s.snapshots)
      (remembers_session (List.forall_mem_singleton.1 hs) _ setting) (kept_of_blank rfl setting _)

/-- a session with the headset, one without it, and one with it again -/
theorem devices_across_restarts_headset :
    let file := some { PluginConfig.default with micDevice := "headset" }
    let session (snap : DeviceSnapshot) : PluginSession := ⟨none, "", "", [.device (.snapshot snap)]⟩
    (PluginConfig.load (Runs.run (restart true) file [session headsetOnly, session noInputs,
      session headsetOnly])).micDevice = "" := by
  intro file session
  have hquiet : ∀ s ∈ [session headsetOnly, session noInputs, session headsetOnly], s.Quiet := by
    intro s hs e he
    simp only [List.mem_cons, List.not_mem_nil, or_false] at hs
    rcases hs with rfl | rfl | rfl <;> rw [List.mem_singleton.1 he] <;> exact id
  refine (devices_across_restarts true file hquiet .mic).2 fun hkept => ?_
  rcases hkept (session noInputs) (by simp) with hblank | ⟨earlier, later, hsplit, hne, -, hall⟩
  · exact absurd hblank (by decide)
  · obtain ⟨snap, hsnap⟩ := List.exists_mem_of_ne_nil later hne
    have hmem : snap ∈ (session noInputs).snapshots := hsplit ▸ List.mem_append_right earlier hsnap
    have hinputs := hall snap hsnap
    rw [List.mem_singleton.1 hmem] at hinputs
    exact absurd hinputs List.not_mem_nil

/-! ## The other settings -/

theorem LevelFilter.toLower_toConfig (level : LevelFilter) : level.toConfig.toLower = level.toConfig := by
  rw [← String.toList_inj, String.toLower, String.toList_map]
  cases level <;> decide

/-- a level is loaded as it was saved -/
theorem LevelFilter.ofConfig_toConfig (level : LevelFilter) : ofConfig level.toConfig = level := by
  rw [ofConfig, toLower_toConfig]
  cases level <;> rfl

/-- what no event but an edit touches -/
theorem untouched_run (linux : Bool) {es : List DeviceEvent} (h : ∀ e ∈ es, ¬e.IsEdit) (g : GuiDevices) :
    let g' := Runs.run (GuiDevices.step linux) g es
    g'.fields = g.fields ∧ g'.audio = g.audio ∧ g'.logLevel = g.logLevel := by
  induction es generalizing g with
  | nil => exact ⟨rfl, rfl, rfl⟩
  | cons e es ih =>
    have hstep : (g.step linux e).fields = g.fields ∧ (g.step linux e).audio = g.audio ∧
        (g.step linux e).logLevel = g.logLevel := by
      cases e with
      | snapshot snap => exact ⟨rfl, rfl, rfl⟩
      | edit fields audio => exact absurd trivial (h _ List.mem_cons_self)
      | setLogLevel level => exact absurd trivial (h _ List.mem_cons_self)
      | _ =>
        simp only [GuiDevices.step]
        split_ifs <;> exact ⟨rfl, rfl, rfl⟩
    obtain ⟨hfields, haudio, hlevel⟩ := ih (fun e' he' => h e' (List.mem_cons_of_mem e he')) (g.step linux e)
    exact ⟨hfields.trans hstep.1, haudio.trans hstep.2.1, hlevel.trans hstep.2.2⟩

/-- the first name that is not empty, if there is one -/
def firstName (names : List String) : String := (names.find? fun name => name ≠ "").getD ""

theorem firstName_snoc (names : List String) (name : String) :
    firstName (names ++ [name]) = if (firstName names).isEmpty then name else firstName names := by
  unfold firstName
  rw [List.find?_append]
  cases hfind : names.find? fun name => name ≠ "" with
  | none => by_cases hname : name = "" <;> simp [hname]
  | some found =>
    have hfound : found ≠ "" := by simpa using List.find?_some hfind
    simp [hfound]

/-- the settings but for the devices -/
structure SameSettings (cfg : PluginConfig) (userName logLevel : String) (cfg' : PluginConfig) : Prop where
  server : cfg'.server = cfg.server
  port : cfg'.port = cfg.port
  certPath : cfg'.certPath = cfg.certPath
  serverCa : cfg'.serverCa = cfg.serverCa
  flightId : cfg'.flightId = cfg.flightId
  gain : cfg'.gain = cfg.gain
  ambientVol : cfg'.ambientVol = cfg.ambientVol
  icVol : cfg'.icVol = cfg.icVol
  denoise : cfg'.denoise = cfg.denoise
  spatialWidth : cfg'.spatialWidth = cfg.spatialWidth
  userName : cfg'.userName = userName
  logLevel : cfg'.logLevel = logLevel

/-- one session -/
theorem sameSettings_session (linux : Bool) {s : PluginSession} (h : s.Untouched) {cfg cfg' : PluginConfig}
    {userName logLevel : String} (hcfg : SameSettings cfg userName logLevel cfg') :
    SameSettings cfg (if userName.isEmpty then s.autoUser.getD "" else userName) (LevelFilter.ofConfig logLevel).toConfig
      ((s.last linux cfg').saveConfig linux) := by
  obtain ⟨hfields, haudio, hlevel⟩ := untouched_run linux h (.new s.autoUser s.serverPassword s.certPass cfg')
  exact
    { server := (congrArg Fields.server hfields).trans hcfg.server
      port := (congrArg Fields.port hfields).trans hcfg.port
      certPath := (congrArg Fields.certPath hfields).trans hcfg.certPath
      serverCa := (congrArg Fields.serverCa hfields).trans hcfg.serverCa
      flightId := (congrArg Fields.flightId hfields).trans hcfg.flightId
      gain := (congrArg AudioControls.gain haudio).trans hcfg.gain
      ambientVol := (congrArg AudioControls.ambientVol haudio).trans hcfg.ambientVol
      icVol := (congrArg AudioControls.icVol haudio).trans hcfg.icVol
      denoise := (congrArg AudioControls.denoise haudio).trans hcfg.denoise
      spatialWidth := (congrArg AudioControls.spatialWidth haudio).trans hcfg.spatialWidth
      userName := by
        rw [← hcfg.userName]
        exact congrArg Fields.userName hfields
      logLevel := by
        rw [← hcfg.logLevel]
        exact congrArg LevelFilter.toConfig hlevel }

/-- Settings. Over any number of sessions without edits, whatever is picked, every setting but the devices, the log level
and the user name stays; the log level is spelled canonically from the first session on; and the user name is the first
that is not empty of the configured one and the automatic ones of the sessions, so it never changes once there is one. -/
theorem settings_across_restarts (linux : Bool) (file : Option PluginConfig) {ss : List PluginSession}
    (huntouched : ∀ s ∈ ss, s.Untouched) :
    let cfg := PluginConfig.load file
    SameSettings cfg (firstName (cfg.userName :: ss.map fun s => s.autoUser.getD ""))
      (if ss.isEmpty then cfg.logLevel else (LevelFilter.ofConfig cfg.logLevel).toConfig)
      (PluginConfig.load (Runs.run (restart linux) file ss)) := by
  intro cfg
  induction ss using List.reverseRecOn with
  | nil =>
    have hname : firstName [cfg.userName] = cfg.userName := by
      by_cases hempty : cfg.userName = "" <;> simp [firstName, hempty]
    exact
      { server := rfl, port := rfl, certPath := rfl, serverCa := rfl, flightId := rfl, gain := rfl, ambientVol := rfl
        icVol := rfl, denoise := rfl, spatialWidth := rfl, userName := hname.symm, logLevel := rfl }
  | append_singleton ss s ih =>
    obtain ⟨hbefore, hs⟩ := List.forall_mem_append.1 huntouched
    have hsession := sameSettings_session linux (List.forall_mem_singleton.1 hs) (ih hbefore)
    rw [Runs.run_snoc, load_restart]
    have hnames : firstName (cfg.userName :: (ss ++ [s]).map fun s => s.autoUser.getD "") =
        if (firstName (cfg.userName :: ss.map fun s => s.autoUser.getD "")).isEmpty then s.autoUser.getD ""
        else firstName (cfg.userName :: ss.map fun s => s.autoUser.getD "") := by
      rw [List.map_append, ← List.cons_append]
      exact firstName_snoc _ _
    have hlevel : (if (ss ++ [s]).isEmpty then cfg.logLevel else (LevelFilter.ofConfig cfg.logLevel).toConfig) =
        (LevelFilter.ofConfig (if ss.isEmpty then cfg.logLevel else
          (LevelFilter.ofConfig cfg.logLevel).toConfig)).toConfig := by
      rw [if_neg (by simp)]
      split_ifs
      · rfl
      · rw [LevelFilter.ofConfig_toConfig]
    rw [hnames, hlevel]
    exact hsession

/-- two sessions, in two aircraft that know the user by different names -/
theorem settings_across_restarts_two :
    let session (autoUser : String) : PluginSession := ⟨some autoUser, "", "", [.device (.pickMic 1)]⟩
    (PluginConfig.load (Runs.run (restart true) none [session "Ada", session "Bob"])).userName = "Ada" := by
  intro session
  have huntouched : ∀ s ∈ [session "Ada", session "Bob"], s.Untouched := by
    intro s hs e he
    simp only [List.mem_cons, List.not_mem_nil, or_false] at hs
    rcases hs with rfl | rfl <;> rw [List.mem_singleton.1 he] <;> exact id
  exact (settings_across_restarts true none huntouched).userName

end MumbledFlight

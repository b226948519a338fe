/-
Where the device lists come from, on Linux (`enumerate_pw_devices`, the background thread of `GuiState::new`): the thread
asks PipeWire again and again, on a new connection each time, and leaves what it was told in a slot, from where the
flight loop takes it. An answer that is not taken before the next one is lost.

PipeWire tells a connection of its globals one by one, then answers `sync`; without a connection there is an answer with
no devices. An enumeration that panics leaves nothing.

Results, for every order of answers, refreshes and picks:
- `deviceSnapshot`: the lists are labelled, and the default comes first.
- `devices_in_use`: the devices in use were announced to one and the same enumeration, as what they are used as, and the
  virtual sink is never an output. So a stack never plays into the sink that the radio is captured from.
-/
import MumbledFlight.Audio.VirtualSink
import MumbledFlight.Plugin.Devices

namespace MumbledFlight

/-! ## One enumeration -/

structure PwSinkInfo where
  name : String
  description : String

/-- a node of this class; without a description it is labelled with its name -/
def Global.deviceInfo (mediaClass : String) (global : Global) : Option PwSinkInfo :=
  match global.props with
  | none => none
  | some props =>
    if props.lookup "media.class" = some mediaClass then
      (props.lookup "node.name").map fun name => ⟨name, (props.lookup "node.description").getD name⟩
    else none

/-- sinks and sources -/
structure DeviceLists where
  sinks : List PwSinkInfo
  sources : List PwSinkInfo

/-- the registry listener -/
def DeviceLists.onGlobal (lists : DeviceLists) (global : Global) : DeviceLists :=
  ⟨lists.sinks ++ (global.deviceInfo "Audio/Sink").toList, lists.sources ++ (global.deviceInfo "Audio/Source").toList⟩

/-- until `sync` is answered -/
def DeviceLists.listen (lists : DeviceLists) : List Announcement → Option DeviceLists
  | [] => none
  | .global global :: told => (lists.onGlobal global).listen told
  | .done :: _ => some lists

/-- what a connection is told, if there is one -/
def enumeratePwDevices : Option (List Announcement) → Option DeviceLists
  | none => some ⟨[], []⟩
  | some told => DeviceLists.listen ⟨[], []⟩ told

/-- the virtual sink is not offered as an output -/
def deviceSnapshot (lists : DeviceLists) : DeviceSnapshot :=
  let sinks := lists.sinks.filter fun s => s.name ≠ virtualSinkName
  { outputNames := "" :: sinks.map PwSinkInfo.name
    outputLabels := "(system default)" :: sinks.map PwSinkInfo.description
    inputNames := lists.sources.map PwSinkInfo.name
    inputLabels := lists.sources.map PwSinkInfo.description
    outputs_labelled := by simp
    inputs_labelled := by simp
    default_first := rfl }

/-! ## The thread and the window -/

structure DeviceWorld where
  pendingDevices : Option DeviceSnapshot
  gui : GuiDevices

inductive DeviceWorldEvent where
  /-- an enumeration, with what its connection is told -/
  | enumerated (told : Option (List Announcement))
  /-- the flight loop -/
  | refresh
  /-- a pick or an edit -/
  | user (e : DeviceEvent)

namespace DeviceWorld

def init (autoUser : Option String) (serverPassword certPass : String) (cfg : PluginConfig) : DeviceWorld :=
  ⟨none, .new autoUser serverPassword certPass cfg⟩

def step (w : DeviceWorld) : DeviceWorldEvent → DeviceWorld
  | .enumerated told =>
    match enumeratePwDevices told with
    | some lists => { w with pendingDevices := some (deviceSnapshot lists) }
    | none => w -- it still waits
  | .refresh =>
    match w.pendingDevices with
    | some snap => ⟨none, w.gui.step true (.snapshot snap)⟩
    | none => w
  | .user (.snapshot _) => w -- snapshots come through the slot
  | .user e => { w with gui := w.gui.step true e }

end DeviceWorld

/-- a node of this class and name was among what was told -/
def Announced (told : List Announcement) (mediaClass name : String) : Prop :=
  ∃ global props, .global global ∈ told ∧ global.props = some props ∧
    props.lookup "media.class" = some mediaClass ∧ props.lookup "node.name" = some name

/-- all that is listed was announced as what it is listed as -/
structure Truthful (told : List Announcement) (lists : DeviceLists) : Prop where
  sinks : ∀ info ∈ lists.sinks, Announced told "Audio/Sink" info.name
  sources : ∀ info ∈ lists.sources, Announced told "Audio/Source" info.name

/-- nothing, or what some enumeration of the run was told -/
def ToldIn (es : List DeviceWorldEvent) (told : List Announcement) : Prop := told = [] ∨ .enumerated (some told) ∈ es

/-- the lists of the window are those of an enumeration -/
structure Offers (told : List Announcement) (g : GuiDevices) : Prop where
  outputs : ∀ name ∈ g.outputDevices, name ≠ "" → name ≠ virtualSinkName ∧ Announced told "Audio/Sink" name
  mics : ∀ name ∈ g.micInputDevices, Announced told "Audio/Source" name
  radios : ∀ name ∈ g.radioInputDevices, Announced told "Audio/Source" name

/-- what is in the slot, and what is in the window -/
structure DeviceWorld.Inv (es : List DeviceWorldEvent) (w : DeviceWorld) : Prop where
  pending : ∀ snap, w.pendingDevices = some snap → ∃ told lists, ToldIn es told ∧ Truthful told lists ∧
    snap = deviceSnapshot lists
  offered : ∃ told, ToldIn es told ∧ Offers told w.gui

/-! ## What is listed -/

theorem announced_of_deviceInfo {global : Global} {mediaClass : String} {info : PwSinkInfo}
    (h : global.deviceInfo mediaClass = some info) {told : List Announcement} (hmem : .global global ∈ told) :
    Announced told mediaClass info.name := by
  unfold Global.deviceInfo at h
  split at h
  · cases h
  · next props hprops =>
    split_ifs at h with hclass
    obtain ⟨name, hname, rfl⟩ := Option.map_eq_some_iff.1 h
    exact ⟨global, props, hmem, hprops, hclass, hname⟩

theorem truthful_onGlobal {told : List Announcement} {lists : DeviceLists} (h : Truthful told lists) {global : Global}
    (hmem : .global global ∈ told) : Truthful told (lists.onGlobal global) where
  sinks := by
    intro info hinfo
    rcases List.mem_append.1 hinfo with hold | hnew
    · exact h.sinks info hold
    · exact announced_of_deviceInfo (Option.mem_toList.1 hnew) hmem
  sources := by
    intro info hinfo
    rcases List.mem_append.1 hinfo with hold | hnew
    · exact h.sources info hold
    · exact announced_of_deviceInfo (Option.mem_toList.1 hnew) hmem

theorem truthful_listen {told rest : List Announcement} {lists lists' : DeviceLists} (h : Truthful told lists)
    (hrest : rest ⊆ told) (hlisten : lists.listen rest = some lists') : Truthful told lists' := by
  induction rest generalizing lists with
  | nil => cases hlisten
  | cons a rest ih =>
    obtain ⟨ha, htail⟩ := List.cons_subset.1 hrest
    cases a with
    | global global => exact ih (truthful_onGlobal h ha) htail hlisten
    | done =>
      cases hlisten
      exact h

theorem truthful_nil (told : List Announcement) : Truthful told ⟨[], []⟩ := ⟨nofun, nofun⟩

/-- an enumeration lists what it was told -/
theorem truthful_enumerate {es : List DeviceWorldEvent} {answer : Option (List Announcement)} {lists : DeviceLists}
    (h : enumeratePwDevices answer = some lists) (hmem : .enumerated answer ∈ es) :
    ∃ told, ToldIn es told ∧ Truthful told lists := by
  cases answer with
  | none =>
    cases h
    exact ⟨[], Or.inl rfl, truthful_nil []⟩
  | some told => exact ⟨told, Or.inr hmem, truthful_listen (truthful_nil told) (List.Subset.refl told) h⟩

/-! ## The run -/

/-- the user changes neither the slot nor the lists -/
theorem step_user (w : DeviceWorld) (e : DeviceEvent) :
    let w' := w.step (.user e)
    w'.pendingDevices = w.pendingDevices ∧ w'.gui.outputDevices = w.gui.outputDevices ∧
      w'.gui.micInputDevices = w.gui.micInputDevices ∧ w'.gui.radioInputDevices = w.gui.radioInputDevices := by
  cases e with
  | snapshot snap => exact ⟨rfl, rfl, rfl, rfl⟩
  | edit fields audio => exact ⟨rfl, rfl, rfl, rfl⟩
  | setLogLevel level => exact ⟨rfl, rfl, rfl, rfl⟩
  | _ =>
    simp only [DeviceWorld.step, GuiDevices.step]
    split_ifs <;> exact ⟨trivial, rfl, rfl, rfl⟩

theorem offers_snapshot {told : List Announcement} {lists : DeviceLists} (h : Truthful told lists) (g : GuiDevices) :
    Offers told (g.step true (.snapshot (deviceSnapshot lists))) := by
  have hinputs : ∀ name ∈ lists.sources.map PwSinkInfo.name, Announced told "Audio/Source" name := by
    intro name hname
    obtain ⟨info, hinfo, rfl⟩ := List.mem_map.1 hname
    exact h.sources info hinfo
  refine ⟨?_, hinputs, hinputs⟩
  intro name hname hne
  obtain ⟨info, hinfo, rfl⟩ := List.mem_map.1 ((List.mem_cons.1 hname).resolve_left hne)
  obtain ⟨hinfo, hother⟩ := List.mem_filter.1 hinfo
  exact ⟨by simpa using hother, h.sinks info hinfo⟩

namespace DeviceWorld

theorem inv_init (autoUser : Option String) (serverPassword certPass : String) (cfg : PluginConfig) :
    (init autoUser serverPassword certPass cfg).Inv [] :=
  ⟨nofun, [], Or.inl rfl, nofun, nofun, nofun⟩

theorem Inv.mono {es : List DeviceWorldEvent} {w : DeviceWorld} (h : w.Inv es) (e : DeviceWorldEvent) :
    w.Inv (es ++ [e]) := by
  have htold : ∀ {told}, ToldIn es told → ToldIn (es ++ [e]) told := fun h =>
    h.imp_right (List.mem_append_left _)
  refine ⟨?_, ?_⟩
  · intro snap hsnap
    obtain ⟨told, lists, hin, hrest⟩ := h.pending snap hsnap
    exact ⟨told, lists, htold hin, hrest⟩
  · obtain ⟨told, hin, hoffers⟩ := h.offered
    exact ⟨told, htold hin, hoffers⟩

theorem inv_step {es : List DeviceWorldEvent} {w : DeviceWorld} (h : w.Inv es) (e : DeviceWorldEvent) :
    (w.step e).Inv (es ++ [e]) := by
  have hmono := h.mono e
  cases e with
  | enumerated answer =>
    cases hlists : enumeratePwDevices answer with
    | none =>
      simp only [step, hlists]
      exact hmono
    | some lists =>
      obtain ⟨told, hin, htruthful⟩ :=
        truthful_enumerate hlists (List.mem_append_right es List.mem_cons_self)
      simp only [step, hlists]
      refine ⟨?_, hmono.offered⟩
      intro snap hsnap
      exact ⟨told, lists, hin, htruthful, (Option.some.inj hsnap).symm⟩
  | refresh =>
    cases hpending : w.pendingDevices with
    | none =>
      simp only [step, hpending]
      exact hmono
    | some snap =>
      obtain ⟨told, lists, hin, htruthful, rfl⟩ := hmono.pending snap hpending
      simp only [step, hpending]
      exact ⟨nofun, told, hin, offers_snapshot htruthful w.gui⟩
  | user e =>
    obtain ⟨hpending, houtputs, hmics, hradios⟩ := step_user w e
    obtain ⟨told, hin, hoffers⟩ := hmono.offered
    refine ⟨?_, told, hin, ?_, ?_, ?_⟩
    · rw [hpending]
      exact hmono.pending
    · rw [houtputs]
      exact hoffers.outputs
    · rw [hmics]
      exact hoffers.mics
    · rw [hradios]
      exact hoffers.radios

theorem inv_run (autoUser : Option String) (serverPassword certPass : String) (cfg : PluginConfig)
    (es : List DeviceWorldEvent) : (Runs.run step (init autoUser serverPassword certPass cfg) es).Inv es := by
  induction es using List.reverseRecOn with
  | nil => exact inv_init autoUser serverPassword certPass cfg
  | append_singleton es e ih =>
    rw [Runs.run_snoc]
    exact inv_step ih e

end DeviceWorld

/-! ## What is in use -/

section

variable {told : List Announcement} {g : GuiDevices}

theorem Offers.output (h : Offers told g) {i : ℕ} {name : String} (hname : g.outputDeviceAt i = some name) :
    name ≠ virtualSinkName ∧ Announced told "Audio/Sink" name := by
  obtain ⟨hget, hne⟩ := Option.filter_eq_some_iff.1 hname
  exact h.outputs name (List.mem_of_getElem? hget) (by simpa using hne)

theorem Offers.mic (h : Offers told g) {name : String} (hname : g.micInput = some name) :
    Announced told "Audio/Source" name := by
  unfold GuiDevices.micInput at hname
  split at hname
  · cases hname
  · exact h.mics name (List.mem_of_getElem? hname)

theorem Offers.radio (h : Offers told g) {name : String} (hname : g.radioParams true = .device name) :
    Announced told "Audio/Source" name := by
  unfold GuiDevices.radioParams at hname
  split_ifs at hname
  split at hname
  · next hget =>
    cases hname
    exact h.radios name (List.mem_of_getElem? hget)
  · cases hname

end

/-- Devices in use. In every run there is one enumeration to which every device in use was announced, an output as a
sink, the microphone and the radio's device as a source, with nothing in use before the first. And whatever is
configured or picked, no output is the virtual sink of the radio. -/
theorem devices_in_use (autoUser : Option String) (serverPassword certPass : String) (cfg : PluginConfig)
    (es : List DeviceWorldEvent) :
    let g := (Runs.run DeviceWorld.step (.init autoUser serverPassword certPass cfg) es).gui
    ∃ told, ToldIn es told ∧
      (∀ name, g.ambientOutput = some name ∨ g.icOutput = some name →
        name ≠ virtualSinkName ∧ Announced told "Audio/Sink" name) ∧
      (∀ name, g.micInput = some name → Announced told "Audio/Source" name) ∧
      ∀ name, g.radioParams true = .device name → Announced told "Audio/Source" name := by
  intro g
  obtain ⟨told, hin, hoffers⟩ := (DeviceWorld.inv_run autoUser serverPassword certPass cfg es).offered
  refine ⟨told, hin, ?_, fun _ => hoffers.mic, fun _ => hoffers.radio⟩
  rintro name (hambient | hic)
  · exact hoffers.output hambient
  · exact hoffers.output hic

end MumbledFlight

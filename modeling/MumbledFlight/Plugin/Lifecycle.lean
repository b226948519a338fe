/-
The life of a connection (`connection.rs`, `lib.rs`): the plugin is enabled and disabled, the window sets the sliders and
asks to connect, the flight loop polls the simulator, starts a stack and stops it.

Every stack that was ever started is kept, with the atomics it shares with the window and its `shutdown` flag. A handle is
the stack's number. Dropping a `MumbleConnection` sets the flag of its stack; an assignment to the field that holds it
drops the one it held. The audio threads of a stack run until they see the flag.

Results, for every run, with any edits, clicks, probes, answers of the system, and with the plugin enabled and disabled at
any time:
- `stack_lifecycle`: only the connected stack runs, so at most one; the window and the poll agree on which; the sliders
  are what its threads read, bit by bit; and a stack that was torn down is never written to again.
- `flightLoop_polling`: the polling side of a tick is the flight loop of the polling model, told by the window what
  becomes of the connection.
- `plugin_components`: so an enabled plugin is its window and its polling, the window telling the polling only that.
-/
import MumbledFlight.Lib.Transducers
import MumbledFlight.Plugin.Gui
import MumbledFlight.Plugin.Pinning
import MumbledFlight.Plugin.Polling

namespace MumbledFlight

/-! ## Stacks and handles -/

/-- the sliders, and the atomics that carry them to the audio threads -/
structure Levels where
  gain : F32
  ambientVol : F32
  icVol : F32
  spatialWidth : F32
deriving DecidableEq

/-- a stack that was started -/
structure AudioStack where
  dial : GuiState.Dial
  levels : Levels
  shutdown : Bool
deriving DecidableEq

/-- the window's handles on a stack -/
structure LiveHandles where
  micGainLive : Option ℕ
  ambientVolLive : Option ℕ
  icVolLive : Option ℕ
  spatialWidthLive : Option ℕ
  voipStatuses : Option ℕ
deriving DecidableEq

/-- all of them on one stack, or on none -/
def LiveHandles.all (stack : Option ℕ) : LiveHandles := ⟨stack, stack, stack, stack, stack⟩

/-- an operation on the stack a handle points to -/
def onStack (handle : Option ℕ) (f : AudioStack → AudioStack) (started : List AudioStack) : List AudioStack :=
  match handle with
  | none => started
  | some n => started.modify n f

/-- `MumbleConnection::drop` -/
def dropConnection (connection : Option ℕ) (started : List AudioStack) : List AudioStack :=
  onStack connection (fun s => { s with shutdown := true }) started

/-- the end of `GuiState::draw`: each slider goes to its atomic -/
def storeLevels (live : LiveHandles) (l : Levels) (started : List AudioStack) : List AudioStack :=
  let started := onStack live.micGainLive (fun s => { s with levels := { s.levels with gain := l.gain } }) started
  let started := onStack live.ambientVolLive (fun s => { s with levels := { s.levels with ambientVol := l.ambientVol } })
    started
  let started := onStack live.icVolLive (fun s => { s with levels := { s.levels with icVol := l.icVol } }) started
  onStack live.spatialWidthLive (fun s => { s with levels := { s.levels with spatialWidth := l.spatialWidth } }) started

/-! ## The plugin -/

/-- an enabled plugin; a connection is its cockpit state, kept with the polling, and its stack -/
structure Plugin where
  polling : PluginState
  gui : GuiState
  levels : Levels
  live : LiveHandles
  connection : Option ℕ

structure World where
  plugin : Option Plugin
  /-- every stack that was ever started, oldest first -/
  started : List AudioStack

/-- before the plugin is enabled -/
def World.init : World := ⟨none, []⟩

/-- what a tick reads of the simulator and of the operating system -/
structure LoopInput where
  find : FindDataRef
  sim : SimValues
  answers : GuiState.TickInput

namespace Plugin

/-- `XPluginEnable`, with the window's state as it was loaded -/
def enable (find : FindDataRef) (fields : Fields) (knownHosts : KnownHosts) (levels : Levels) : Plugin :=
  ⟨.enable find, .init fields knownHosts, levels, .all none, none⟩

section

variable {X509 : Type} (lib : CertLib X509)

/-- `connection::start` -/
def start (p : Plugin) (t : GuiState.TickInput) (started : List AudioStack) : Plugin × List AudioStack :=
  match p.gui.start lib t with
  | (gui, none) => ({ p with gui }, started)
  | (gui, some dial) =>
    -- the old connection is dropped when the new one is stored
    ({ p with
        gui
        live := .all (some started.length)
        connection := some started.length
        polling := { p.polling with connection := some (CockpitState.default F32) } },
      dropConnection p.connection (started ++ [⟨dial, p.levels, false⟩]))

/-- `connection::stop` -/
def stop (p : Plugin) (started : List AudioStack) : Plugin × List AudioStack :=
  ({ p with
      gui := p.gui.stop
      live := .all none
      connection := none
      polling := { p.polling with connection := none } },
    dropConnection p.connection started)

/-- the DataRefs found later, and the poll -/
def poll (p : Plugin) (t : LoopInput) : Plugin :=
  let polling := p.polling.retryPendingDatarefs t.find
  { p with polling := { polling with connection := polling.connection.map (pollDatarefs polling.datarefs t.sim) } }

def connectIfAsked (p : Plugin) (t : GuiState.TickInput) (started : List AudioStack) : Plugin × List AudioStack :=
  if p.gui.shouldConnect then start lib { p with gui := { p.gui with shouldConnect := false } } t started
  else (p, started)

def disconnectIfAsked (p : Plugin) (started : List AudioStack) : Plugin × List AudioStack :=
  if p.gui.shouldDisconnect then stop { p with gui := { p.gui with shouldDisconnect := false } } started
  else (p, started)

/-- `flight_loop_cb` -/
def flightLoop (p : Plugin) (t : LoopInput) (started : List AudioStack) : Plugin × List AudioStack :=
  let r := (p.poll t).connectIfAsked lib t.answers started
  r.1.disconnectIfAsked r.2

end

end Plugin

/-- what happens to an enabled plugin -/
inductive PluginEvent where
  | frame (i : FrameInput) (levels : Levels)
  | frameWithoutRenderer
  | probeWrites (gen : ℕ) (r : ProbeResult)
  | flightLoop (t : LoopInput)

def Plugin.step {X509 : Type} (lib : CertLib X509) (s : Plugin × List AudioStack) :
    PluginEvent → Plugin × List AudioStack
  | .frame i levels => ({ s.1 with gui := s.1.gui.draw lib i, levels }, storeLevels s.1.live levels s.2)
  | .frameWithoutRenderer => ({ s.1 with gui := s.1.gui.drawWithoutRenderer }, s.2)
  | .probeWrites gen r => ({ s.1 with gui := { s.1.gui with probes := s.1.gui.probes.write gen r } }, s.2)
  | .flightLoop t => s.1.flightLoop lib t s.2

inductive LifeEvent where
  | enable (find : FindDataRef) (fields : Fields) (knownHosts : KnownHosts) (levels : Levels)
  /-- `XPluginDisable`, `XPluginStop` -/
  | disable
  | callback (e : PluginEvent)

/-- the connection a plugin holds, if there is a plugin -/
def held (plugin : Option Plugin) : Option ℕ := plugin.bind Plugin.connection

def World.step {X509 : Type} (lib : CertLib X509) (w : World) : LifeEvent → World
  | .enable find fields knownHosts levels =>
    ⟨some (.enable find fields knownHosts levels), dropConnection (held w.plugin) w.started⟩
  | .disable => ⟨none, dropConnection (held w.plugin) w.started⟩
  | .callback e =>
    match w.plugin with
    | none => w -- the callbacks return at once
    | some p =>
      let r := Plugin.step lib (p, w.started) e
      ⟨some r.1, r.2⟩

/-! ## One stack at a time -/

/-- the stacks that run are the one that is held -/
structure Tied (connection : Option ℕ) (started : List AudioStack) : Prop where
  running : ∀ n s, started[n]? = some s → (s.shutdown = false ↔ connection = some n)
  started : ∀ n, connection = some n → n < started.length

/-- window, poll and audio threads see the same connection -/
structure Plugin.Consistent (p : Plugin) (started : List AudioStack) : Prop where
  connected : p.gui.isConnected = p.connection.isSome
  live : p.live = .all p.connection
  polled : p.polling.connection.isSome = p.connection.isSome
  levels : ∀ n s, p.connection = some n → started[n]? = some s → s.levels = p.levels

/-- stacks that were torn down are as they were -/
def TornDownKept (before after : List AudioStack) : Prop :=
  ∀ (n : ℕ) (s : AudioStack), before[n]? = some s → s.shutdown = true → after[n]? = some s

/-- what a callback leaves -/
structure Plugin.Left (before : List AudioStack) (r : Plugin × List AudioStack) : Prop where
  tied : Tied r.1.connection r.2
  consistent : r.1.Consistent r.2
  kept : TornDownKept before r.2

def World.Inv (w : World) : Prop :=
  Tied (held w.plugin) w.started ∧ ∀ p, w.plugin = some p → p.Consistent w.started

theorem getElem?_onStack (handle : Option ℕ) (f : AudioStack → AudioStack) (started : List AudioStack) (n : ℕ) :
    (onStack handle f started)[n]? = if handle = some n then started[n]?.map f else started[n]? := by
  cases handle with
  | none => simp [onStack]
  | some m =>
    simp only [onStack, List.getElem?_modify, Option.some.injEq]
    split_ifs with h
    · rfl
    · simp

@[simp] theorem length_onStack (handle : Option ℕ) (f : AudioStack → AudioStack) (started : List AudioStack) :
    (onStack handle f started).length = started.length := by
  cases handle <;> simp [onStack]

theorem storeLevels_all (handle : Option ℕ) (l : Levels) (started : List AudioStack) :
    storeLevels (.all handle) l started = onStack handle (fun s => { s with levels := l }) started := by
  cases handle with
  | none => rfl
  | some n => simp [storeLevels, LiveHandles.all, onStack, List.modify_modify_eq, Function.comp_def]

namespace Tied

variable {connection : Option ℕ} {started : List AudioStack}

theorem drop (h : Tied connection started) : Tied none (dropConnection connection started) where
  running := by
    intro n s hs
    rw [dropConnection, getElem?_onStack] at hs
    split_ifs at hs with hn
    · obtain ⟨s', -, rfl⟩ := Option.map_eq_some_iff.1 hs
      simp
    · have := (h.running n s hs).not.2 hn
      simpa using this
  started := nofun

/-- a new stack takes the place of the old one -/
theorem replace (h : Tied connection started) {s : AudioStack} (hs : s.shutdown = false) :
    Tied (some started.length) (dropConnection connection (started ++ [s])) where
  running := by
    intro n s' hs'
    rw [dropConnection, getElem?_onStack] at hs'
    by_cases hn : connection = some n
    · have hlt := h.started n hn
      rw [if_pos hn] at hs'
      obtain ⟨s'', -, rfl⟩ := Option.map_eq_some_iff.1 hs'
      have hne : started.length ≠ n := by omega
      simp [hne]
    · rw [if_neg hn, List.getElem?_append] at hs'
      split_ifs at hs' with hlt
      · have hne : started.length ≠ n := by omega
        simp [(h.running n s' hs').not.2 hn, hne]
      · obtain ⟨hzero, rfl⟩ : n - started.length = 0 ∧ s = s' := by
          simpa [List.getElem?_singleton] using hs'
        have heq : started.length = n := by omega
        simp [hs, heq]
  started := by
    rintro n ⟨⟩
    simp [dropConnection]

/-- an operation on any stack that leaves its flag -/
theorem keep (h : Tied connection started) (handle : Option ℕ) {f : AudioStack → AudioStack}
    (hf : ∀ s, (f s).shutdown = s.shutdown) : Tied connection (onStack handle f started) where
  running := by
    intro n s hs
    rw [getElem?_onStack] at hs
    split_ifs at hs with hn
    · obtain ⟨s', hs', rfl⟩ := Option.map_eq_some_iff.1 hs
      rw [hf]
      exact h.running n s' hs'
    · exact h.running n s hs
  started := by
    intro n hn
    rw [length_onStack]
    exact h.started n hn

theorem not_held (h : Tied connection started) {n : ℕ} {s : AudioStack} (hs : started[n]? = some s)
    (hdown : s.shutdown = true) : connection ≠ some n := by
  intro hn
  have hruns : s.shutdown = false := (h.running n s hs).2 hn
  rw [hdown] at hruns
  cases hruns

/-- only the stack that is held is touched through the handles, and it runs -/
theorem onStack_kept (h : Tied connection started) (f : AudioStack → AudioStack) :
    TornDownKept started (onStack connection f started) := by
  intro n s hs hdown
  rw [getElem?_onStack, if_neg (h.not_held hs hdown), hs]

theorem replace_kept (h : Tied connection started) (s : AudioStack) :
    TornDownKept started (dropConnection connection (started ++ [s])) := by
  intro n s' hs hdown
  have hlt : n < started.length := (List.getElem?_eq_some_iff.1 hs).1
  rw [dropConnection, getElem?_onStack, if_neg (h.not_held hs hdown), List.getElem?_append_left hlt, hs]

end Tied

theorem TornDownKept.refl (started : List AudioStack) : TornDownKept started started := fun _ _ hs _ => hs

theorem TornDownKept.trans {a b c : List AudioStack} (hab : TornDownKept a b) (hbc : TornDownKept b c) :
    TornDownKept a c := fun n s hs hdown => hbc n s (hab n s hs hdown) hdown

/-! ## One event -/

/-- an attempt to start either leaves a text and nothing else, or dials -/
theorem GuiState.start_cases {X509 : Type} (lib : CertLib X509) (g : GuiState) (t : GuiState.TickInput) :
    (∃ status, g.start lib t = ({ g with status := status }, none)) ∨
    ∃ status dial, g.start lib t = ({ g with isConnected := true, status := status }, some dial) := by
  unfold GuiState.start
  split
  · exact Or.inl ⟨_, rfl⟩
  · split
    · exact Or.inl ⟨_, rfl⟩
    · split
      · exact Or.inl ⟨_, rfl⟩
      · exact Or.inr ⟨_, _, rfl⟩

namespace Plugin

variable {X509 : Type} (lib : CertLib X509) {p : Plugin} {started : List AudioStack}

/-- an update of the window that leaves the connection alone -/
theorem Consistent.gui (h : p.Consistent started) {gui : GuiState} (hgui : gui.isConnected = p.gui.isConnected) :
    ({ p with gui } : Plugin).Consistent started where
  connected := hgui.trans h.connected
  live := h.live
  polled := h.polled
  levels := h.levels

theorem enable_consistent (find : FindDataRef) (fields : Fields) (knownHosts : KnownHosts) (levels : Levels)
    (started : List AudioStack) : (enable find fields knownHosts levels).Consistent started where
  connected := rfl
  live := rfl
  polled := rfl
  levels := by
    intro n s hn
    have hnone : none = some n := hn
    cases hnone

theorem poll_consistent (h : p.Consistent started) (t : LoopInput) : (p.poll t).Consistent started where
  connected := h.connected
  live := h.live
  polled := by
    have hretry : (p.polling.retryPendingDatarefs t.find).connection = p.polling.connection := by
      unfold PluginState.retryPendingDatarefs
      split_ifs <;> rfl
    simp only [poll, Option.isSome_map, hretry]
    exact h.polled
  levels := h.levels

theorem start_left (ht : Tied p.connection started) (h : p.Consistent started) (t : GuiState.TickInput) :
    Left started (p.start lib t started) := by
  unfold start
  rcases p.gui.start_cases lib t with ⟨status, hfailed⟩ | ⟨status, dial, hdials⟩
  · rw [hfailed]
    exact ⟨ht, h.gui rfl, .refl _⟩
  · rw [hdials]
    refine ⟨ht.replace rfl, ⟨rfl, rfl, rfl, ?_⟩, ht.replace_kept _⟩
    rintro n s ⟨⟩ hs
    have hne : p.connection ≠ some started.length := fun hp => (ht.started _ hp).false
    dsimp only at hs
    rw [dropConnection, getElem?_onStack, if_neg hne] at hs
    obtain rfl : _ = s := by simpa using hs
    rfl

theorem stop_left (ht : Tied p.connection started) : Left started (p.stop started) :=
  ⟨ht.drop, ⟨rfl, rfl, rfl, nofun⟩, ht.onStack_kept _⟩

theorem flightLoop_left (ht : Tied p.connection started) (h : p.Consistent started) (t : LoopInput) :
    Left started (p.flightLoop lib t started) := by
  have hconnect : Left started ((p.poll t).connectIfAsked lib t.answers started) := by
    unfold connectIfAsked
    split_ifs
    · exact start_left lib (p := { p.poll t with gui := { (p.poll t).gui with shouldConnect := false } }) ht
        ((poll_consistent h t).gui rfl) t.answers
    · exact ⟨ht, poll_consistent h t, .refl _⟩
  unfold flightLoop disconnectIfAsked
  dsimp only
  split_ifs
  · have hstop := stop_left (p := { ((p.poll t).connectIfAsked lib t.answers started).1 with
      gui := { ((p.poll t).connectIfAsked lib t.answers started).1.gui with shouldDisconnect := false } }) hconnect.tied
    exact ⟨hstop.tied, hstop.consistent, hconnect.kept.trans hstop.kept⟩
  · exact hconnect

theorem step_left (ht : Tied p.connection started) (h : p.Consistent started) (e : PluginEvent) :
    Left started (step lib (p, started) e) := by
  cases e with
  | frame i levels =>
    have hstore : storeLevels p.live levels started = onStack p.connection (fun s => { s with levels }) started := by
      rw [h.live, storeLevels_all]
    unfold step
    dsimp only
    rw [hstore]
    refine ⟨ht.keep _ fun _ => rfl, ⟨h.connected, h.live, h.polled, ?_⟩, ht.onStack_kept _⟩
    intro n s hn hs
    have hn' : p.connection = some n := hn
    dsimp only at hs
    rw [getElem?_onStack, if_pos hn'] at hs
    obtain ⟨s', -, rfl⟩ := Option.map_eq_some_iff.1 hs
    rfl
  | frameWithoutRenderer => exact ⟨ht, h.gui rfl, .refl _⟩
  | probeWrites gen r => exact ⟨ht, h.gui rfl, .refl _⟩
  | flightLoop t => exact flightLoop_left lib ht h t

end Plugin

namespace World

variable {X509 : Type} (lib : CertLib X509) {w : World}

theorem tied_nil : Tied none [] where
  running := by simp
  started := by simp

theorem inv_init : init.Inv := ⟨tied_nil, by simp [init]⟩

theorem step_inv (h : w.Inv) (e : LifeEvent) : (w.step lib e).Inv ∧ TornDownKept w.started (w.step lib e).started := by
  cases e with
  | enable find fields knownHosts levels =>
    refine ⟨⟨h.1.drop, ?_⟩, h.1.onStack_kept _⟩
    intro p hp
    obtain rfl := Option.some.inj hp
    exact Plugin.enable_consistent find fields knownHosts levels _
  | disable =>
    refine ⟨⟨h.1.drop, ?_⟩, h.1.onStack_kept _⟩
    intro p hp
    have hnone : none = some p := hp
    cases hnone
  | callback e =>
    obtain ⟨plugin, started⟩ := w
    cases plugin with
    | none => exact ⟨h, .refl _⟩
    | some p =>
      have hleft := Plugin.step_left lib h.1 (h.2 p rfl) e
      refine ⟨⟨hleft.tied, ?_⟩, hleft.kept⟩
      intro p' hp'
      obtain rfl := Option.some.inj hp'
      exact hleft.consistent

theorem inv_run (h : w.Inv) (es : List LifeEvent) : (Runs.run (step lib) w es).Inv :=
  Runs.run_inv (P := Inv) (fun _ e hw => (step_inv lib hw e).1) h es

theorem kept_run (h : w.Inv) (es : List LifeEvent) : TornDownKept w.started (Runs.run (step lib) w es).started := by
  induction es generalizing w with
  | nil => exact .refl _
  | cons e es ih => exact (step_inv lib h e).2.trans (ih (step_inv lib h e).1)

end World

/-- Connections. In every run a stack runs exactly while it is the one the plugin holds, so there is never a second one;
the window says connected, and has its handles, and the poll has a cockpit state to fill, exactly while there is one; the
levels its audio threads read are those of the sliders. A stack that was torn down stays torn down, and nothing is
written to its atomics again. -/
theorem stack_lifecycle {X509 : Type} (lib : CertLib X509) (es : List LifeEvent) :
    let w := Runs.run (World.step lib) .init es
    (∀ (n : ℕ) (s : AudioStack), w.started[n]? = some s →
      (s.shutdown = false ↔ ∃ p, w.plugin = some p ∧ p.connection = some n)) ∧
    (∀ p, w.plugin = some p → p.gui.isConnected = p.connection.isSome ∧ p.live = .all p.connection ∧
      p.polling.connection.isSome = p.connection.isSome ∧
      ∀ n, p.connection = some n → ∃ s, w.started[n]? = some s ∧ s.levels = p.levels) ∧
    ∀ (later : List LifeEvent) (n : ℕ) (s : AudioStack), w.started[n]? = some s → s.shutdown = true →
      (Runs.run (World.step lib) w later).started[n]? = some s := by
  intro w
  have hinv : w.Inv := World.inv_run lib World.inv_init es
  refine ⟨?_, ?_, ?_⟩
  · intro n s hs
    rw [hinv.1.running n s hs, held, Option.bind_eq_some_iff]
  · intro p hp
    have hcons := hinv.2 p hp
    refine ⟨hcons.connected, hcons.live, hcons.polled, ?_⟩
    intro n hn
    have hheld : held w.plugin = some n := by rw [hp]; exact hn
    have hs := List.getElem?_eq_getElem (hinv.1.started n hheld)
    exact ⟨_, hs, hcons.levels n _ hn hs⟩
  · exact fun later => World.kept_run lib hinv later

/-! ## The parts of the plugin -/

/-- what an event is to the window -/
def PluginEvent.gui : PluginEvent → GuiEvent
  | .frame i _ => .frame i
  | .frameWithoutRenderer => .frameWithoutRenderer
  | .probeWrites gen r => .probeWrites gen r
  | .flightLoop t => .tick t.answers

namespace GuiState

variable {X509 : Type} (lib : CertLib X509)

/-- what a tick of the window does to the connection: it dials, or it stops, and a stop comes after a dial -/
def change (g : GuiState) (t : TickInput) : ConnectionChange :=
  let r := g.connectIfAsked lib t
  if r.1.shouldDisconnect then .stop
  else
    match r.2 with
    | some _ => .start
    | none => .keep

/-- the window at work, and the ticks it hands the flight loop -/
def tellFlightLoop (g : GuiState) (e : PluginEvent) : GuiState × List Tick :=
  (g.step lib e.gui,
    match e with
    | .flightLoop t => [⟨t.find, t.sim, g.change lib t.answers⟩]
    | _ => [])

end GuiState

namespace Plugin

variable {X509 : Type} (lib : CertLib X509)

/-- the window's part of a start does not look at the rest -/
theorem start_gui (p : Plugin) (t : GuiState.TickInput) (started : List AudioStack) :
    (p.start lib t started).1.gui = (p.gui.start lib t).1 := by
  unfold start
  rcases p.gui.start_cases lib t with ⟨status, hfailed⟩ | ⟨status, dial, hdials⟩
  · rw [hfailed]
  · rw [hdials]

theorem connectIfAsked_gui (p : Plugin) (t : LoopInput) (started : List AudioStack) :
    ((p.poll t).connectIfAsked lib t.answers started).1.gui = (p.gui.connectIfAsked lib t.answers).1 := by
  unfold connectIfAsked GuiState.connectIfAsked poll
  dsimp only
  split_ifs
  · exact start_gui lib _ _ _
  · rfl

theorem flightLoop_gui (p : Plugin) (t : LoopInput) (started : List AudioStack) :
    (p.flightLoop lib t started).1.gui = (p.gui.tick lib t.answers).1 := by
  have hconnect := connectIfAsked_gui lib p t started
  unfold flightLoop disconnectIfAsked GuiState.tick GuiState.disconnectIfAsked
  dsimp only
  rw [hconnect]
  split_ifs
  · rfl
  · exact hconnect

/-- the connection the window asks for: a dial comes with a fresh cockpit state -/
theorem connectIfAsked_polling (p : Plugin) (t : LoopInput) (started : List AudioStack) :
    ((p.poll t).connectIfAsked lib t.answers started).1.polling =
      MumbledFlight.flightLoop p.polling ⟨t.find, t.sim,
        match (p.gui.connectIfAsked lib t.answers).2 with
        | some _ => .start
        | none => .keep⟩ := by
  have hgui : (p.poll t).gui = p.gui := rfl
  unfold connectIfAsked GuiState.connectIfAsked
  rw [hgui]
  split_ifs
  · unfold start
    dsimp only
    rcases GuiState.start_cases lib { p.gui with shouldConnect := false } t.answers with
      ⟨status, hfailed⟩ | ⟨status, dial, hdials⟩
    · rw [hfailed]
      rfl
    · rw [hdials]
      rfl
  · rfl

/-- a tick polls first; then the connection is replaced by one with a fresh cockpit state, dropped or kept, as the
window says -/
theorem flightLoop_polling (p : Plugin) (t : LoopInput) (started : List AudioStack) :
    (p.flightLoop lib t started).1.polling =
      MumbledFlight.flightLoop p.polling ⟨t.find, t.sim, p.gui.change lib t.answers⟩ := by
  have hgui := connectIfAsked_gui lib p t started
  have hpolling := connectIfAsked_polling lib p t started
  unfold flightLoop disconnectIfAsked GuiState.change
  dsimp only
  rw [hgui]
  split_ifs
  · unfold stop
    dsimp only
    rw [hpolling]
    cases (p.gui.connectIfAsked lib t.answers).2 <;> rfl
  · exact hpolling

theorem step_gui (s : Plugin × List AudioStack) (e : PluginEvent) : (step lib s e).1.gui = s.1.gui.step lib e.gui := by
  cases e with
  | flightLoop t => exact flightLoop_gui lib s.1 t s.2
  | _ => rfl

theorem step_polling (s : Plugin × List AudioStack) (e : PluginEvent) :
    (step lib s e).1.polling = Runs.run MumbledFlight.flightLoop s.1.polling (s.1.gui.tellFlightLoop lib e).2 := by
  cases e with
  | flightLoop t => exact flightLoop_polling lib s.1 t s.2
  | _ => rfl

end Plugin

/-- The parts. While the plugin is enabled, its window runs as the window alone does on the same frames, writes and ticks,
and its polling as the flight loop alone does on the ticks that this window hands it: what each reads of the simulator,
and whether the window dials or stops in it. -/
theorem plugin_components {X509 : Type} (lib : CertLib X509) (p : Plugin) (started : List AudioStack)
    (es : List PluginEvent) :
    let r := Runs.run (Plugin.step lib) (p, started) es
    r.1.gui = Runs.run (GuiState.step lib) p.gui (es.map PluginEvent.gui) ∧
    r.1.polling =
      Runs.run MumbledFlight.flightLoop p.polling (Transducer.outputs (GuiState.tellFlightLoop lib) p.gui es) := by
  intro r
  have h : ∀ s : Plugin × List AudioStack,
      (Runs.run (Plugin.step lib) s es).1.gui = Runs.run (GuiState.step lib) s.1.gui (es.map PluginEvent.gui) ∧
      (Runs.run (Plugin.step lib) s es).1.polling = Runs.run MumbledFlight.flightLoop s.1.polling
        (Transducer.outputs (GuiState.tellFlightLoop lib) s.1.gui es) := by
    induction es with
    | nil => exact fun s => ⟨rfl, rfl⟩
    | cons e es ih =>
      intro s
      obtain ⟨hgui, hpolling⟩ := ih (Plugin.step lib s e)
      rw [Plugin.step_gui] at hgui hpolling
      rw [Plugin.step_polling] at hpolling
      rw [Transducer.outputs_cons, Runs.run_append]
      exact ⟨hgui, hpolling⟩
  exact h (p, started)

end MumbledFlight

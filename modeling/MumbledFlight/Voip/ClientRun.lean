/-
The status a client shows (`MumbleVoipClient::run`, `spawn_client`). `run` connects, opens its UDP socket and a session,
and then handles one event after the other until the control stream or the microphone channel ends. Each of its awaits
has an outcome; a failure under a `?` returns it at once.

What the handlers do to the session is left out: here they succeed or fail.

Results, for all outcomes and every sequence of events:
- `step_follows`, `step_of_failed`: what succeeds keeps the status with the phase, a failing return leaves it as it was.
- `status_follows_iff`: so the status is right throughout exactly if nothing under a `?` fails.
  `failed_run_shows_connected` is a run that has failed and still shows Connected.
-/
import MumbledFlight.Lib.Runs

namespace MumbledFlight

inductive VoipClientStatus where
  | connecting
  | connected
  | disconnected
deriving DecidableEq

/-- the error's text, or nothing -/
abbrev Outcome := Except String Unit

namespace ClientRun

/-! ## Events -/

/-- what `control.next()` yields -/
inductive ControlNext where
  /-- a message, and what became of its handler -/
  | msg (handled : Outcome)
  /-- the end of the stream, or an error -/
  | ended

/-- what `audio_rx.recv()` yields -/
inductive AudioRecv where
  | pcm (handled : Outcome)
  | lagged
  | closed

/-- the branch `select!` takes -/
inductive SelectEvent where
  | tcpPing
  | udpPing
  | zoneCheck (handled : Outcome)
  | udpRecv (received : Bool)
  | control (next : ControlNext)
  | audio (recv : AudioRecv)

/-- the outcome `run` awaits -/
inductive RunEvent where
  | connect (r : Outcome)
  | bindUdp (r : Outcome)
  | connectUdp (r : Outcome)
  | newSession (r : Outcome)
  | select (e : SelectEvent)

/-! ## The run -/

inductive Phase where
  | connecting
  | bindingUdp
  | connectingUdp
  | startingSession
  | listening
  | returned (r : Outcome)

structure State where
  phase : Phase
  /-- `voip_status` -/
  status : VoipClientStatus

/-- the status slot as `run_mumble_stack` makes it -/
def init : State := ⟨.connecting, .connecting⟩

/-- `r?` -/
def State.orReturn (s : State) (r : Outcome) (next : State) : State :=
  match r with
  | .ok () => next
  | .error e => { s with phase := .returned (.error e) }

/-- after the loop -/
def disconnected : State := ⟨.returned (.ok ()), .disconnected⟩

/-- one round of the loop -/
def listen (s : State) : SelectEvent → State
  | .tcpPing => s
  | .udpPing => s
  | .zoneCheck handled => s.orReturn handled s
  | .udpRecv _ => s
  | .control (.msg handled) => s.orReturn handled s
  | .control .ended => disconnected
  | .audio (.pcm handled) => s.orReturn handled s
  | .audio .lagged => s
  | .audio .closed => disconnected

def step (s : State) (e : RunEvent) : State :=
  match s.phase, e with
  | .connecting, .connect r => s.orReturn r ⟨.bindingUdp, .connected⟩
  | .bindingUdp, .bindUdp r => s.orReturn r { s with phase := .connectingUdp }
  | .connectingUdp, .connectUdp r => s.orReturn r { s with phase := .startingSession }
  | .startingSession, .newSession r => s.orReturn r { s with phase := .listening }
  | .listening, .select e => listen s e
  | _, _ => s

/-- what `spawn_client` logs at error level once `run` has returned -/
def spawnClientLog (username : String) (r : Outcome) : Option String :=
  match r with
  | .ok () => none
  | .error e => some ("[VoIP:" ++ username ++ "] disconnected: " ++ e)

/-! ## The status -/

/-- what the phase should show -/
def Phase.status : Phase → VoipClientStatus
  | .connecting => .connecting
  | .returned _ => .disconnected
  | _ => .connected

def StatusFollows (s : State) : Prop := s.status = s.phase.status

/-- what the phase waits for under a `?`, if the event is it -/
def attempt : Phase → RunEvent → Option Outcome
  | .connecting, .connect r => some r
  | .bindingUdp, .bindUdp r => some r
  | .connectingUdp, .connectUdp r => some r
  | .startingSession, .newSession r => some r
  | .listening, .select (.zoneCheck handled) => some handled
  | .listening, .select (.control (.msg handled)) => some handled
  | .listening, .select (.audio (.pcm handled)) => some handled
  | _, _ => none

/-- nothing under a `?` fails -/
def NothingFails (s : State) (e : RunEvent) : Prop := ∀ err, attempt s.phase e ≠ some (.error err)

/-! ## One event -/

theorem orReturn_of_failed (s : State) {r : Outcome} {err : String} (h : some r = some (.error err)) (next : State) :
    s.orReturn r next = { s with phase := .returned (.error err) } := by
  rw [Option.some.inj h]
  rfl

theorem orReturn_of_succeeds (s : State) {r : Outcome} (h : ∀ err, some r ≠ some (.error err)) (next : State) :
    s.orReturn r next = next := by
  cases r with
  | ok _ => rfl
  | error err => exact absurd rfl (h err)

/-- a failure returns and touches nothing else -/
theorem step_of_failed {s : State} {e : RunEvent} {err : String} (h : attempt s.phase e = some (.error err)) :
    step s e = { s with phase := .returned (.error err) } := by
  unfold step
  unfold attempt at h
  split at h
  case h_8 => exact nomatch h
  all_goals
    rename_i hphase
    simp only [hphase]
    exact orReturn_of_failed s h _

/-- only a run that has not returned waits for anything -/
theorem status_of_attempt {phase : Phase} {e : RunEvent} {r : Outcome} (h : attempt phase e = some r) :
    phase.status ≠ .disconnected := by
  cases phase with
  | returned _ => exact nomatch h
  | _ => exact nofun

/-- a round of the loop stays in it, or ends it with the status set -/
theorem listen_follows {s : State} (hphase : s.phase = .listening) {e : SelectEvent} (h : NothingFails s (.select e))
    (hs : StatusFollows s) : StatusFollows (listen s e) := by
  unfold NothingFails at h
  rw [hphase] at h
  cases e with
  | zoneCheck handled =>
    rw [listen, orReturn_of_succeeds s h]
    exact hs
  | control next =>
    cases next with
    | msg handled =>
      rw [listen, orReturn_of_succeeds s h]
      exact hs
    | ended => rfl
  | audio recv =>
    cases recv with
    | pcm handled =>
      rw [listen, orReturn_of_succeeds s h]
      exact hs
    | lagged => exact hs
    | closed => rfl
  | tcpPing => exact hs
  | udpPing => exact hs
  | udpRecv _ => exact hs

theorem step_follows {s : State} {e : RunEvent} (h : NothingFails s e) (hs : StatusFollows s) :
    StatusFollows (step s e) := by
  obtain ⟨phase, status⟩ := s
  cases phase with
  | connecting =>
    cases e with
    | connect r =>
      dsimp only [step]
      rw [orReturn_of_succeeds _ h]
      rfl
    | _ => exact hs
  | bindingUdp =>
    cases e with
    | bindUdp r =>
      dsimp only [step]
      rw [orReturn_of_succeeds _ h]
      exact hs
    | _ => exact hs
  | connectingUdp =>
    cases e with
    | connectUdp r =>
      dsimp only [step]
      rw [orReturn_of_succeeds _ h]
      exact hs
    | _ => exact hs
  | startingSession =>
    cases e with
    | newSession r =>
      dsimp only [step]
      rw [orReturn_of_succeeds _ h]
      exact hs
    | _ => exact hs
  | listening =>
    cases e with
    | select e => exact listen_follows rfl h hs
    | _ => exact hs
  | returned r => exact hs

theorem init_follows : StatusFollows init := rfl

/-- a failing return leaves the status of the phase it fails in -/
theorem nothingFails_of_follows {s : State} {e : RunEvent} (hs : StatusFollows s) (h : StatusFollows (step s e)) :
    NothingFails s e := by
  intro err hfailed
  rw [step_of_failed hfailed] at h
  have hphase : s.phase.status = .disconnected := hs.symm.trans h
  exact status_of_attempt hfailed hphase

/-- Status. It is Connecting until the connection is made, Connected until `run` returns and Disconnected from then on,
exactly if no connection, socket, session set-up or handler under a `?` fails. -/
theorem status_follows_iff (es : List RunEvent) :
    Runs.Always step StatusFollows init es ↔ Runs.Meets step NothingFails init es :=
  Runs.always_iff_meets (J := fun _ => True) (fun _ _ _ => trivial) (fun _ _ _ hs h => step_follows h hs)
    (fun _ _ _ hs h => nothingFails_of_follows hs h) trivial init_follows es

/-- the control handler fails in the loop: the log says disconnected, the status Connected -/
theorem failed_run_shows_connected :
    let es : List RunEvent := [.connect (.ok ()), .bindUdp (.ok ()), .connectUdp (.ok ()), .newSession (.ok ()),
      .select (.control (.msg (.error "Broken pipe")))]
    let s := Runs.run step init es
    s.phase = .returned (.error "Broken pipe") ∧ s.status = .connected ∧
    spawnClientLog "pilot_voice" (.error "Broken pipe") = some "[VoIP:pilot_voice] disconnected: Broken pipe" ∧
    ¬Runs.Always step StatusFollows init es := by
  refine ⟨rfl, rfl, rfl, ?_⟩
  intro h
  have hlast : StatusFollows ⟨.returned (.error "Broken pipe"), .connected⟩ := h.2.2.2.2.2
  exact nomatch hlast

end ClientRun

end MumbledFlight

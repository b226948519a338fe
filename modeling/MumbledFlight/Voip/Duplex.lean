/-
The whole session (`MumbleVoipClient::run`, one round of its loop at a time): control messages and ticks, microphone
frames and datagrams in one order, as `select!` picks them. Pings are left out; they read the crypt state and the clock.

The other modules of the session each follow a part of these events. That this is no loss:
- `duplex_independence`: the control side, the sending half and the receiving half of every run are the runs of these
  modules, on the events that concern them. So what a session sends does not depend on what it receives, what it plays
  does not depend on the microphone, and neither touches the control side.
-/
import MumbledFlight.Voip.Receive
import MumbledFlight.Voip.Transmit

namespace MumbledFlight

/-- `E` and `D` are the states of the Opus encoder and of a decoder -/
structure DuplexState (E D : Type) where
  talk : TalkState E
  decoders : HashMap UInt32 D

inductive DuplexEvent where
  | voip (e : VoipEvent)
  | micPcm (pcm : List Float32) (gateState sendState : CockpitState F32)
  | udpRecv (dg : Datagram)

inductive DuplexOutput (α : Type) where
  /-- to the server -/
  | packet (p : VoicePacket)
  /-- to the mixer -/
  | frame (f : UInt32 × List α)

namespace DuplexEvent

def control : DuplexEvent → Option VoipEvent
  | .voip e => some e
  | _ => none

def talk : DuplexEvent → Option TalkEvent
  | .voip e => some (.voip e)
  | .micPcm pcm gateState sendState => some (.micPcm pcm gateState sendState)
  | .udpRecv _ => none

def listen : DuplexEvent → Option ListenEvent
  | .voip e => some (.voip e)
  | .micPcm _ _ _ => none
  | .udpRecv dg => some (.udpRecv dg)

end DuplexEvent

def DuplexOutput.sent {α : Type} : DuplexOutput α → Option VoicePacket
  | .packet p => some p
  | .frame _ => none

def DuplexOutput.played {α : Type} : DuplexOutput α → Option (UInt32 × List α)
  | .packet _ => none
  | .frame f => some f

@[simp] theorem sent_map_packet {α : Type} (ps : List VoicePacket) :
    (ps.map (.packet : VoicePacket → DuplexOutput α)).filterMap DuplexOutput.sent = ps := by
  rw [List.filterMap_map]
  exact List.filterMap_some

@[simp] theorem sent_map_frame {α : Type} (fs : List (UInt32 × List α)) :
    (fs.map DuplexOutput.frame).filterMap DuplexOutput.sent = [] := by
  simp [DuplexOutput.sent]

@[simp] theorem played_map_packet {α : Type} (ps : List VoicePacket) :
    (ps.map (.packet : VoicePacket → DuplexOutput α)).filterMap DuplexOutput.played = [] := by
  simp [DuplexOutput.played]

@[simp] theorem played_map_frame {α : Type} (fs : List (UInt32 × List α)) :
    (fs.map DuplexOutput.frame).filterMap DuplexOutput.played = fs := by
  rw [List.filterMap_map]
  exact List.filterMap_some

section

variable {E D α : Type} [Field α] [DecidableEq α] (encode : E → List Int16 → List UInt8 × E) (rx : Receiver D α)
  (client : AudioClient)

/-- `TalkState.next` with the packet it sends -/
def TalkState.emit (s : TalkState E) (e : TalkEvent) : TalkState E × List VoicePacket :=
  (s.next encode client e,
    match e with
    | .voip _ => []
    | .micPcm pcm gateState sendState => (onMicPcm encode client s pcm gateState sendState).2.toList)

namespace DuplexState

def init (encoder : E) (zone : SharedCockpitZone) : DuplexState E D := ⟨.init encoder zone, ∅⟩

def step (s : DuplexState E D) : DuplexEvent → DuplexState E D × List (DuplexOutput α)
  | .voip e => ({ s with talk := { s.talk with run := s.talk.run.step client.toMumbleVoipClient e } }, [])
  | .micPcm pcm gateState sendState =>
    let out := onMicPcm encode client s.talk pcm gateState sendState
    ({ s with talk := out.1 }, out.2.toList.map .packet)
  | .udpRecv dg =>
    let out := onUdpRecv rx client ⟨s.talk.run, s.decoders⟩ dg
    ({ s with decoders := out.1.decoders }, out.2.map .frame)

def listen (s : DuplexState E D) : ListenState D := ⟨s.talk.run, s.decoders⟩

end DuplexState

/-! ## The halves -/

theorem onUdpRecv_run (s : ListenState D) (dg : Datagram) : (onUdpRecv rx client s dg).1.run = s.run := by
  unfold onUdpRecv
  split
  · split
    · rfl
    · split <;> rfl
  · rfl

theorem onMicPcm_run (s : TalkState E) (pcm : List Float32) (gateState sendState : CockpitState F32) :
    (onMicPcm encode client s pcm gateState sendState).1.run = s.run := by
  unfold onMicPcm
  dsimp only
  split
  · rfl
  · split_ifs <;> rfl

theorem packets_micPcm (s : TalkState E) (pcm : List Float32) (gateState sendState : CockpitState F32)
    (es : List TalkEvent) : s.packets encode client (.micPcm pcm gateState sendState :: es) =
      (onMicPcm encode client s pcm gateState sendState).2.toList ++
        (s.next encode client (.micPcm pcm gateState sendState)).packets encode client es := by
  simp only [TalkState.packets, TalkState.calls, List.filterMap_cons]
  cases h : (onMicPcm encode client s pcm gateState sendState).2 <;> simp

theorem packets_eq_outputs (s : TalkState E) (es : List TalkEvent) :
    s.packets encode client es = Transducer.outputs (TalkState.emit encode client) s es := by
  induction es generalizing s with
  | nil => rfl
  | cons e es ih =>
    rw [Transducer.outputs_cons, ← ih]
    cases e with
    | voip e => rfl
    | micPcm pcm gateState sendState => exact packets_micPcm encode client s pcm gateState sendState es

theorem talk_projects : Transducer.Projects (DuplexState.step encode rx client) (TalkState.emit encode client)
    DuplexState.talk DuplexEvent.talk DuplexOutput.sent where
  dropped := by
    intro s e h
    cases e with
    | udpRecv dg => exact ⟨rfl, sent_map_frame _⟩
    | _ => exact nomatch h
  taken := by
    intro s e e' h
    cases e with
    | voip e =>
      obtain rfl := Option.some.inj h
      rfl
    | micPcm pcm gateState sendState =>
      obtain rfl := Option.some.inj h
      exact Prod.ext rfl (sent_map_packet _).symm
    | udpRecv dg => exact nomatch h

theorem listen_projects : Transducer.Projects (DuplexState.step encode rx client) (ListenState.step rx client)
    DuplexState.listen DuplexEvent.listen DuplexOutput.played where
  dropped := by
    intro s e h
    cases e with
    | micPcm pcm gateState sendState =>
      have hrun := onMicPcm_run encode client s.talk pcm gateState sendState
      exact ⟨by simp [DuplexState.step, DuplexState.listen, hrun], played_map_packet _⟩
    | _ => exact nomatch h
  taken := by
    intro s e e' h
    cases e with
    | voip e =>
      obtain rfl := Option.some.inj h
      rfl
    | micPcm pcm gateState sendState => exact nomatch h
    | udpRecv dg =>
      obtain rfl := Option.some.inj h
      have hrun := onUdpRecv_run rx client s.listen dg
      refine Prod.ext ?_ ?_
      · change (onUdpRecv rx client s.listen dg).1 = ⟨s.talk.run, (onUdpRecv rx client s.listen dg).1.decoders⟩
        rw [← show (onUdpRecv rx client s.listen dg).1.run = s.talk.run from hrun]
      · exact (played_map_frame _).symm

/-- the control side, its outputs kept in the log -/
theorem voip_projects : Transducer.Projects (DuplexState.step encode rx client)
    (fun (r : VoipRun) e => (r.step client.toMumbleVoipClient e, ([] : List Empty)))
    (fun s => s.talk.run) DuplexEvent.control (fun _ => none) where
  dropped := by
    intro s e h
    cases e with
    | voip e => exact nomatch h
    | micPcm pcm gateState sendState => exact ⟨onMicPcm_run encode client s.talk pcm gateState sendState, by simp⟩
    | udpRecv dg => exact ⟨rfl, by simp⟩
  taken := by
    intro s e e' h
    cases e with
    | voip e =>
      obtain rfl := Option.some.inj h
      simp [DuplexState.step]
    | _ => exact nomatch h

/-- Independence. In every run of a session, the packets sent are those of the sending half on its events, the frames
played those of the receiving half on its own, and the control side, with all it has sent, that of a session that has
neither a microphone nor a voice connection. -/
theorem duplex_independence (encoder : E) (zone : SharedCockpitZone) (es : List DuplexEvent) :
    let s : DuplexState E D := .init encoder zone
    let out := Transducer.outputs (DuplexState.step encode rx client) s es
    out.filterMap DuplexOutput.sent =
      (TalkState.init encoder zone).packets encode client (es.filterMap DuplexEvent.talk) ∧
    out.filterMap DuplexOutput.played = ListenState.played rx client zone (es.filterMap DuplexEvent.listen) ∧
    (Transducer.final (DuplexState.step encode rx client) s es).talk.run =
      Runs.run (VoipRun.step client.toMumbleVoipClient) (.init zone) (es.filterMap DuplexEvent.control) := by
  intro s out
  refine ⟨?_, ?_, ?_⟩
  · rw [packets_eq_outputs]
    exact (talk_projects encode rx client).outputs s es
  · exact (listen_projects encode rx client).outputs s es
  · exact (voip_projects encode rx client).final s es

end

end MumbledFlight

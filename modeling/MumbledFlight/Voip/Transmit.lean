/-
Talkspurts: the microphone frames of a session and the voice packets it makes of them (`Session::on_mic_pcm`,
`MumbleVoipClient::send_audio`). While the role's gate is open every frame is sent; the first frame after it closes is
sent with the end flag.

The Opus encoder is a parameter, an arbitrary state transformer that succeeds. A packet is modelled as it is handed to
`crypt.encrypt`; whether the datagram is sent is ignored by the source, too. Sample arithmetic is that of `Float32`.

Results, for every role and every run of microphone frames, control messages and ticks:
- `onMicPcm_noCrypt`: without a crypt state a frame changes nothing.
- `spurt_packets`, `spurt_seqNums`: which calls emit a packet, its end flag, and the numbering.
- `talkspurt_framing`: the two together, from a new session on.
-/
import MumbledFlight.Voip.History
import MumbledFlight.Voip.Position

namespace MumbledFlight

/-! ## A frame -/

/-- `VoicePacket::Audio` to the server; the target is always 0 -/
structure VoicePacket where
  seqNum : UInt64
  /-- Opus data -/
  payload : List UInt8
  /-- the end of the talkspurt -/
  isEnd : Bool
  positionInfo : Option (List UInt8)
deriving DecidableEq

/-- `x.clamp(-1.0, 1.0)` -/
def clampUnit (x : Float32) : Float32 :=
  let x := if x < -1 then -1 else x
  if x > 1 then 1 else x

def toI16 (x : Float32) : Int16 := (clampUnit x * 32767).toInt16

/-- the role's gate, and the volume its frames are scaled by -/
def transmitGate (role : ClientRole) (s : CockpitState F32) : Bool × Float32 :=
  match role with
  | .radio hasSource => (s.shouldTransmitRadio hasSource, Float32.ofBits s.spkrVol.bits)
  | .ic => (s.shouldTransmitIc, 1)
  | .pa => (s.shouldTransmitPa, 2)
  | .voice => (true, 1)

/-- a session with its sending half; `E` is the state of the Opus encoder -/
structure TalkState (E : Type) where
  run : VoipRun
  encoder : E
  voiceSeq : UInt64
  wasTransmitting : Bool

inductive TalkEvent where
  | voip (e : VoipEvent)
  /-- a captured frame, with the cockpit as it is read for the gate and again for the position -/
  | micPcm (pcm : List Float32) (gateState sendState : CockpitState F32)

/-- what a call of `on_mic_pcm` found and did -/
structure MicCall where
  /-- a crypt state was present -/
  keyed : Bool
  gateOpen : Bool
  packet : Option VoicePacket

section

variable {E : Type} (encode : E → List Int16 → List UInt8 × E) (client : AudioClient)

/-- the packet, and the encoder after it -/
def sendAudio (s : TalkState E) (pcm : List Float32) (state : CockpitState F32) (isEnd : Bool) :
    VoicePacket × TalkState E :=
  let out := encode s.encoder (pcm.map toI16)
  (⟨s.voiceSeq, out.1, isEnd, Wire.positionBytes client state⟩,
    { s with encoder := out.2, voiceSeq := s.voiceSeq + 2 })

def onMicPcm (s : TalkState E) (pcm : List Float32) (gateState sendState : CockpitState F32) :
    TalkState E × Option VoicePacket :=
  let gate := transmitGate client.role gateState
  match s.run.session.crypt with
  | none => (s, none)
  | some _ =>
    let pcm := if gate.2 != 1 then pcm.map (· * gate.2) else pcm
    if gate.1 then
      let out := sendAudio encode client s pcm sendState false
      ({ out.2 with wasTransmitting := true }, some out.1)
    else if s.wasTransmitting then
      let out := sendAudio encode client s pcm sendState true
      ({ out.2 with wasTransmitting := false }, some out.1)
    else (s, none)

namespace TalkState

def init (encoder : E) (zone : SharedCockpitZone) : TalkState E := ⟨.init zone, encoder, 0, false⟩

def next (s : TalkState E) : TalkEvent → TalkState E
  | .voip e => { s with run := s.run.step client.toMumbleVoipClient e }
  | .micPcm pcm gateState sendState => (onMicPcm encode client s pcm gateState sendState).1

/-- the calls of `on_mic_pcm` along a run -/
def calls (s : TalkState E) : List TalkEvent → List MicCall
  | [] => []
  | .voip e :: es => (s.next encode client (.voip e)).calls es
  | .micPcm pcm gateState sendState :: es =>
    ⟨s.run.session.crypt.isSome, (transmitGate client.role gateState).1,
      (onMicPcm encode client s pcm gateState sendState).2⟩ ::
      (s.next encode client (.micPcm pcm gateState sendState)).calls es

end TalkState

/-! ## What a call does -/

theorem onMicPcm_noCrypt {s : TalkState E} (h : s.run.session.crypt = none) (pcm : List Float32)
    (gateState sendState : CockpitState F32) : onMicPcm encode client s pcm gateState sendState = (s, none) := by
  simp only [onMicPcm, h]

/-- neither the gate is open nor was it -/
theorem onMicPcm_silent {s : TalkState E} {gateState : CockpitState F32}
    (hopen : (transmitGate client.role gateState).1 = false) (hwas : s.wasTransmitting = false) (pcm : List Float32)
    (sendState : CockpitState F32) : onMicPcm encode client s pcm gateState sendState = (s, none) := by
  unfold onMicPcm
  dsimp only
  split
  · rfl
  · rw [hopen, hwas]
    rfl

/-- the gate is open or was: a packet with the next number, and the flag follows the gate -/
theorem onMicPcm_sends {s : TalkState E} (hkeyed : s.run.session.crypt.isSome = true) {gateState : CockpitState F32}
    (h : (transmitGate client.role gateState).1 = true ∨ s.wasTransmitting = true) (pcm : List Float32)
    (sendState : CockpitState F32) :
    let r := onMicPcm encode client s pcm gateState sendState
    r.1.run = s.run ∧ r.1.wasTransmitting = (transmitGate client.role gateState).1 ∧ r.1.voiceSeq = s.voiceSeq + 2 ∧
      ∃ packet, r.2 = some packet ∧ packet.seqNum = s.voiceSeq ∧
        packet.isEnd = !(transmitGate client.role gateState).1 := by
  obtain ⟨crypt, hcrypt⟩ := Option.isSome_iff_exists.1 hkeyed
  cases hopen : (transmitGate client.role gateState).1 with
  | true =>
    simp only [onMicPcm, hcrypt, hopen, if_true]
    exact ⟨rfl, trivial, rfl, _, rfl, rfl, rfl⟩
  | false =>
    have hwas : s.wasTransmitting = true := by simpa [hopen] using h
    simp only [onMicPcm, hcrypt, hopen, hwas, if_true]
    exact ⟨rfl, rfl, rfl, _, rfl, rfl, rfl⟩

/-! ## Talkspurts -/

/-- the gate at the previous call; `was` is the gate before the first one -/
def gateBefore (was : Bool) (cs : List MicCall) : ℕ → Bool
  | 0 => was
  | k + 1 => (cs[k]?.map MicCall.gateOpen).getD false

theorem gateBefore_cons (was : Bool) (c : MicCall) (cs : List MicCall) (k : ℕ) :
    gateBefore was (c :: cs) (k + 1) = gateBefore c.gateOpen cs k := by
  cases k <;> rfl

/-- the call emits a packet exactly if its gate is open or was open before, flagged if its own is closed -/
def MicCall.Framed (c : MicCall) (was : Bool) : Prop :=
  (c.packet.isSome = true ↔ c.gateOpen = true ∨ was = true) ∧ ∀ p, c.packet = some p → p.isEnd = !c.gateOpen

/-- the calls made with a crypt state -/
def TalkState.keyedCalls (s : TalkState E) (es : List TalkEvent) : List MicCall :=
  (s.calls encode client es).filter MicCall.keyed

theorem TalkState.keyedCalls_noCrypt {s : TalkState E} (h : s.run.session.crypt = none) (pcm : List Float32)
    (gateState sendState : CockpitState F32) (es : List TalkEvent) :
    s.keyedCalls encode client (.micPcm pcm gateState sendState :: es) = s.keyedCalls encode client es := by
  have hnext : s.next encode client (.micPcm pcm gateState sendState) = s :=
    congrArg Prod.fst (onMicPcm_noCrypt encode client h pcm gateState sendState)
  simp only [keyedCalls, calls, hnext, h]
  rfl

theorem TalkState.keyedCalls_keyed {s : TalkState E} (h : s.run.session.crypt.isSome = true) (pcm : List Float32)
    (gateState sendState : CockpitState F32) (es : List TalkEvent) :
    s.keyedCalls encode client (.micPcm pcm gateState sendState :: es) =
      ⟨true, (transmitGate client.role gateState).1, (onMicPcm encode client s pcm gateState sendState).2⟩ ::
        (s.next encode client (.micPcm pcm gateState sendState)).keyedCalls encode client es := by
  simp only [keyedCalls, calls, h, List.filter_cons, if_true]

/-- one call with a crypt state -/
theorem framed_micPcm {s : TalkState E} (h : s.run.session.crypt.isSome = true) (pcm : List Float32)
    (gateState sendState : CockpitState F32) :
    (onMicPcm encode client s pcm gateState sendState).1.wasTransmitting = (transmitGate client.role gateState).1 ∧
    MicCall.Framed ⟨true, (transmitGate client.role gateState).1,
      (onMicPcm encode client s pcm gateState sendState).2⟩ s.wasTransmitting := by
  by_cases hsend : (transmitGate client.role gateState).1 = true ∨ s.wasTransmitting = true
  · obtain ⟨-, hwas, -, packet, hpacket, -, hend⟩ := onMicPcm_sends encode client h hsend pcm sendState
    refine ⟨hwas, iff_of_true ?_ hsend, ?_⟩
    · rw [hpacket]
      rfl
    · intro p hp
      rw [hpacket] at hp
      cases hp
      exact hend
  · rw [not_or, Bool.not_eq_true, Bool.not_eq_true] at hsend
    obtain ⟨hopen, hwas⟩ := hsend
    rw [onMicPcm_silent encode client hopen hwas, hopen, hwas]
    exact ⟨rfl, by simp, fun p hp => by cases hp⟩

/-- every call is framed by its gate and the one before it -/
theorem framed_calls (s : TalkState E) (es : List TalkEvent) (k : ℕ) (c : MicCall)
    (hc : (s.keyedCalls encode client es)[k]? = some c) :
    c.Framed (gateBefore s.wasTransmitting (s.keyedCalls encode client es) k) := by
  induction es generalizing s k with
  | nil => cases hc
  | cons e es ih =>
    cases e with
    | voip e => exact ih (s.next encode client (.voip e)) k hc
    | micPcm pcm gateState sendState =>
      cases hcrypt : s.run.session.crypt with
      | none =>
        rw [TalkState.keyedCalls_noCrypt encode client hcrypt] at hc ⊢
        exact ih s k hc
      | some crypt =>
        have hkeyed : s.run.session.crypt.isSome = true := by rw [hcrypt]; rfl
        obtain ⟨hwas, hframed⟩ := framed_micPcm encode client hkeyed pcm gateState sendState
        rw [TalkState.keyedCalls_keyed encode client hkeyed] at hc ⊢
        cases k with
        | zero =>
          cases hc
          exact hframed
        | succ k =>
          have hrest := ih (s.next encode client (.micPcm pcm gateState sendState)) k hc
          rw [gateBefore_cons, ← hwas]
          exact hrest

/-- the packets of a run, in order -/
def TalkState.packets (s : TalkState E) (es : List TalkEvent) : List VoicePacket :=
  (s.calls encode client es).filterMap MicCall.packet

/-- a call emits nothing and takes no number, or one packet with the next number -/
theorem numbered_micPcm (s : TalkState E) (pcm : List Float32) (gateState sendState : CockpitState F32) :
    let r := onMicPcm encode client s pcm gateState sendState
    r.2 = none ∧ r.1.voiceSeq = s.voiceSeq ∨
      ∃ packet, r.2 = some packet ∧ packet.seqNum = s.voiceSeq ∧ r.1.voiceSeq = s.voiceSeq + 2 := by
  cases hcrypt : s.run.session.crypt with
  | none =>
    rw [onMicPcm_noCrypt encode client hcrypt]
    exact Or.inl ⟨rfl, rfl⟩
  | some crypt =>
    have hkeyed : s.run.session.crypt.isSome = true := by rw [hcrypt]; rfl
    by_cases hsend : (transmitGate client.role gateState).1 = true ∨ s.wasTransmitting = true
    · obtain ⟨-, -, hseq, packet, hpacket, hnum, -⟩ := onMicPcm_sends encode client hkeyed hsend pcm sendState
      exact Or.inr ⟨packet, hpacket, hnum, hseq⟩
    · rw [not_or, Bool.not_eq_true, Bool.not_eq_true] at hsend
      rw [onMicPcm_silent encode client hsend.1 hsend.2]
      exact Or.inl ⟨rfl, rfl⟩

theorem numbered_packets (s : TalkState E) (es : List TalkEvent) (n : ℕ) (p : VoicePacket)
    (hp : (s.packets encode client es)[n]? = some p) : p.seqNum = s.voiceSeq + UInt64.ofNat (2 * n) := by
  induction es generalizing s n with
  | nil => cases hp
  | cons e es ih =>
    cases e with
    | voip e => exact ih (s.next encode client (.voip e)) n hp
    | micPcm pcm gateState sendState =>
      rcases numbered_micPcm encode client s pcm gateState sendState with ⟨hnone, hseq⟩ | ⟨packet, hsome, hnum, hseq⟩
      · have hskip : s.packets encode client (.micPcm pcm gateState sendState :: es) =
            (s.next encode client (.micPcm pcm gateState sendState)).packets encode client es := by
          simp only [TalkState.packets, TalkState.calls, List.filterMap_cons, hnone]
        rw [hskip] at hp
        rw [← hseq]
        exact ih _ n hp
      · have hcons : s.packets encode client (.micPcm pcm gateState sendState :: es) =
            packet :: (s.next encode client (.micPcm pcm gateState sendState)).packets encode client es := by
          simp only [TalkState.packets, TalkState.calls, List.filterMap_cons, hsome]
        rw [hcons] at hp
        cases n with
        | zero =>
          cases hp
          rw [hnum]
          simp
        | succ n =>
          have hrest := ih _ n hp
          calc p.seqNum = (onMicPcm encode client s pcm gateState sendState).1.voiceSeq + UInt64.ofNat (2 * n) := hrest
            _ = s.voiceSeq + (2 + UInt64.ofNat (2 * n)) := by rw [hseq, UInt64.add_assoc]
            _ = s.voiceSeq + UInt64.ofNat (2 * (n + 1)) := by
              rw [Nat.mul_succ, Nat.add_comm, UInt64.ofNat_add]
              rfl

/-- Talkspurt framing. From a new session on, the k-th call made with a crypt state emits a packet exactly if its gate
is open or that of the previous such call was; the end flag is set exactly if its own gate is closed, so a terminator
is sent at the first closed gate after an open one and nowhere else. A call without a crypt state changes nothing and
emits nothing. The n-th packet is numbered 2n. -/
theorem talkspurt_framing (encoder : E) (zone : SharedCockpitZone) (es : List TalkEvent) :
    let s := TalkState.init encoder zone
    let cs := s.keyedCalls encode client es
    (∀ k (hk : k < cs.length),
      (cs[k].packet.isSome = true ↔ cs[k].gateOpen = true ∨ 0 < k ∧ cs[k - 1].gateOpen = true) ∧
      (∀ p, cs[k].packet = some p → (p.isEnd = true ↔ cs[k].gateOpen = false)) ∧
      ((∃ p, cs[k].packet = some p ∧ p.isEnd = true) ↔
        cs[k].gateOpen = false ∧ 0 < k ∧ cs[k - 1].gateOpen = true)) ∧
    (∀ before pcm gateState sendState, (Runs.run (TalkState.next encode client) s before).run.session.crypt = none →
      onMicPcm encode client (Runs.run (TalkState.next encode client) s before) pcm gateState sendState =
        (Runs.run (TalkState.next encode client) s before, none)) ∧
    ∀ n (hn : n < (s.packets encode client es).length),
      (s.packets encode client es)[n].seqNum = UInt64.ofNat (2 * n) := by
  intro s cs
  refine ⟨?_, ?_, ?_⟩
  · intro k hk
    obtain ⟨hsome, hend⟩ := framed_calls encode client s es k cs[k] (List.getElem?_eq_getElem hk)
    -- before the first call the gate is closed
    have hbefore : gateBefore s.wasTransmitting cs k = true ↔ 0 < k ∧ cs[k - 1].gateOpen = true := by
      cases k with
      | zero => simp [gateBefore, s, TalkState.init]
      | succ k => simp [gateBefore, List.getElem?_eq_getElem (Nat.lt_of_succ_lt hk)]
    rw [hbefore] at hsome
    refine ⟨hsome, ?_, ?_⟩
    · intro p hp
      rw [hend p hp]
      simp
    · refine ⟨?_, ?_⟩
      · intro ⟨p, hp, hlast⟩
        have hclosed : cs[k].gateOpen = false := by
          rw [hend p hp] at hlast
          simpa using hlast
        have hemits : cs[k].packet.isSome = true := by rw [hp]; rfl
        exact ⟨hclosed, (hsome.1 hemits).resolve_left (by rw [hclosed]; exact Bool.false_ne_true)⟩
      · intro ⟨hclosed, hopened⟩
        obtain ⟨p, hp⟩ := Option.isSome_iff_exists.1 (hsome.2 (Or.inr hopened))
        refine ⟨p, hp, ?_⟩
        rw [hend p hp, hclosed]
        rfl
  · exact fun before pcm gateState sendState h => onMicPcm_noCrypt encode client h pcm gateState sendState
  · intro n hn
    rw [numbered_packets encode client s es n _ (List.getElem?_eq_getElem hn)]
    exact UInt64.zero_add _

end

end MumbledFlight

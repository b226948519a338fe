/-
A conversation: any number of parties, each with the whole session of `client.rs` and `session.rs`, and the voice packets
between them.

The server and the network are an assumption: a packet that a party has sent may reach any party, at any later time and
in any order, more than once or never, under the session id of its sender. Control messages are arbitrary. What
strangers send may be anything, too.

Results, for every interleaving:
- `lastGate_of_wasTransmitting`: a session that is to end a talkspurt had its gate open at its last frame.
- `sent_eq`: what the server has of a party is what the party has sent.
- `conversation_provenance`: whatever is heard under a party's session id, and did not come from a stranger, was captured
  by this party's microphone while its gate was open, or with the very next frame, which ends the talkspurt; nobody hears
  a party whose gate stays closed.
-/
import Mathlib.Logic.Function.Basic
import MumbledFlight.Voip.Duplex

namespace MumbledFlight

/-! ## A session keeps its key -/

theorem Session.movePending_crypt (s : Session) (name : String) (cid : UInt32) :
    (s.movePending name cid).1.crypt = s.crypt := by
  unfold movePending
  split
  · split_ifs <;> rfl
  · rfl

theorem Session.onChannelState_crypt (s : Session) (cs : ChannelStateMsg) (target : String) :
    (s.onChannelState cs target).1.crypt = s.crypt := by
  unfold onChannelState
  split
  · dsimp only
    split_ifs
    · split
      · rfl
      · exact movePending_crypt _ _ _
    · exact movePending_crypt _ _ _
  · rfl

theorem Session.onCryptSetup_crypt {s : Session} (h : s.crypt.isSome = true) (setup : CryptSetupMsg) :
    (s.onCryptSetup setup).crypt.isSome = true := by
  unfold onCryptSetup
  dsimp only
  split_ifs
  · exact h
  · split
    · rfl
    · exact h

/-- only a CryptSetup touches the key, and it never takes it away -/
theorem VoipRun.keyed_step {client : MumbleVoipClient} {r : VoipRun} (h : r.session.crypt.isSome = true)
    (e : VoipEvent) : (r.step client e).session.crypt.isSome = true := by
  rw [step_session]
  cases e with
  | cockpitZone zone => exact h
  | zoneCheck =>
    obtain ⟨pending, hfields⟩ := Session.checkZoneChannel_fields r.session client r.zone
    rw [handle, hfields]
    exact h
  | control msg =>
    unfold handle Session.onControlMsg
    cases msg with
    | cryptSetup m => exact Session.onCryptSetup_crypt h m
    | channelState m =>
      dsimp only
      rw [Session.onChannelState_crypt]
      exact h
    | channelRemove m => exact h
    | serverSync m =>
      obtain ⟨joined, hfields⟩ := Session.onServerSync_fields r.session m client
      dsimp only
      rw [hfields]
      exact h
    | userState m =>
      obtain ⟨zone, hfields⟩ := Session.onUserState_fields r.session m client
      dsimp only
      rw [hfields]
      exact h
    | permissionDenied => exact h
    | other => exact h

/-! ## The gate behind a packet -/

section

variable {E : Type} (encode : E → List Int16 → List UInt8 × E) (client : AudioClient)

/-- the gate's cockpit at a captured frame -/
def TalkEvent.gate : TalkEvent → Option (CockpitState F32)
  | .voip _ => none
  | .micPcm _ gateState _ => some gateState

/-- the gate's cockpit at the last captured frame -/
def lastGate (es : List TalkEvent) : Option (CockpitState F32) := (es.filterMap TalkEvent.gate).getLast?

/-- the gate is open for a frame, or was for the one before -/
def OnAir (before : List TalkEvent) (gateState : CockpitState F32) : Prop :=
  (transmitGate client.role gateState).1 = true ∨
    ∃ previous, lastGate before = some previous ∧ (transmitGate client.role previous).1 = true

variable {encode client}

theorem final_talk_snoc (s : TalkState E) (es : List TalkEvent) (e : TalkEvent) :
    Transducer.final (TalkState.emit encode client) s (es ++ [e]) =
      (Transducer.final (TalkState.emit encode client) s es).next encode client e :=
  Runs.run_snoc s es e

theorem lastGate_of_wasTransmitting (encoder : E) (zone : SharedCockpitZone) (es : List TalkEvent) :
    let s := Transducer.final (TalkState.emit encode client) (.init encoder zone) es
    s.wasTransmitting = true → s.run.session.crypt.isSome = true ∧
      ∃ gateState, lastGate es = some gateState ∧ (transmitGate client.role gateState).1 = true := by
  induction es using List.reverseRecOn with
  | nil =>
    intro s hwas
    cases hwas
  | append_singleton es e ih =>
    intro s hwas
    have hs : s = (Transducer.final (TalkState.emit encode client) (.init encoder zone) es).next encode client e :=
      final_talk_snoc _ es e
    rw [hs] at hwas ⊢
    generalize Transducer.final (TalkState.emit encode client) (TalkState.init encoder zone) es = t at ih hwas ⊢
    cases e with
    | voip e =>
      obtain ⟨hkeyed, gateState, hlast, hopen⟩ := ih hwas
      have hgate : lastGate (es ++ [.voip e]) = lastGate es := by simp [lastGate, TalkEvent.gate]
      exact ⟨VoipRun.keyed_step hkeyed e, gateState, hgate.trans hlast, hopen⟩
    | micPcm pcm gateState sendState =>
      have hgate : lastGate (es ++ [.micPcm pcm gateState sendState]) = some gateState := by
        simp [lastGate, TalkEvent.gate]
      cases hcrypt : t.run.session.crypt with
      | none =>
        -- it was not transmitting before the frame either
        have hnext : t.next encode client (.micPcm pcm gateState sendState) = t :=
          congrArg Prod.fst (onMicPcm_noCrypt encode client hcrypt pcm gateState sendState)
        rw [hnext] at hwas
        obtain ⟨hkeyed, -⟩ := ih hwas
        rw [hcrypt] at hkeyed
        cases hkeyed
      | some crypt =>
        have hkeyed : t.run.session.crypt.isSome = true := by rw [hcrypt]; rfl
        have hrun := onMicPcm_run encode client t pcm gateState sendState
        have hopen := (framed_micPcm encode client hkeyed pcm gateState sendState).1
        refine ⟨?_, gateState, hgate, hopen.symm.trans hwas⟩
        change (onMicPcm encode client t pcm gateState sendState).1.run.session.crypt.isSome = true
        rw [hrun]
        exact hkeyed

/-- a packet is of a frame on air -/
theorem onAir_of_packet {encoder : E} {zone : SharedCockpitZone} {es : List TalkEvent} {pcm : List Float32}
    {gateState sendState : CockpitState F32} {p : VoicePacket}
    (h : (onMicPcm encode client (Transducer.final (TalkState.emit encode client) (.init encoder zone) es) pcm gateState
      sendState).2 = some p) : OnAir client es gateState ∧ p.positionInfo = Wire.positionBytes client sendState := by
  have hlast : (Transducer.final (TalkState.emit encode client) (.init encoder zone) es).wasTransmitting = true → _ :=
    lastGate_of_wasTransmitting encoder zone es
  generalize Transducer.final (TalkState.emit encode client) (.init encoder zone) es = s at h hlast
  unfold onMicPcm at h
  dsimp only at h
  split at h
  · cases h
  · generalize (if (transmitGate client.role gateState).2 != 1 then _ else pcm) = scaled at h
    split_ifs at h with hopen hwas
    · cases h
      exact ⟨Or.inl hopen, rfl⟩
    · cases h
      exact ⟨Or.inr (hlast hwas).2, rfl⟩

end

/-! ## Parties and packets -/

/-- the state of a conversation: each party's session, and what the server has of each party, oldest first -/
structure Conversation (ι E D : Type) where
  party : ι → DuplexState E D
  sent : ι → List VoicePacket

/-- what a party's handler reads of the world outside, for a datagram -/
structure Reception where
  decoderCreated : Bool
  state : CockpitState F32
  width : F32

inductive ConversationEvent (ι : Type) where
  | control (i : ι) (e : VoipEvent)
  | speak (i : ι) (pcm : List Float32) (gateState sendState : CockpitState F32)
  /-- packet n of party i reaches party j -/
  | relay (i j : ι) (n : ℕ) (r : Reception)
  /-- what somebody else sends reaches party j -/
  | stranger (j : ι) (dg : Datagram)

/-- a packet as the server passes it on -/
def VoicePacket.relayed (p : VoicePacket) (sessionId : UInt32) (r : Reception) : Datagram :=
  ⟨some (.audio sessionId (.opus p.payload p.isEnd) p.positionInfo), r.decoderCreated, r.state, r.width⟩

/-- the session id that the audio of a datagram is filed under -/
def Datagram.speaker (dg : Datagram) : Option UInt32 :=
  match dg.packet with
  | some (.audio sessionId _ _) => some sessionId
  | _ => none

section

variable {ι E D α : Type} [DecidableEq ι] [Field α] [DecidableEq α] (encode : E → List Int16 → List UInt8 × E)
  (rx : Receiver D α) (client : ι → AudioClient) (sid : ι → UInt32)

namespace Conversation

def init (encoder : E) (zone : ι → SharedCockpitZone) : Conversation ι E D :=
  ⟨fun i => .init encoder (zone i), fun _ => []⟩

/-- who takes an event, and as what -/
def resolve (c : Conversation ι E D) : ConversationEvent ι → Option (ι × DuplexEvent)
  | .control i e => some (i, .voip e)
  | .speak i pcm gateState sendState => some (i, .micPcm pcm gateState sendState)
  | .relay i j n r => (c.sent i)[n]?.map fun p => (j, .udpRecv (p.relayed (sid i) r))
  | .stranger j dg => some (j, .udpRecv dg)

/-- party i takes an event -/
def act (c : Conversation ι E D) (i : ι) (e : DuplexEvent) : Conversation ι E D × List (ι × DuplexOutput α) :=
  let out := DuplexState.step encode rx (client i) (c.party i) e
  (⟨Function.update c.party i out.1, Function.update c.sent i (c.sent i ++ out.2.filterMap DuplexOutput.sent)⟩,
    out.2.map fun o => (i, o))

def step (c : Conversation ι E D) (e : ConversationEvent ι) : Conversation ι E D × List (ι × DuplexOutput α) :=
  match c.resolve sid e with
  | some (i, e) => c.act encode rx client i e
  | none => (c, [])

/-! ## Following a party -/

/-- the outputs of party i -/
def ofParty (i : ι) (o : ι × DuplexOutput α) : Option (DuplexOutput α) := if o.1 = i then some o.2 else none

/-- the packets of party i -/
def sentBy (i : ι) (o : ι × DuplexOutput α) : Option VoicePacket := (ofParty i o).bind DuplexOutput.sent

/-- what the sending half of party i takes of an event -/
def talkOf (i : ι) : ConversationEvent ι → Option TalkEvent
  | .control j e => if j = i then some (.voip e) else none
  | .speak j pcm gateState sendState => if j = i then some (.micPcm pcm gateState sendState) else none
  | .relay _ _ _ _ | .stranger _ _ => none

variable {encode rx client sid}

omit [Field α] [DecidableEq α] in
theorem sentBy_act (i : ι) (outs : List (DuplexOutput α)) (j : ι) :
    (outs.map fun o => (j, o)).filterMap (sentBy i) = if j = i then outs.filterMap DuplexOutput.sent else [] := by
  rw [List.filterMap_map]
  split_ifs with h
  · exact List.filterMap_congr fun o _ => by simp [sentBy, ofParty, h]
  · exact List.filterMap_eq_nil_iff.2 fun o _ => by simp [sentBy, ofParty, h]

/-- what the server has of a party is what the party has sent -/
theorem sent_step (c : Conversation ι E D) (e : ConversationEvent ι) (i : ι) :
    (c.step encode rx client sid e).1.sent i = c.sent i ++ (c.step encode rx client sid e).2.filterMap (sentBy i) := by
  unfold step
  cases hresolve : c.resolve sid e with
  | none => simp
  | some r =>
    obtain ⟨j, e'⟩ := r
    dsimp only [act]
    rw [sentBy_act]
    by_cases h : j = i
    · subst h
      simp
    · simp [h, Function.update_of_ne (Ne.symm h)]

theorem sent_eq (c : Conversation ι E D) (es : List (ConversationEvent ι)) (i : ι) :
    (Transducer.final (step encode rx client sid) c es).sent i =
      c.sent i ++ (Transducer.outputs (step encode rx client sid) c es).filterMap (sentBy i) := by
  induction es generalizing c with
  | nil => simp [Transducer.final]
  | cons e es ih =>
    have hfinal : Transducer.final (step encode rx client sid) c (e :: es) =
        Transducer.final (step encode rx client sid) (c.step encode rx client sid e).1 es := rfl
    rw [hfinal, ih, sent_step, Transducer.outputs_cons, List.filterMap_append, List.append_assoc]
    rfl

/-- what another party takes, or this one without its sending half, leaves that half alone -/
theorem act_dropped (c : Conversation ι E D) {i j : ι} {e : DuplexEvent} (h : j = i → e.talk = none) :
    ((c.act encode rx client j e).1.party i).talk = (c.party i).talk ∧
    (c.act encode rx client j e).2.filterMap (sentBy i) = [] := by
  dsimp only [act]
  rw [sentBy_act]
  by_cases hj : j = i
  · subst hj
    have hstep := (MumbledFlight.talk_projects encode rx (client j)).dropped (c.party j) e (h rfl)
    simpa using hstep
  · simp [hj, Function.update_of_ne (Ne.symm hj)]

theorem act_taken (c : Conversation ι E D) (i : ι) {e : DuplexEvent} {e' : TalkEvent} (h : e.talk = some e') :
    TalkState.emit encode (client i) (c.party i).talk e' =
      (((c.act encode rx client i e).1.party i).talk, (c.act encode rx client i e).2.filterMap (sentBy i)) := by
  dsimp only [act]
  rw [sentBy_act, if_pos rfl, Function.update_self]
  exact (MumbledFlight.talk_projects encode rx (client i)).taken (c.party i) e e' h

/-- the sending half of a party is that of a session of its own -/
theorem talk_projects (i : ι) : Transducer.Projects (step encode rx client sid) (TalkState.emit encode (client i))
    (fun c => (c.party i).talk) (talkOf i) (sentBy i) where
  dropped := by
    intro c e h
    cases e with
    | control j e =>
      refine act_dropped c fun hj => ?_
      rw [talkOf, if_pos hj] at h
      cases h
    | speak j pcm gateState sendState =>
      refine act_dropped c fun hj => ?_
      rw [talkOf, if_pos hj] at h
      cases h
    | relay i' j n r =>
      cases hsent : (c.sent i')[n]? with
      | none =>
        have hstep : c.step encode rx client sid (.relay i' j n r) = (c, []) := by simp [step, resolve, hsent]
        rw [hstep]
        exact ⟨rfl, rfl⟩
      | some p =>
        have hstep : c.step encode rx client sid (.relay i' j n r) =
            c.act encode rx client j (.udpRecv (p.relayed (sid i') r)) := by simp [step, resolve, hsent]
        rw [hstep]
        exact act_dropped c fun _ => rfl
    | stranger j dg => exact act_dropped c fun _ => rfl
  taken := by
    intro c e e' h
    cases e with
    | control j e =>
      simp only [talkOf] at h
      split_ifs at h with hj
      subst hj
      exact act_taken c j h
    | speak j pcm gateState sendState =>
      simp only [talkOf] at h
      split_ifs at h with hj
      subst hj
      exact act_taken c j h
    | relay i' j n r => cases h
    | stranger j dg => cases h

/-- what a party has sent, it has captured -/
theorem origin_of_sent {encoder : E} {zone : ι → SharedCockpitZone} {es : List (ConversationEvent ι)} {i : ι}
    {p : VoicePacket} (h : p ∈ (Transducer.final (step encode rx client sid) (init encoder zone) es).sent i) :
    ∃ before pcm gateState sendState after, es = before ++ .speak i pcm gateState sendState :: after ∧
      (onMicPcm encode (client i) (Transducer.final (TalkState.emit encode (client i)) (.init encoder (zone i))
        (before.filterMap (talkOf i))) pcm gateState sendState).2 = some p := by
  rw [sent_eq] at h
  obtain ⟨o, ho, hp⟩ := List.mem_filterMap.1 h
  obtain ⟨before, e, after, hes, hmem⟩ := Transducer.mem_outputs_iff.1 ho
  have hemitted : p ∈ ((Transducer.final (step encode rx client sid) (init encoder zone) before).step encode rx client
      sid e).2.filterMap (sentBy i) := List.mem_filterMap.2 ⟨o, hmem, hp⟩
  have hprojects : Transducer.Projects (step encode rx client sid) (TalkState.emit encode (client i))
      (fun c => (c.party i).talk) (talkOf i) (sentBy i) := talk_projects i
  cases htalk : talkOf i e with
  | none =>
    rw [(hprojects.dropped _ e htalk).2] at hemitted
    cases hemitted
  | some e' =>
    have hstate : ((Transducer.final (step encode rx client sid) (init encoder zone) before).party i).talk =
        Transducer.final (TalkState.emit encode (client i)) (.init encoder (zone i)) (before.filterMap (talkOf i)) :=
      hprojects.final _ before
    have htaken := hprojects.taken (Transducer.final (step encode rx client sid) (init encoder zone) before) e e' htalk
    rw [hstate] at htaken
    replace hemitted : p ∈ (TalkState.emit encode (client i) (Transducer.final (TalkState.emit encode (client i))
        (.init encoder (zone i)) (before.filterMap (talkOf i))) e').2 := by rw [htaken]; exact hemitted
    cases e with
    | control j e =>
      simp only [talkOf] at htalk
      split_ifs at htalk
      cases htalk
      cases hemitted
    | speak j pcm gateState sendState =>
      simp only [talkOf] at htalk
      split_ifs at htalk with hj
      subst hj
      cases htalk
      exact ⟨before, pcm, gateState, sendState, after, hes, Option.mem_toList.1 hemitted⟩
    | relay i' j n r => cases htalk
    | stranger j dg => cases htalk

/-- what is heard was received -/
theorem received_of_heard {c : Conversation ι E D} {e : ConversationEvent ι} {j : ι} {frame : UInt32 × List α}
    (h : (j, .frame frame) ∈ (c.step encode rx client sid e).2) :
    ∃ dg, frame ∈ (onUdpRecv rx (client j) (c.party j).listen dg).2 ∧
      (e = .stranger j dg ∨ ∃ i n r p, e = .relay i j n r ∧ (c.sent i)[n]? = some p ∧ dg = p.relayed (sid i) r) := by
  unfold step at h
  cases hresolve : c.resolve sid e with
  | none =>
    rw [hresolve] at h
    cases h
  | some a =>
    obtain ⟨j', e'⟩ := a
    rw [hresolve] at h
    obtain ⟨o, ho, heq⟩ := List.mem_map.1 h
    obtain ⟨rfl, rfl⟩ := Prod.mk.inj heq
    cases e' with
    | voip e' => cases ho
    | micPcm pcm gateState sendState =>
      obtain ⟨p, -, hp⟩ := List.mem_map.1 ho
      cases hp
    | udpRecv dg =>
      obtain ⟨frame', hframe, hsame⟩ := List.mem_map.1 ho
      cases hsame
      refine ⟨dg, hframe, ?_⟩
      cases e with
      | control i e => cases hresolve
      | speak i pcm gateState sendState => cases hresolve
      | relay i j n r =>
        obtain ⟨p, hp, hdg⟩ := Option.map_eq_some_iff.1 hresolve
        cases hdg
        exact Or.inr ⟨i, n, r, p, rfl, hp, rfl⟩
      | stranger j dg =>
        cases hresolve
        exact Or.inl rfl

end Conversation

open Conversation

/-- no stranger's packets are filed under a session id -/
def Unforged (es : List (ConversationEvent ι)) (sessionId : UInt32) : Prop :=
  ∀ j dg, .stranger j dg ∈ es → dg.speaker ≠ some sessionId

/-- a party that is never on air -/
def Silent (i : ι) (es : List (ConversationEvent ι)) : Prop :=
  ∀ pcm gateState sendState, .speak i pcm gateState sendState ∈ es → (transmitGate (client i).role gateState).1 = false

/-- a frame that a party makes of a packet that some party captured before: on air, with the position it had then -/
def HeardFrom (encoder : E) (zone : ι → SharedCockpitZone) (es : List (ConversationEvent ι)) (i j : ι)
    (frame : UInt32 × List α) : Prop :=
  ∃ before pcm gateState sendState between n r after packet path decoder mono,
    es = before ++ .speak i pcm gateState sendState :: (between ++ .relay i j n r :: after) ∧ frame.1 = sid i ∧
    OnAir (client i) (before.filterMap (talkOf i)) gateState ∧
    (onMicPcm encode (client i) (Transducer.final (TalkState.emit encode (client i)) (.init encoder (zone i))
      (before.filterMap (talkOf i))) pcm gateState sendState).2 = some packet ∧
    let heard := (Transducer.final (step encode rx client sid) (.init encoder zone)
      (before ++ .speak i pcm gateState sendState :: between)).party j
    let positionInfo := Wire.positionBytes (client i) sendState
    renderPath (client j) heard.talk.run.session.mySession r.state (sid i) positionInfo = some path ∧
    rx.decoderFor (heard.decoders.lookup (sid i)) (packet.relayed (sid i) r) = some decoder ∧
    (rx.decodeOpusPacket decoder packet.payload).1 = some mono ∧
    rx.rendered path mono positionInfo (packet.relayed (sid i) r) = frame.2

variable {encode rx client sid}

theorem heardFrom_of_heard {encoder : E} {zone : ι → SharedCockpitZone} {es : List (ConversationEvent ι)} {j : ι}
    {frame : UInt32 × List α} (hunforged : Unforged es frame.1)
    (h : (j, .frame frame) ∈ Transducer.outputs (step encode rx client sid) (.init encoder zone) es) :
    ∃ i, HeardFrom encode rx client sid encoder zone es i j frame := by
  obtain ⟨upto, e, after, rfl, hmem⟩ := Transducer.mem_outputs_iff.1 h
  obtain ⟨dg, hframe, hreceived⟩ := received_of_heard hmem
  obtain ⟨payload, positionInfo, vol, data, decoder, mono, hpacket, hacc, hdec, hmono, hout⟩ :=
    mem_onUdpRecv_iff.1 hframe
  obtain ⟨-, ⟨isEnd, rfl⟩, path, hpath, hrendered⟩ := accepted_stereo_iff.1 ⟨vol, hacc, hout⟩
  rcases hreceived with rfl | ⟨i, n, r, packet, rfl, hsent, rfl⟩
  · refine absurd ?_ (hunforged j dg (List.mem_append_right _ List.mem_cons_self))
    rw [Datagram.speaker, hpacket]
  · obtain ⟨before, pcm, gateState, sendState, between, rfl, hpacketed⟩ :=
      origin_of_sent (List.mem_of_getElem? hsent)
    obtain ⟨honAir, hposition⟩ := onAir_of_packet hpacketed
    obtain ⟨hsid, hpayload, hpos⟩ : sid i = frame.1 ∧ packet.payload = data ∧ packet.positionInfo = positionInfo := by
      simp only [VoicePacket.relayed, Option.some.injEq, ClientboundVoice.audio.injEq,
        VoicePacketPayload.opus.injEq] at hpacket
      exact ⟨hpacket.1, hpacket.2.1.1, hpacket.2.2⟩
    subst hpayload
    rw [← hpos, hposition] at hpath hrendered
    rw [← hsid] at hpath hdec
    exact ⟨i, before, pcm, gateState, sendState, between, n, r, after, packet, path, decoder, mono, by simp, hsid.symm,
      honAir, hpacketed, hpath, hdec, hmono, hrendered⟩

/-- a silent party is never on air -/
theorem not_onAir_of_silent {i : ι} {before after : List (ConversationEvent ι)} {pcm : List Float32}
    {gateState sendState : CockpitState F32}
    (h : Silent client i (before ++ .speak i pcm gateState sendState :: after)) :
    ¬OnAir (client i) (before.filterMap (talkOf i)) gateState := by
  rintro (hopen | ⟨previous, hlast, hopen⟩)
  · have hclosed := h pcm gateState sendState (List.mem_append_right _ List.mem_cons_self)
    rw [hclosed] at hopen
    cases hopen
  · obtain ⟨e', he', hgate⟩ := List.mem_filterMap.1 (List.mem_of_getLast? hlast)
    obtain ⟨e, he, htalk⟩ := List.mem_filterMap.1 he'
    cases e with
    | speak i' pcm' gateState' sendState' =>
      simp only [talkOf] at htalk
      split_ifs at htalk with hi
      subst hi
      cases htalk
      cases hgate
      have hclosed := h pcm' previous sendState' (List.mem_append_left _ he)
      rw [hclosed] at hopen
      cases hopen
    | control i' e' =>
      simp only [talkOf] at htalk
      split_ifs at htalk
      cases htalk
      cases hgate
    | relay i' j n r => cases htalk
    | stranger j dg => cases htalk

variable (encode rx client sid)

/-- Who is heard. In every conversation, what a party plays under a session id that no stranger uses comes from a party
with this id: it is the rendering, on the path of the two roles, of a packet that this party made earlier, of a frame
captured on air, with the position it had then. So a party whose gate stays closed is never heard. -/
theorem conversation_provenance (encoder : E) (zone : ι → SharedCockpitZone) (es : List (ConversationEvent ι)) :
    let out := Transducer.outputs (step encode rx client sid) (.init encoder zone : Conversation ι E D) es
    (∀ j frame, (j, .frame frame) ∈ out → Unforged es frame.1 →
      ∃ i, HeardFrom encode rx client sid encoder zone es i j frame) ∧
    ∀ i, (∀ i', sid i' = sid i → Silent client i' es) → Unforged es (sid i) → ∀ j samples,
      (j, .frame (sid i, samples)) ∉ out := by
  intro out
  refine ⟨fun j frame h hunforged => heardFrom_of_heard hunforged h, ?_⟩
  intro i hsilent hunforged j samples h
  obtain ⟨i', before, pcm, gateState, sendState, between, n, r, after, packet, path, decoder, mono, hes, hsid, honAir, -⟩ :=
    heardFrom_of_heard hunforged h
  have hsilent' := hsilent i' hsid.symm
  rw [hes] at hsilent'
  exact not_onAir_of_silent hsilent' honAir

end

end MumbledFlight

/-
The receiving half of a session (`Session::on_udp_recv`, `decode_opus_packet`): datagrams in, stereo frames for the
playback mixer out, each under the session id of its speaker. Every speaker has an Opus decoder of their own, created
with the first packet that is played.

A datagram stands for what `decrypt` makes of it. The Opus decoder is a parameter, an arbitrary state transformer, and so
are the gains of `spatialize`, an arbitrary function of position, cockpit and width; over exact reals they are
`applyWidth` of `pathGains`. Samples are from any field.

Results, for every client and every run of datagrams, control messages and ticks:
- `speaker_projects`: what is played of one speaker is what a client with this speaker alone plays.
- `speaker_isolation`: so the packets of the others may as well not have been sent.
- `frame_provenance`: which packet a frame comes from, and how it is rendered.
- `heard_superposition`: received, queued and mixed, the speakers add up.
-/
import MumbledFlight.Audio.Alignment
import MumbledFlight.Lib.Transducers
import MumbledFlight.Voip.History
import MumbledFlight.Voip.Position

namespace MumbledFlight

/-! ## A datagram -/

/-- `VoicePacketPayload`; only Opus is played -/
inductive VoicePacketPayload where
  | opus (data : List UInt8) (isEnd : Bool)
  | other

/-- `VoicePacket` to the client; target and number are not read -/
inductive ClientboundVoice where
  | ping
  | audio (sessionId : UInt32) (payload : VoicePacketPayload) (positionInfo : Option (List UInt8))

/-- a datagram, and what its handler reads of the world outside the session -/
structure Datagram where
  /-- what `decrypt` returns, if it succeeds -/
  packet : Option ClientboundVoice
  /-- whether `Decoder::new` succeeds, should it be called -/
  decoderCreated : Bool
  state : CockpitState F32
  width : F32

/-- Opus and the scalars -/
structure Receiver (D α : Type) where
  newDecoder : D
  opusDecode : D → List UInt8 → Option (List Int16) × D
  gains : Option (Vec3 F32) → CockpitState F32 → F32 → α × α
  volume : F32 → α

/-- a session with its receiving half; `D` is the state of an Opus decoder -/
structure ListenState (D : Type) where
  run : VoipRun
  decoders : HashMap UInt32 D

inductive ListenEvent where
  | voip (e : VoipEvent)
  | udpRecv (dg : Datagram)

/-! ## The frames of one speaker -/

section

variable {α : Type}

/-- a frame, if it is of speaker `sid` -/
def ofSpeaker (sid : UInt32) (frame : UInt32 × List α) : Option (List α) :=
  if frame.1 = sid then some frame.2 else none

theorem filter_speaker (sid : UInt32) (frames : List (UInt32 × List α)) :
    frames.filter (fun frame => frame.1 = sid) = (frames.filterMap (ofSpeaker sid)).map fun out => (sid, out) := by
  induction frames with
  | nil => rfl
  | cons frame frames ih =>
    by_cases h : frame.1 = sid
    · rw [List.filter_cons_of_pos (by simpa using h), ih,
        List.filterMap_cons_some (b := frame.2) (by simp [ofSpeaker, h]), List.map_cons, ← h]
    · rw [List.filter_cons_of_neg (by simpa using h), ih, List.filterMap_cons_none (by simp [ofSpeaker, h])]

end

/-! ## Handling a datagram -/

namespace Receiver

variable {D α : Type} [Field α] (rx : Receiver D α)

/-- the samples, and the decoder after them -/
def decodeOpusPacket (decoder : D) (data : List UInt8) : Option (List α) × D :=
  if data = [] then (none, decoder) -- not a packet
  else
    let out := rx.opusDecode decoder data
    (out.1.map fun pcm => pcm.map fun x => ((x.toInt : ℤ) : α) / 32767, out.2)

def spatialize (mono : List α) (sourcePos : Option (Vec3 F32)) (state : CockpitState F32) (width : F32) : List α :=
  let gains := rx.gains sourcePos state width
  mono.flatMap fun s => [s * gains.1, s * gains.2]

/-- the volume a client plays what it receives at, if it plays it -/
def rxVol (role : ClientRole) (state : CockpitState F32) : Option α :=
  match role with
  | .pa | .radio _ => none -- these only send
  | .ic => if state.role ≠ .pilot ∨ state.icTog = false then none else some (rx.volume state.icVol)
  | .voice => some 1

/-- up to the decoder: the volume and the Opus data of a packet that is to be played -/
def accepted (client : AudioClient) (session : Session) (sessionId : UInt32) (payload : VoicePacketPayload)
    (state : CockpitState F32) : Option (α × List UInt8) :=
  match session.crypt with
  | none => none
  | some _ =>
    if session.mySession = some sessionId then none -- the own echo
    else
      match rx.rxVol client.role state, payload with
      | some vol, .opus data _ => some (vol, data)
      | _, _ => none

/-- the interphone in both ears, anything else in space -/
def stereo [DecidableEq α] (client : AudioClient) (mono : List α) (positionInfo : Option (List UInt8)) (dg : Datagram)
    (vol : α) : List α :=
  let out := if client.role = .ic then mono.flatMap fun s => [s, s]
    else rx.spatialize mono (Wire.parsePosition positionInfo) dg.state dg.width
  if vol ≠ 1 then out.map fun s => s * vol else out

/-- the decoder of a speaker: the one there is, or a new one -/
def decoderFor (known : Option D) (dg : Datagram) : Option D :=
  match known with
  | some decoder => some decoder
  | none => if dg.decoderCreated then some rx.newDecoder else none

/-- how the frame of a path is rendered; the volume knob is the interphone's -/
def rendered (path : RenderPath) (mono : List α) (positionInfo : Option (List UInt8)) (dg : Datagram) : List α :=
  match path with
  | .flat => mono.flatMap fun s => [s * rx.volume dg.state.icVol, s * rx.volume dg.state.icVol]
  | .spatial _ => rx.spatialize mono (Wire.parsePosition positionInfo) dg.state dg.width

theorem rendered_even (path : RenderPath) (mono : List α) (positionInfo : Option (List UInt8)) (dg : Datagram) :
    2 ∣ (rx.rendered path mono positionInfo dg).length := by
  cases path with
  | flat =>
    refine Blocks.dvd_length_flatMap fun s _ => ?_
    exact dvd_refl 2
  | spatial path =>
    refine Blocks.dvd_length_flatMap fun s _ => ?_
    exact dvd_refl 2

end Receiver

section

variable {D α : Type} [Field α] [DecidableEq α] (rx : Receiver D α) (client : AudioClient)

/-- the frame goes to `playback_tx`, under the speaker's session id -/
def onUdpRecv (s : ListenState D) (dg : Datagram) : ListenState D × List (UInt32 × List α) :=
  match dg.packet with
  | some (.audio sessionId payload positionInfo) =>
    match rx.accepted client s.run.session sessionId payload dg.state with
    | none => (s, [])
    | some (vol, data) =>
      match rx.decoderFor (s.decoders.lookup sessionId) dg with
      | none => (s, [])
      | some decoder =>
        let out := rx.decodeOpusPacket decoder data
        ({ s with decoders := s.decoders.insert sessionId out.2 },
          (out.1.map fun mono => (sessionId, rx.stereo client mono positionInfo dg vol)).toList)
  | _ => (s, [])

namespace ListenState

def init (zone : SharedCockpitZone) : ListenState D := ⟨.init zone, ∅⟩

def step (s : ListenState D) : ListenEvent → ListenState D × List (UInt32 × List α)
  | .voip e => ({ s with run := s.run.step client.toMumbleVoipClient e }, [])
  | .udpRecv dg => onUdpRecv rx client s dg

/-- the frames a run plays, in order -/
def played (zone : SharedCockpitZone) (es : List ListenEvent) : List (UInt32 × List α) :=
  Transducer.outputs (step rx client) (init zone) es

end ListenState

/-! ## A single speaker -/

/-- a client that knows of one speaker only, with at most one decoder -/
structure SpeakerState (D : Type) where
  run : VoipRun
  decoder : Option D

inductive SpeakerEvent where
  | voip (e : VoipEvent)
  | speech (payload : VoicePacketPayload) (positionInfo : Option (List UInt8)) (dg : Datagram)

namespace SpeakerState

def init (zone : SharedCockpitZone) : SpeakerState D := ⟨.init zone, none⟩

/-- the packets of speaker `sid`, one after the other through the one decoder -/
def step (sid : UInt32) (s : SpeakerState D) : SpeakerEvent → SpeakerState D × List (List α)
  | .voip e => ({ s with run := s.run.step client.toMumbleVoipClient e }, [])
  | .speech payload positionInfo dg =>
    match rx.accepted client s.run.session sid payload dg.state with
    | none => (s, [])
    | some (vol, data) =>
      match rx.decoderFor s.decoder dg with
      | none => (s, [])
      | some decoder =>
        let out := rx.decodeOpusPacket decoder data
        ({ s with decoder := some out.2 }, (out.1.map fun mono => rx.stereo client mono positionInfo dg vol).toList)

end SpeakerState

/-- what concerns a client with speaker `sid` only -/
def ListenEvent.speaker (sid : UInt32) : ListenEvent → Option SpeakerEvent
  | .voip e => some (.voip e)
  | .udpRecv dg =>
    match dg.packet with
    | some (.audio sessionId payload positionInfo) =>
      if sessionId = sid then some (.speech payload positionInfo dg) else none
    | _ => none

def ListenState.speaker (sid : UInt32) (s : ListenState D) : SpeakerState D := ⟨s.run, s.decoders.lookup sid⟩

/-- a run without the packets of the other speakers -/
def alone (sid : UInt32) (es : List ListenEvent) : List ListenEvent := es.filter fun e => (e.speaker sid).isSome

/-! ## What is played of one speaker -/

variable {rx client}

/-- a packet of another speaker leaves this one's decoder, and plays nothing under this one's id -/
theorem onUdpRecv_dropped {sid : UInt32} (s : ListenState D) {dg : Datagram}
    (h : (ListenEvent.udpRecv dg).speaker sid = none) :
    (onUdpRecv rx client s dg).1.speaker sid = s.speaker sid ∧
    (onUdpRecv rx client s dg).2.filterMap (ofSpeaker sid) = [] := by
  unfold onUdpRecv
  split
  · rename_i sessionId payload positionInfo hpacket
    have hother : sessionId ≠ sid := by
      rintro rfl
      simp [ListenEvent.speaker, hpacket] at h
    split
    · exact ⟨rfl, rfl⟩
    · rename_i vol data _
      split
      · exact ⟨rfl, rfl⟩
      · rename_i decoder _
        refine ⟨?_, ?_⟩
        · simp only [ListenState.speaker, HashMap.lookup_insert_of, if_neg (Ne.symm hother)]
        · cases (rx.decodeOpusPacket decoder data).1 <;> simp [ofSpeaker, hother]
  · exact ⟨rfl, rfl⟩

/-- a packet of the speaker is handled as if there were no other -/
theorem onUdpRecv_taken {sid : UInt32} (s : ListenState D) {dg : Datagram} {payload : VoicePacketPayload}
    {positionInfo : Option (List UInt8)} (hpacket : dg.packet = some (.audio sid payload positionInfo)) :
    SpeakerState.step rx client sid (s.speaker sid) (.speech payload positionInfo dg) =
      ((onUdpRecv rx client s dg).1.speaker sid, (onUdpRecv rx client s dg).2.filterMap (ofSpeaker sid)) := by
  unfold onUdpRecv SpeakerState.step
  simp only [hpacket, ListenState.speaker]
  split
  · rfl
  · rename_i vol data _
    split
    · rfl
    · rename_i decoder _
      simp only [HashMap.lookup_insert_of, if_true]
      cases (rx.decodeOpusPacket decoder data).1 <;> simp [ofSpeaker]

theorem speaker_projects (sid : UInt32) : Transducer.Projects (ListenState.step rx client)
    (SpeakerState.step rx client sid) (ListenState.speaker sid) (ListenEvent.speaker sid) (ofSpeaker sid) where
  dropped := by
    intro s e h
    cases e with
    | voip e => exact nomatch h
    | udpRecv dg => exact onUdpRecv_dropped s h
  taken := by
    intro s e e' h
    cases e with
    | voip e =>
      obtain rfl := Option.some.inj h
      rfl
    | udpRecv dg =>
      simp only [ListenEvent.speaker] at h
      split at h
      · rename_i sessionId payload positionInfo hpacket
        split_ifs at h with hsid
        subst hsid
        obtain rfl := Option.some.inj h
        exact onUdpRecv_taken s hpacket
      · exact nomatch h

/-! ## Where a frame comes from -/

/-- a packet is played exactly with a crypt state, on the path of its client, if it is Opus -/
theorem accepted_stereo_iff {session : Session} {sid : UInt32} {payload : VoicePacketPayload}
    {positionInfo : Option (List UInt8)} {dg : Datagram} {data : List UInt8} {mono out : List α} :
    (∃ vol, rx.accepted client session sid payload dg.state = some (vol, data) ∧
      rx.stereo client mono positionInfo dg vol = out) ↔
    session.crypt.isSome = true ∧ (∃ isEnd, payload = .opus data isEnd) ∧
      ∃ path, renderPath client session.mySession dg.state sid positionInfo = some path ∧
        rx.rendered path mono positionInfo dg = out := by
  unfold Receiver.accepted renderPath
  cases hcrypt : session.crypt with
  | none => simp
  | some crypt =>
    by_cases hecho : session.mySession = some sid
    · simp [hecho]
    cases payload with
    | other => simp [hecho]
    | opus data' isEnd =>
      cases hrole : client.role with
      | pa => simp [hecho, Receiver.rxVol]
      | radio hasSource => simp [hecho, Receiver.rxVol]
      | voice => simp [hecho, Receiver.rxVol, Receiver.stereo, Receiver.rendered, hrole]
      | ic =>
        by_cases hoff : dg.state.role ≠ .pilot ∨ dg.state.icTog = false
        · simp [hecho, Receiver.rxVol, hoff]
        · by_cases hvol : rx.volume dg.state.icVol = 1
          · simp [hecho, Receiver.rxVol, hoff, Receiver.stereo, Receiver.rendered, hrole, hvol]
          · simp [hecho, Receiver.rxVol, hoff, Receiver.stereo, Receiver.rendered, hrole, hvol, List.map_flatMap]

/-- a frame one datagram makes: a packet that is accepted and that the speaker's decoder decodes -/
theorem mem_onUdpRecv_iff {s : ListenState D} {dg : Datagram} {frame : UInt32 × List α} :
    frame ∈ (onUdpRecv rx client s dg).2 ↔
      ∃ payload positionInfo vol data decoder mono, dg.packet = some (.audio frame.1 payload positionInfo) ∧
        rx.accepted client s.run.session frame.1 payload dg.state = some (vol, data) ∧
        rx.decoderFor (s.decoders.lookup frame.1) dg = some decoder ∧
        (rx.decodeOpusPacket decoder data).1 = some mono ∧ rx.stereo client mono positionInfo dg vol = frame.2 := by
  obtain ⟨sid, out⟩ := frame
  unfold onUdpRecv
  split
  · rename_i sessionId payload positionInfo hpacket
    split
    · rename_i hrefused
      simp only [List.not_mem_nil, false_iff]
      rintro ⟨_, _, _, _, _, _, hp, hacc, -⟩
      rw [hpacket] at hp
      cases hp
      rw [hrefused] at hacc
      cases hacc
    · rename_i vol data hacc
      split
      · rename_i hnone
        simp only [List.not_mem_nil, false_iff]
        rintro ⟨_, _, _, _, _, _, hp, -, hdec, -⟩
        rw [hpacket] at hp
        cases hp
        rw [hnone] at hdec
        cases hdec
      · rename_i decoder hdecoder
        simp only [Option.mem_toList, Option.map_eq_some_iff, Prod.mk.injEq]
        refine ⟨?_, ?_⟩
        · rintro ⟨mono, hmono, rfl, rfl⟩
          exact ⟨payload, positionInfo, vol, data, decoder, mono, hpacket, hacc, hdecoder, hmono, rfl⟩
        · rintro ⟨_, _, _, _, _, mono, hp, hacc', hdec', hmono, rfl⟩
          rw [hpacket] at hp
          cases hp
          rw [hacc] at hacc'
          cases hacc'
          rw [hdecoder] at hdec'
          cases hdec'
          exact ⟨mono, hmono, rfl, rfl⟩
  · rename_i hno
    simp only [List.not_mem_nil, false_iff]
    rintro ⟨payload, positionInfo, _, _, _, _, hp, -⟩
    exact hno _ _ _ hp

theorem mem_step_iff {s : ListenState D} {e : ListenEvent} {frame : UInt32 × List α} :
    frame ∈ (s.step rx client e).2 ↔ ∃ dg, e = .udpRecv dg ∧ frame ∈ (onUdpRecv rx client s dg).2 := by
  cases e with
  | voip e => simp [ListenState.step]
  | udpRecv dg => simp [ListenState.step]

theorem mem_played_iff {zone : SharedCockpitZone} {es : List ListenEvent} {frame : UInt32 × List α} :
    frame ∈ ListenState.played rx client zone es ↔
      ∃ before dg after data isEnd positionInfo path decoder mono, es = before ++ .udpRecv dg :: after ∧
        let s : ListenState D := Transducer.final (ListenState.step rx client) (.init zone) before
        dg.packet = some (.audio frame.1 (.opus data isEnd) positionInfo) ∧ s.run.session.crypt.isSome = true ∧
        renderPath client s.run.session.mySession dg.state frame.1 positionInfo = some path ∧
        rx.decoderFor (s.decoders.lookup frame.1) dg = some decoder ∧
        (rx.decodeOpusPacket decoder data).1 = some mono ∧ rx.rendered path mono positionInfo dg = frame.2 := by
  unfold ListenState.played
  rw [Transducer.mem_outputs_iff]
  refine ⟨?_, ?_⟩
  · rintro ⟨before, e, after, hes, hmem⟩
    obtain ⟨dg, rfl, hframe⟩ := mem_step_iff.1 hmem
    obtain ⟨payload, positionInfo, vol, data, decoder, mono, hpacket, hacc, hdec, hmono, hout⟩ :=
      mem_onUdpRecv_iff.1 hframe
    obtain ⟨hcrypt, ⟨isEnd, rfl⟩, path, hpath, hrendered⟩ := accepted_stereo_iff.1 ⟨vol, hacc, hout⟩
    exact ⟨before, dg, after, data, isEnd, positionInfo, path, decoder, mono, hes, hpacket, hcrypt, hpath, hdec, hmono,
      hrendered⟩
  · rintro ⟨before, dg, after, data, isEnd, positionInfo, path, decoder, mono, hes, hpacket, hcrypt, hpath, hdec, hmono,
      hrendered⟩
    obtain ⟨vol, hacc, hout⟩ := accepted_stereo_iff.2 ⟨hcrypt, ⟨isEnd, rfl⟩, path, hpath, hrendered⟩
    have hframe := mem_onUdpRecv_iff.2 ⟨_, positionInfo, vol, data, decoder, mono, hpacket, hacc, hdec, hmono, hout⟩
    exact ⟨before, .udpRecv dg, after, hes, mem_step_iff.2 ⟨dg, rfl, hframe⟩⟩

theorem played_even {zone : SharedCockpitZone} {es : List ListenEvent} {frame : UInt32 × List α}
    (h : frame ∈ ListenState.played rx client zone es) : 2 ∣ frame.2.length := by
  obtain ⟨_, dg, _, _, _, positionInfo, path, _, mono, -, -, -, -, -, -, hout⟩ := mem_played_iff.1 h
  rw [← hout]
  exact rx.rendered_even path mono positionInfo dg

/-- the public address and the radio only send -/
theorem played_of_sender (h : client.role = .pa ∨ ∃ hasSource, client.role = .radio hasSource)
    (zone : SharedCockpitZone) (es : List ListenEvent) : ListenState.played rx client zone es = [] := by
  refine List.eq_nil_iff_forall_not_mem.2 fun frame hframe => ?_
  obtain ⟨before, dg, _, _, _, positionInfo, path, _, _, -, -, -, hpath, -⟩ := mem_played_iff.1 hframe
  unfold renderPath at hpath
  rcases h with hpa | ⟨hasSource, hradio⟩
  · rw [hpa] at hpath
    split_ifs at hpath
  · rw [hradio] at hpath
    split_ifs at hpath

variable (rx client)

/-- What is played. A frame is played exactly for a datagram of its speaker that carries Opus data, arrives while the
session has a crypt state, has a rendering path (so it is no echo, and the client plays at all), and decodes with the
speaker's decoder; it is the decoded samples rendered on that path. Each frame is even, and a client for the public
address or the radio plays none. -/
theorem frame_provenance (zone : SharedCockpitZone) (es : List ListenEvent) :
    (∀ frame, frame ∈ ListenState.played rx client zone es ↔
      ∃ before dg after data isEnd positionInfo path decoder mono, es = before ++ .udpRecv dg :: after ∧
        let s : ListenState D := Transducer.final (ListenState.step rx client) (.init zone) before
        dg.packet = some (.audio frame.1 (.opus data isEnd) positionInfo) ∧ s.run.session.crypt.isSome = true ∧
        renderPath client s.run.session.mySession dg.state frame.1 positionInfo = some path ∧
        rx.decoderFor (s.decoders.lookup frame.1) dg = some decoder ∧
        (rx.decodeOpusPacket decoder data).1 = some mono ∧ rx.rendered path mono positionInfo dg = frame.2) ∧
    (∀ frame ∈ ListenState.played rx client zone es, 2 ∣ frame.2.length) ∧
    ((client.role = .pa ∨ ∃ hasSource, client.role = .radio hasSource) →
      ListenState.played rx client zone es = []) := by
  refine ⟨fun frame => mem_played_iff, fun frame h => played_even h, ?_⟩
  intro hsender
  exact played_of_sender hsender zone es

/-! ## Speakers do not disturb each other -/

variable {rx client}

theorem played_ofSpeaker (zone : SharedCockpitZone) (sid : UInt32) (es : List ListenEvent) :
    (ListenState.played rx client zone es).filterMap (ofSpeaker sid) =
      Transducer.outputs (SpeakerState.step rx client sid) (.init zone) (es.filterMap (ListenEvent.speaker sid)) :=
  (speaker_projects sid).outputs (.init zone) es

/-- a run of one speaker's packets plays this speaker -/
theorem played_alone (zone : SharedCockpitZone) (sid : UInt32) (es : List ListenEvent) :
    ListenState.played rx client zone (alone sid es) =
      (ListenState.played rx client zone es).filter fun frame => frame.1 = sid := by
  have honly : ∀ frame ∈ ListenState.played rx client zone (alone sid es), decide (frame.1 = sid) = true := by
    intro frame h
    obtain ⟨before, dg, after, data, isEnd, positionInfo, _, _, _, hes, hpacket, -⟩ := mem_played_iff.1 h
    have hmem : ListenEvent.udpRecv dg ∈ alone sid es := by
      rw [hes]
      exact List.mem_append_right _ List.mem_cons_self
    have hspeaker := (List.mem_filter.1 hmem).2
    by_contra hne
    simp [ListenEvent.speaker, hpacket, of_decide_eq_false (Bool.not_eq_true _ ▸ hne)] at hspeaker
  have hdropped : ∀ e : ListenEvent, (e.speaker sid).isSome = false → e.speaker sid = none :=
    fun e h => Option.not_isSome_iff_eq_none.1 (by simp [h])
  calc ListenState.played rx client zone (alone sid es)
      = (ListenState.played rx client zone (alone sid es)).filter fun frame => frame.1 = sid :=
        (List.filter_eq_self.2 honly).symm
    _ = ((ListenState.played rx client zone es).filterMap (ofSpeaker sid)).map fun out => (sid, out) := by
        rw [filter_speaker]
        exact congrArg _ ((speaker_projects sid).outputs_filter hdropped (.init zone) es)
    _ = (ListenState.played rx client zone es).filter fun frame => frame.1 = sid := (filter_speaker _ _).symm

variable (rx client)

/-- Speakers are independent. What a run plays of one speaker is what it plays with the packets of all others taken out,
and it is the output of one decoder, new at the first packet accepted, through which this speaker's packets pass one
after the other. -/
theorem speaker_isolation (zone : SharedCockpitZone) (es : List ListenEvent) (sid : UInt32) :
    ((ListenState.played rx client zone es).filter fun frame => frame.1 = sid) =
      ListenState.played rx client zone (alone sid es) ∧
    ((ListenState.played rx client zone es).filter fun frame => frame.1 = sid) =
      (Transducer.outputs (SpeakerState.step rx client sid) (.init zone) (es.filterMap (ListenEvent.speaker sid))).map
        fun out => (sid, out) := by
  refine ⟨(played_alone zone sid es).symm, ?_⟩
  rw [filter_speaker, played_ofSpeaker]

end

/-! ## Received, queued and mixed -/

/-- the frames that reach the mixer, in order -/
def carried {α : Type} (ps : List (PlaybackEvent α)) : List (UInt32 × List α) :=
  ps.filterMap fun
    | .frame sid _ stereo => some (sid, stereo)
    | .callback _ => none

theorem carried_solo {α : Type} (sid : UInt32) (ps : List (PlaybackEvent α)) :
    carried (solo sid ps) = (carried ps).filter fun frame => frame.1 = sid := by
  unfold carried solo
  rw [List.filterMap_filter, List.filter_filterMap]
  refine List.filterMap_congr fun e _ => ?_
  cases e with
  | frame sid' v stereo => by_cases h : sid' = sid <;> simp [PlaybackEvent.source, h, Option.filter]
  | callback len => simp [PlaybackEvent.source]

section

variable {D α : Type} [Field α] [LinearOrder α] (rx : Receiver D α) (client : AudioClient)

theorem carried_aligned {zone : SharedCockpitZone} {es : List ListenEvent} {ps : List (PlaybackEvent α)}
    (h : carried ps <+: ListenState.played rx client zone es) {deviceChannels : ℕ}
    (hlens : ∀ len ∈ callbackLens ps, deviceChannels ∣ len) : ∀ e ∈ ps, e.Aligned deviceChannels := by
  intro e he
  cases e with
  | frame sid v stereo =>
    have hmem : (sid, stereo) ∈ carried ps := List.mem_filterMap.2 ⟨_, he, rfl⟩
    exact played_even (h.subset hmem)
  | callback len => exact hlens len (List.mem_filterMap.2 ⟨_, he, rfl⟩)

/-- What is heard. Let the mixer take the frames a client plays, each as late as it may, at any volumes and between any
callbacks. Then every callback writes the sum, over the speakers, of what it writes for each of them alone, and alone
means what a client plays that only ever receives this speaker. If the callbacks are for whole device frames, so is every
queue. -/
theorem heard_superposition (zone : SharedCockpitZone) (es : List ListenEvent) (deviceChannels : ℕ)
    {ps : List (PlaybackEvent α)} (h : carried ps <+: ListenState.played rx client zone es) :
    (∀ k i, writtenAt (Playback.run deviceChannels ps).written k i =
      ∑ sid ∈ heard ps, writtenAt (Playback.run deviceChannels (solo sid ps)).written k i) ∧
    (∀ sid, carried (solo sid ps) <+: ListenState.played rx client zone (alone sid es)) ∧
    ((∀ len ∈ callbackLens ps, deviceChannels ∣ len) →
      ∀ sid, deviceChannels ∣ (queueOf (Playback.run deviceChannels ps).sources sid).length) := by
  refine ⟨?_, ?_, ?_⟩
  · intro k i
    rw [writtenAt_run ps fun _ hs => hs]
    exact Finset.sum_congr rfl fun sid _ => by rw [written_solo]
  · intro sid
    rw [carried_solo, played_alone]
    exact h.filter _
  · intro hlens sid
    rw [queueOf_run]
    exact (sourceFifo_aligned (carried_aligned rx client h hlens) sid).queue

end

/-- Two speakers, one packet each, of two and of one full-scale sample: the callback plays both, the shorter one in its
first half only. -/
theorem heard_superposition_packet :
    let rx : Receiver Unit ℚ := ⟨(), fun _ data => (some (data.map fun _ => 32767), ()), fun _ _ _ => (1, 1), fun _ => 1⟩
    let client : AudioClient := ⟨⟨"bob_voice", "f_ambient", .voice, "f_ambient_fbo", none⟩, none⟩
    let key := some (List.replicate 16 0)
    let es := [.voip (.control (.cryptSetup ⟨key, key, key⟩)),
      .udpRecv ⟨some (.audio 7 (.opus [0, 0] false) none), true, .default F32, 1⟩,
      .udpRecv ⟨some (.audio 9 (.opus [0] false) none), true, .default F32, 1⟩]
    let ps : List (PlaybackEvent ℚ) := [.frame 7 (1 / 4) [1, 1, 1, 1], .frame 9 (1 / 2) [1, 1], .callback 4]
    ((∀ k i, writtenAt (Playback.run 2 ps).written k i =
      ∑ sid ∈ heard ps, writtenAt (Playback.run 2 (solo sid ps)).written k i) ∧
    (∀ sid, carried (solo sid ps) <+: ListenState.played rx client .inFbo (alone sid es)) ∧
    ((∀ len ∈ callbackLens ps, 2 ∣ len) → ∀ sid, 2 ∣ (queueOf (Playback.run 2 ps).sources sid).length)) ∧
    heard ps = {7, 9} ∧ (Playback.run 2 ps).written = [[3 / 4, 3 / 4, 1 / 4, 1 / 4]] := by
  intro rx client key es ps
  have hplayed : ListenState.played rx client .inFbo es = [(7, [1, 1, 1, 1]), (9, [1, 1])] := by decide +kernel
  have hcarried : carried ps <+: ListenState.played rx client .inFbo es := by
    rw [hplayed]
    exact List.prefix_refl _
  exact ⟨heard_superposition rx client .inFbo es 2 hcarried, by decide, by decide +kernel⟩

end MumbledFlight

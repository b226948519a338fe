/-
The two mixers of a stack (`run_mumble_stack`, `start_playback`): each client plays into the mixer it was spawned with,
and the pilots monitor the radio they relay in the interphone's mixer, where it is one more source, under its own session
id.

A mixer takes the frames of a client in the order the client plays them, each as late as it may, and the frames of the
radio as they come, or not at all when the monitor lags. Otherwise frames and callbacks come in any order.

Results, for every configuration, all that the clients receive, and every run of the mixers:
- `clientFrames_fed`: only the voice client plays into the ambient mixer, only the interphone's client into its own.
- `radio_mono`: the radio alone is the same on every channel of the device, as a queue of mono samples yields it.
- `stack_mixers`: the interphone's mixer writes what it would write without the radio, and the radio on top.
-/
import Mathlib.Algebra.Order.Ring.Defs
import MumbledFlight.Voip.Receive
import MumbledFlight.Voip.Stack

namespace MumbledFlight

/-! ## What goes into the mixers -/

/-- the session id of the radio's monitor -/
def radioMonitorSession : UInt32 := 0xFFFFFFFF

inductive StackEvent (α : Type) where
  /-- a mixer takes a frame that client k has played, at volume v -/
  | played (k : SpawnedClient) (v : α) (frame : UInt32 × List α)
  /-- the interphone's mixer takes a frame of the radio -/
  | radio (v : α) (pcm : List α)
  | callback (mixer : Mixer) (len : ℕ)

namespace StackEvent

variable {α : Type}

/-- what a mixer has to do; a frame of the radio goes to both ears -/
def toMixer (m : Mixer) : StackEvent α → Option (PlaybackEvent α)
  | .played k v frame => if k.output = m then some (.frame frame.1 v frame.2) else none
  | .radio v pcm => if m = .ic then some (.frame radioMonitorSession v (pcm.flatMap fun s => [s, s])) else none
  | .callback mixer len => if mixer = m then some (.callback len) else none

def playedBy (k : SpawnedClient) : StackEvent α → Option (UInt32 × List α)
  | .played k' _ frame => if k' = k then some frame else none
  | _ => none

/-- a client's frame, if it is for mixer m -/
def clientFrame (m : Mixer) : StackEvent α → Option (UInt32 × List α)
  | .played k _ frame => if k.output = m then some frame else none
  | _ => none

def isRadio : StackEvent α → Bool
  | .radio _ _ => true
  | _ => false

/-- what happens to the radio, in mono -/
def monoOp [Field α] [LinearOrder α] (deviceChannels : ℕ) : StackEvent α → Option (Fifo.Op α)
  | .radio v pcm => some (.push (applyVolume v pcm))
  | .callback .ic len => some (.pop (len / deviceChannels))
  | _ => none

end StackEvent

open StackEvent

/-- the events of one mixer -/
def mixerFeed {α : Type} (m : Mixer) (es : List (StackEvent α)) : List (PlaybackEvent α) := es.filterMap (toMixer m)

/-- the same run without the radio -/
def withoutRadio {α : Type} (es : List (StackEvent α)) : List (StackEvent α) := es.filter fun e => !e.isRadio

/-- the mono queue of the radio, of half a second at most -/
def radioFifo {α : Type} [Field α] [LinearOrder α] (deviceChannels : ℕ) (es : List (StackEvent α)) : Fifo α :=
  Fifo.run (fun len => len - 24000) (es.filterMap (monoOp deviceChannels))

/-- the client that is heard through a mixer -/
def Mixer.player : Mixer → ClientKind
  | .ambient => .voice
  | .ic => .ic

/-- every frame is one of a client of the stack, in the order it plays them -/
structure Fed {D α : Type} [Field α] [DecidableEq α] (rx : Receiver D α) (clients : List SpawnedClient)
    (zone : SharedCockpitZone) (inbox : SpawnedClient → List ListenEvent) (es : List (StackEvent α)) : Prop where
  mem : ∀ k v frame, .played k v frame ∈ es → k ∈ clients
  played : ∀ k ∈ clients, es.filterMap (playedBy k) <+: ListenState.played rx k.toAudioClient zone (inbox k)

/-- no packet comes under this session id -/
def Unassigned (sid : UInt32) (es : List ListenEvent) : Prop :=
  ∀ dg payload positionInfo, .udpRecv dg ∈ es → dg.packet ≠ some (.audio sid payload positionInfo)

/-! ## One client for each mixer -/

section

variable {D α : Type} [Field α] [DecidableEq α] {rx : Receiver D α}

/-- a frame is played under the session id it came under -/
theorem played_session_ne {client : AudioClient} {zone : SharedCockpitZone} {es : List ListenEvent} {sid : UInt32}
    (hun : Unassigned sid es) {frame : UInt32 × List α} (h : frame ∈ ListenState.played rx client zone es) :
    frame.1 ≠ sid := by
  obtain ⟨before, dg, after, _, _, _, _, _, _, hes, hpacket, -⟩ := mem_played_iff.1 h
  rintro rfl
  refine hun dg _ _ ?_ hpacket
  rw [hes]
  exact List.mem_append_right _ List.mem_cons_self

variable {cfg : MumbleStackConfig} {zone : SharedCockpitZone} {autoSink : Option String}
  {inbox : SpawnedClient → List ListenEvent} {es : List (StackEvent α)}

/-- a frame that is taken has been played -/
theorem Fed.mem_played (h : Fed rx (cfg.runMumbleStack zone autoSink) zone inbox es) {k : SpawnedClient} {v : α}
    {frame : UInt32 × List α} (hmem : .played k v frame ∈ es) :
    frame ∈ ListenState.played rx k.toAudioClient zone (inbox k) := by
  refine (h.played k (h.mem k v frame hmem)).subset (List.mem_filterMap.2 ⟨_, hmem, ?_⟩)
  exact if_pos rfl

/-- who plays into a mixer -/
theorem Fed.kind_of_output (h : Fed rx (cfg.runMumbleStack zone autoSink) zone inbox es) {k : SpawnedClient} {v : α}
    {frame : UInt32 × List α} (hmem : .played k v frame ∈ es) {m : Mixer} (hout : k.output = m) :
    k.kind = m.player := by
  have hk := h.mem k v frame hmem
  have hplayed := h.mem_played hmem
  have hrole := MumbleStackConfig.spawned_role hk
  have hkind := MumbleStackConfig.spawned_output hk
  rw [← hout, hkind]
  cases hcase : k.kind with
  | voice => rfl
  | ic => rfl
  | pa =>
    rw [hcase] at hrole
    rw [played_of_sender (Or.inl hrole)] at hplayed
    cases hplayed
  | radio =>
    rw [hcase] at hrole
    rw [played_of_sender (Or.inr ⟨_, hrole⟩)] at hplayed
    cases hplayed

/-- a mixer gets the frames of its player alone -/
theorem clientFrames_fed (h : Fed rx (cfg.runMumbleStack zone autoSink) zone inbox es) (m : Mixer) :
    (∀ k ∈ cfg.runMumbleStack zone autoSink, k.kind = m.player →
      es.filterMap (clientFrame m) <+: ListenState.played rx k.toAudioClient zone (inbox k)) ∧
    ((∀ k ∈ cfg.runMumbleStack zone autoSink, k.kind ≠ m.player) → es.filterMap (clientFrame m) = []) := by
  refine ⟨?_, ?_⟩
  · intro k hk hkind
    have hsame : es.filterMap (clientFrame m) = es.filterMap (playedBy k) := by
      refine List.filterMap_congr fun e he => ?_
      cases e with
      | played k' v frame =>
        have houtput : k'.output = m ↔ k' = k := by
          refine ⟨fun hout => ?_, ?_⟩
          · have hkind' := h.kind_of_output he hout
            exact List.inj_on_of_nodup_map (MumbleStackConfig.spawned_kinds_nodup cfg zone autoSink)
              (h.mem k' v frame he) hk (hkind'.trans hkind.symm)
          · rintro rfl
            rw [MumbleStackConfig.spawned_output hk, hkind]
            cases m <;> rfl
        simp only [clientFrame, playedBy, houtput]
      | radio v pcm => rfl
      | callback mixer len => rfl
    rw [hsame]
    exact h.played k hk
  · intro hnone
    refine List.filterMap_eq_nil_iff.2 fun e he => ?_
    cases e with
    | played k v frame =>
      refine if_neg fun hout => ?_
      exact hnone k (h.mem k v frame he) (h.kind_of_output he hout)
    | radio v pcm => rfl
    | callback mixer len => rfl

end

/-! ## The radio -/

section

variable {α : Type}

theorem carried_withoutRadio (m : Mixer) (es : List (StackEvent α)) :
    carried (mixerFeed m (withoutRadio es)) = es.filterMap (clientFrame m) := by
  unfold carried mixerFeed withoutRadio
  rw [List.filterMap_filter, List.filterMap_filterMap]
  refine List.filterMap_congr fun e _ => ?_
  cases e with
  | played k v frame => by_cases h : k.output = m <;> simp [isRadio, toMixer, clientFrame, h]
  | radio v pcm => simp [isRadio, clientFrame]
  | callback mixer len => by_cases h : mixer = m <;> simp [isRadio, toMixer, clientFrame, h]

/-- the ambient mixer does not hear the radio -/
theorem ambient_withoutRadio (es : List (StackEvent α)) :
    mixerFeed .ambient (withoutRadio es) = mixerFeed .ambient es := by
  unfold mixerFeed withoutRadio
  rw [List.filterMap_filter]
  refine List.filterMap_congr fun e _ => ?_
  cases e <;> simp [isRadio, toMixer]

/-- a run without the frames of source `sid` -/
def without (sid : UInt32) (ps : List (PlaybackEvent α)) : List (PlaybackEvent α) :=
  ps.filter fun e => e.source ≠ some sid

theorem heard_without {sid sid' : UInt32} {ps : List (PlaybackEvent α)} (h : sid' ∈ heard (without sid ps)) :
    sid' ≠ sid ∧ sid' ∈ heard ps := by
  rw [heard, List.mem_toFinset, List.mem_filterMap] at h
  obtain ⟨e, he, hsource⟩ := h
  obtain ⟨he, hne⟩ := List.mem_filter.1 he
  rw [hsource] at hne
  refine ⟨by simpa using hne, ?_⟩
  exact List.mem_toFinset.2 (List.mem_filterMap.2 ⟨e, he, hsource⟩)

theorem ic_withoutRadio {es : List (StackEvent α)}
    (h : ∀ k v frame, .played k v frame ∈ es → frame.1 ≠ radioMonitorSession) :
    mixerFeed .ic (withoutRadio es) = without radioMonitorSession (mixerFeed .ic es) := by
  unfold mixerFeed withoutRadio without
  rw [List.filterMap_filter, List.filter_filterMap]
  refine List.filterMap_congr fun e he => ?_
  cases e with
  | played k v frame =>
    have hne := h k v frame he
    by_cases hout : k.output = .ic <;> simp [isRadio, toMixer, hout, PlaybackEvent.source, hne, Option.filter]
  | radio v pcm => simp [isRadio, toMixer, PlaybackEvent.source, Option.filter]
  | callback mixer len =>
    by_cases hm : mixer = .ic <;> simp [isRadio, toMixer, hm, PlaybackEvent.source, Option.filter]

end

section

variable {α : Type} [Field α] [LinearOrder α] {deviceChannels : ℕ}

/-- the others do not notice -/
theorem sourceFifo_without {sid sid' : UInt32} (h : sid' ≠ sid) (ps : List (PlaybackEvent α)) :
    sourceFifo deviceChannels sid' (without sid ps) = sourceFifo deviceChannels sid' ps := by
  unfold sourceFifo without
  rw [List.filterMap_filter]
  congr 1
  refine List.filterMap_congr fun e _ => ?_
  cases e with
  | frame source v stereo =>
    by_cases hs : source = sid
    · simp [PlaybackEvent.source, PlaybackEvent.sourceOp, hs, h.symm]
    · simp [PlaybackEvent.source, hs]
  | callback len => simp [PlaybackEvent.source]

/-- the mixer is a source, and the others -/
theorem written_without (sid : UInt32) (ps : List (PlaybackEvent α)) (k i : ℕ) :
    writtenAt (Playback.run deviceChannels ps).written k i =
      writtenAt (Playback.run deviceChannels (without sid ps)).written k i +
        writtenAt (sourceFifo deviceChannels sid ps).emitted k i := by
  have hothers : ∀ sid' ∈ heard (without sid ps), sid' ∈ (heard ps).erase sid := fun sid' h =>
    Finset.mem_erase.2 (heard_without h)
  have hall : ∀ sid' ∈ heard ps, sid' ∈ insert sid ((heard ps).erase sid) := by
    intro sid' h
    rw [Finset.mem_insert, Finset.mem_erase]
    by_cases hs : sid' = sid
    · exact Or.inl hs
    · exact Or.inr ⟨hs, h⟩
  rw [writtenAt_run ps hall, Finset.sum_insert (Finset.notMem_erase sid _), writtenAt_run _ hothers, add_comm]
  congr 1
  exact Finset.sum_congr rfl fun sid' h => by rw [sourceFifo_without (Finset.ne_of_mem_erase h)]

theorem applyVolume_flatMap (v : α) (pcm : List α) :
    applyVolume v (pcm.flatMap fun s => [s, s]) = (applyVolume v pcm).flatMap fun s => [s, s] := by
  unfold applyVolume
  split_ifs
  · rw [List.map_flatMap, List.flatMap_map]
    rfl
  · rfl

variable [IsStrictOrderedRing α]

/-- what both ears share is what is left of it in mono -/
theorem downmix_flatMap (pcm : List α) : downmix (pcm.flatMap fun s => [s, s]) = pcm := by
  induction pcm with
  | nil => rfl
  | cons s pcm ih =>
    have hmean : (s + s) * (1 / 2) = s := by ring
    rw [List.flatMap_cons, List.cons_append, List.cons_append, List.nil_append, downmix, ih, hmean]

/-- on any device the radio is laid out as copies of its mono samples -/
theorem layOut_radio (v : α) (pcm : List α) :
    layOut deviceChannels (applyVolume v (pcm.flatMap fun s => [s, s])) =
      Fifo.spread deviceChannels (applyVolume v pcm) := by
  rw [applyVolume_flatMap]
  unfold layOut
  split_ifs with hstereo
  · subst hstereo
    rfl
  · rw [downmix_flatMap]
    rfl

/-- the radio in the interphone's mixer -/
theorem radio_mono {es : List (StackEvent α)}
    (h : ∀ k v frame, .played k v frame ∈ es → frame.1 ≠ radioMonitorSession)
    (hlens : ∀ len ∈ callbackLens (mixerFeed .ic es), deviceChannels ∣ len) :
    (sourceFifo deviceChannels radioMonitorSession (mixerFeed .ic es)).emitted =
      (radioFifo deviceChannels es).emitted.map (Fifo.spread deviceChannels) := by
  have hops : (mixerFeed .ic es).filterMap (PlaybackEvent.sourceOp deviceChannels radioMonitorSession) =
      (es.filterMap (monoOp deviceChannels)).map (Fifo.Op.spread deviceChannels) := by
    unfold mixerFeed
    rw [List.filterMap_filterMap, List.map_filterMap]
    refine List.filterMap_congr fun e he => ?_
    cases e with
    | played k v frame =>
      have hne := h k v frame he
      by_cases hout : k.output = .ic <;> simp [toMixer, monoOp, hout, PlaybackEvent.sourceOp, hne]
    | radio v pcm => simp [toMixer, monoOp, PlaybackEvent.sourceOp, layOut_radio, Fifo.Op.spread]
    | callback mixer len =>
      cases mixer with
      | ambient => rfl
      | ic =>
        have hmem : PlaybackEvent.callback len ∈ mixerFeed .ic es := List.mem_filterMap.2 ⟨_, he, rfl⟩
        have hdvd := hlens len (List.mem_filterMap.2 ⟨_, hmem, rfl⟩)
        simp [toMixer, monoOp, PlaybackEvent.sourceOp, Fifo.Op.spread, Nat.mul_div_cancel' hdvd]
  have hcap : ∀ len, alignedDrain deviceChannels (deviceChannels * len) = deviceChannels * (len - 24000) := by
    intro len
    rw [alignedDrain_of_dvd (Nat.dvd_mul_right _ _), maxBuffered, Nat.mul_comm 24000, ← Nat.mul_sub]
  unfold sourceFifo radioFifo
  rw [hops, Fifo.run_copies hcap, Fifo.emitted_copies]

end

section

variable {D α : Type} [Field α] [LinearOrder α] [IsStrictOrderedRing α] {rx : Receiver D α} {cfg : MumbleStackConfig}
  {zone : SharedCockpitZone} {autoSink : Option String} {inbox : SpawnedClient → List ListenEvent}
  {es : List (StackEvent α)} {deviceChannels : ℕ}

/-- Mixers. Each mixer gets the frames of one client, in the order it plays them, and of no other; the ambient one gets
nothing else. If nobody speaks under the monitor's session id, and the interphone's device asks for whole frames, the
interphone's mixer writes what it would write without the radio, and on top of it, on every channel, what the mono queue
of the radio yields. -/
theorem stack_mixers (h : Fed rx (cfg.runMumbleStack zone autoSink) zone inbox es) :
    (∀ m, let frames := carried (mixerFeed m (withoutRadio es))
      (∀ k ∈ cfg.runMumbleStack zone autoSink, k.kind = m.player →
        frames <+: ListenState.played rx k.toAudioClient zone (inbox k)) ∧
      ((∀ k ∈ cfg.runMumbleStack zone autoSink, k.kind ≠ m.player) → frames = [])) ∧
    mixerFeed .ambient es = mixerFeed .ambient (withoutRadio es) ∧
    ((∀ k ∈ cfg.runMumbleStack zone autoSink, Unassigned radioMonitorSession (inbox k)) →
      (∀ len ∈ callbackLens (mixerFeed .ic es), deviceChannels ∣ len) →
      ∀ n i, writtenAt (Playback.run deviceChannels (mixerFeed .ic es)).written n i =
        writtenAt (Playback.run deviceChannels (mixerFeed .ic (withoutRadio es))).written n i +
          writtenAt ((radioFifo deviceChannels es).emitted.map (Fifo.spread deviceChannels)) n i) := by
  refine ⟨?_, (ambient_withoutRadio es).symm, ?_⟩
  · intro m frames
    have hframes : frames = es.filterMap (clientFrame m) := carried_withoutRadio m es
    rw [hframes]
    exact clientFrames_fed h m
  · intro hun hlens n i
    have hsession : ∀ k v frame, .played k v frame ∈ es → frame.1 ≠ radioMonitorSession := fun k v frame hmem =>
      played_session_ne (hun k (h.mem k v frame hmem)) (h.mem_played hmem)
    rw [written_without radioMonitorSession, ic_withoutRadio hsession, radio_mono hsession hlens]

end

/-- one speaker on the interphone, and the radio on top -/
theorem stack_mixers_two :
    let cfg := fullStack "bob"
    let es : List (StackEvent ℚ) := [.played cfg.icClient 1 (7, [1, 1]), .radio 1 [3], .callback .ic 2]
    ∀ n i, writtenAt (Playback.run 2 (mixerFeed .ic es)).written n i =
      writtenAt (Playback.run 2 (mixerFeed .ic (withoutRadio es))).written n i +
        writtenAt ((radioFifo 2 es).emitted.map (Fifo.spread 2)) n i := by
  intro cfg es
  let rx : Receiver Unit ℚ := ⟨(), fun _ _ => (some [32767], ()), fun _ _ _ => (1, 1), fun _ => 1⟩
  let key : Option (List UInt8) := some (List.replicate 16 0)
  let dg : Datagram :=
    ⟨some (.audio 7 (.opus [0] false) none), true, { CockpitState.default F32 with icTog := true }, 1⟩
  let inbox (k : SpawnedClient) : List ListenEvent :=
    if k.kind = .ic then [.voip (.control (.cryptSetup ⟨key, key, key⟩)), .udpRecv dg] else []
  have hfed : Fed rx (cfg.runMumbleStack .inFbo none) .inFbo inbox es := by
    refine ⟨?_, by decide +kernel⟩
    intro k v frame hmem
    obtain ⟨rfl, -, -⟩ : k = cfg.icClient ∧ v = 1 ∧ frame = (7, [1, 1]) := by simpa [es] using hmem
    decide +kernel
  have hun : ∀ k ∈ cfg.runMumbleStack .inFbo none, Unassigned radioMonitorSession (inbox k) := by
    intro k _ dg' payload positionInfo hmem hpacket
    simp only [inbox] at hmem
    split_ifs at hmem
    · obtain rfl : dg' = dg := by simpa using hmem
      simp [dg, radioMonitorSession] at hpacket
    · cases hmem
  exact (stack_mixers hfed).2.2 hun (by decide)

end MumbledFlight

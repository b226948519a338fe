/-
The jitter buffer of playback. Frames come from the network when they come, the device asks when it asks; a source's
queue is what stands between the two. Here its delay is bounded, and the runs that the queue carries over without a
loss or a gap are told from their counts alone: how many samples were laid out, how many were asked for.

Results, for every device and every run of frames and callbacks:
- `playback_delay`: a queue holds less than the cap and one device frame, and what it holds has left by the time the
  device has asked for as many samples. So no sample waits longer than the cap.
- `gapless_iff`: from any point on, a source is played without a loss or a gap iff every frame and every callback fits
  its backlog, and the device then gets its samples one after the other.
- `mix_on_schedule`: while all who speak are on schedule, the device gets the sample-wise sum of their streams.
-/
import MumbledFlight.Audio.Alignment

namespace MumbledFlight

variable {α : Type*}

/-- the length of a frame in the device's channel count -/
def laidOutLength (deviceChannels len : ℕ) : ℕ := if deviceChannels = 2 then len else len / 2 * deviceChannels

section Definitions

variable [Field α] [LinearOrder α]

/-- all that is laid out for source `sid`, one frame after the other -/
def laidOut (deviceChannels : ℕ) (sid : UInt32) (es : List (PlaybackEvent α)) : List α :=
  (es.filterMap (PlaybackEvent.sourceOp deviceChannels sid)).flatMap Fifo.Op.values

namespace PlaybackEvent

/-- samples laid out for source `sid` less samples asked for -/
def backlog (deviceChannels : ℕ) (sid : UInt32) (backlog : ℕ) : PlaybackEvent α → ℕ
  | .frame sid' _ stereo => if sid' = sid then backlog + laidOutLength deviceChannels stereo.length else backlog
  | .callback len => backlog - len

/-- a frame stays less than a device frame above the cap, a callback asks for no more than is there -/
def Fits (deviceChannels : ℕ) (sid : UInt32) (backlog : ℕ) : PlaybackEvent α → Prop
  | .frame sid' _ stereo => sid' = sid →
    backlog + laidOutLength deviceChannels stereo.length < maxBuffered deviceChannels + deviceChannels
  | .callback len => len ≤ backlog

end PlaybackEvent

/-- every event fits, for a source that has `held` samples queued at first -/
def OnSchedule (deviceChannels : ℕ) (sid : UInt32) (held : ℕ) (es : List (PlaybackEvent α)) : Prop :=
  Runs.Meets (PlaybackEvent.backlog deviceChannels sid) (PlaybackEvent.Fits deviceChannels sid) held es

/-- the passages out of the queue of source `sid` in the run `after` that follows the run `before` -/
def passagesSince (deviceChannels : ℕ) (sid : UInt32) (before after : List (PlaybackEvent α)) : List (Fifo.Passage α) :=
  (sourceFifo deviceChannels sid (before ++ after)).passed.drop (sourceFifo deviceChannels sid before).passed.length

/-- the buffers written in the run `after` that follows the run `before` -/
def writtenSince (deviceChannels : ℕ) (before after : List (PlaybackEvent α)) : List (List α) :=
  (Playback.run deviceChannels (before ++ after)).written.drop (Playback.run deviceChannels before).written.length

end Definitions

/-! ## What a frame adds to a queue -/

theorem downmix_length [Field α] (frame : List α) : (downmix frame).length = frame.length / 2 := by
  fun_induction downmix frame with
  | case1 l r rest ih =>
    simp only [List.length_cons, ih]
    omega
  | case2 frame hshort =>
    -- what is left has no pair
    cases frame with
    | nil => simp
    | cons l rest =>
      cases rest with
      | nil => simp
      | cons r rest => exact absurd rfl (hshort l r rest)

theorem layOut_length [Field α] (deviceChannels : ℕ) (frame : List α) :
    (layOut deviceChannels frame).length = laidOutLength deviceChannels frame.length := by
  unfold layOut laidOutLength
  split_ifs
  · rfl
  · rw [List.length_flatMap, ← downmix_length]
    simp

theorem alignedDrain_le (deviceChannels len : ℕ) : alignedDrain deviceChannels len ≤ len := by
  unfold alignedDrain
  dsimp only
  split_ifs <;> omega

theorem alignedDrain_keeps {deviceChannels : ℕ} (hdc : 0 < deviceChannels) (len : ℕ) :
    len - alignedDrain deviceChannels len ≤ maxBuffered deviceChannels + (deviceChannels - 1) := by
  unfold alignedDrain
  dsimp only
  have hmod : (len - maxBuffered deviceChannels) % deviceChannels < deviceChannels := Nat.mod_lt _ hdc
  split_ifs <;> omega

/-- what is less than a device frame above the cap stays -/
theorem alignedDrain_eq_zero {deviceChannels : ℕ} (hdc : 0 < deviceChannels) (len : ℕ) :
    alignedDrain deviceChannels len = 0 ↔ len < maxBuffered deviceChannels + deviceChannels := by
  unfold alignedDrain
  dsimp only
  split_ifs with hover
  · have hle : (len - maxBuffered deviceChannels) % deviceChannels ≤ len - maxBuffered deviceChannels := Nat.mod_le _ _
    have hshort : (len - maxBuffered deviceChannels) % deviceChannels = len - maxBuffered deviceChannels ↔
        len - maxBuffered deviceChannels < deviceChannels := by
      constructor
      · intro h
        rw [← h]
        exact Nat.mod_lt _ hdc
      · exact Nat.mod_eq_of_lt
    omega
  · omega

/-! ## Buffers put together -/

theorem callbackLens_append (before after : List (PlaybackEvent α)) :
    callbackLens (before ++ after) = callbackLens before ++ callbackLens after := List.filterMap_append

theorem solo_append (sid : UInt32) (before after : List (PlaybackEvent α)) :
    solo sid (before ++ after) = solo sid before ++ solo sid after := List.filter_append _ _

theorem sampleAt_zeros [Zero α] {samples : List α} (h : ∀ x ∈ samples, x = 0) (j : ℕ) : sampleAt samples j = 0 := by
  unfold sampleAt
  rcases Nat.lt_or_ge j samples.length with hj | hj
  · rw [List.getD_eq_getElem _ _ hj]
    exact h _ (List.getElem_mem hj)
  · exact List.getD_eq_default _ _ hj

theorem sampleAt_append [Zero α] (as bs : List α) (j : ℕ) :
    sampleAt (as ++ bs) j = if j < as.length then sampleAt as j else sampleAt bs (j - as.length) := by
  unfold sampleAt
  split_ifs with h
  · exact List.getD_append _ _ _ _ h
  · exact List.getD_append_right _ _ _ _ (not_lt.1 h)

theorem writtenAt_append_right [Zero α] (before after : List (List α)) (k i : ℕ) :
    writtenAt (before ++ after) (before.length + k) i = writtenAt after k i := by
  unfold writtenAt
  rw [List.getD_append_right _ _ _ _ (Nat.le_add_right _ _), Nat.add_sub_cancel_left]

/-- sums of buffers are sums of what the buffers are put together -/
theorem sampleAt_flatten [AddCommMonoid α] {S : Finset UInt32} {whole : List (List α)} {parts : UInt32 → List (List α)}
    (hlen : ∀ sid ∈ S, (parts sid).map List.length = whole.map List.length)
    (h : ∀ k i, writtenAt whole k i = ∑ sid ∈ S, writtenAt (parts sid) k i) (j : ℕ) :
    sampleAt whole.flatten j = ∑ sid ∈ S, sampleAt (parts sid).flatten j := by
  induction whole generalizing parts j with
  | nil =>
    symm
    refine Finset.sum_eq_zero fun sid hsid => ?_
    rw [List.map_eq_nil_iff.1 (hlen sid hsid)]
    rfl
  | cons buffer whole ih =>
    have hcons : ∀ sid ∈ S, ∃ part rest, parts sid = part :: rest ∧ part.length = buffer.length ∧
        rest.map List.length = whole.map List.length := by
      intro sid hsid
      have := hlen sid hsid
      rw [List.map_cons, List.map_eq_cons_iff] at this
      exact this
    have htail : ∀ k i, writtenAt whole k i = ∑ sid ∈ S, writtenAt (parts sid).tail k i := by
      intro k i
      have hk := h (k + 1) i
      simp only [writtenAt, List.getD_cons_succ] at hk ⊢
      rw [hk]
      refine Finset.sum_congr rfl fun sid hsid => ?_
      obtain ⟨part, rest, hparts, -, -⟩ := hcons sid hsid
      rw [hparts]
      rfl
    have hrest : ∀ sid ∈ S, (parts sid).tail.map List.length = whole.map List.length := by
      intro sid hsid
      obtain ⟨part, rest, hparts, -, hmap⟩ := hcons sid hsid
      rw [hparts]
      exact hmap
    rw [List.flatten_cons, sampleAt_append]
    split_ifs with hj
    · have h0 := h 0 j
      simp only [writtenAt, List.getD_cons_zero] at h0
      rw [h0]
      refine Finset.sum_congr rfl fun sid hsid => ?_
      obtain ⟨part, rest, hparts, hpart, -⟩ := hcons sid hsid
      rw [hparts, List.getD_cons_zero, List.flatten_cons, sampleAt_append, if_pos (hpart ▸ hj)]
    · rw [ih hrest htail]
      refine Finset.sum_congr rfl fun sid hsid => ?_
      obtain ⟨part, rest, hparts, hpart, -⟩ := hcons sid hsid
      rw [hparts, List.flatten_cons, sampleAt_append, hpart, if_neg hj, List.tail_cons]

section Runs

variable [Field α] [LinearOrder α] {deviceChannels : ℕ}

/-! ## The run after a run -/

theorem sourceFifo_append (sid : UInt32) (before after : List (PlaybackEvent α)) :
    sourceFifo deviceChannels sid (before ++ after) =
      let since := Fifo.runFrom (alignedDrain deviceChannels) (sourceFifo deviceChannels sid before).queue
        (after.filterMap (PlaybackEvent.sourceOp deviceChannels sid))
      ⟨since.queue, (sourceFifo deviceChannels sid before).passed ++ since.passed⟩ := by
  unfold sourceFifo
  rw [List.filterMap_append, Fifo.run_append]

theorem passagesSince_eq (sid : UInt32) (before after : List (PlaybackEvent α)) :
    passagesSince deviceChannels sid before after =
      (Fifo.runFrom (alignedDrain deviceChannels) (sourceFifo deviceChannels sid before).queue
        (after.filterMap (PlaybackEvent.sourceOp deviceChannels sid))).passed := by
  unfold passagesSince
  rw [sourceFifo_append, List.drop_left]

theorem emitted_append (sid : UInt32) (before after : List (PlaybackEvent α)) :
    (sourceFifo deviceChannels sid (before ++ after)).emitted = (sourceFifo deviceChannels sid before).emitted ++
      (passagesSince deviceChannels sid before after).filterMap Fifo.Passage.emitted := by
  rw [sourceFifo_append, passagesSince_eq]
  exact List.filterMap_append

/-- the samples of a source that have not left are still queued -/
theorem conserved_since (sid : UInt32) (before after : List (PlaybackEvent α)) :
    queueOf (Playback.run deviceChannels before).sources sid ++ laidOut deviceChannels sid after =
      (passagesSince deviceChannels sid before after).flatMap Fifo.Passage.values ++
        queueOf (Playback.run deviceChannels (before ++ after)).sources sid := by
  rw [queueOf_run, queueOf_run, passagesSince_eq, sourceFifo_append]
  exact Fifo.conserved_from _ _ _

theorem written_prefix (before after : List (PlaybackEvent α)) :
    (Playback.run deviceChannels before).written <+: (Playback.run deviceChannels (before ++ after)).written := by
  induction after using List.reverseRecOn with
  | nil => rw [List.append_nil]
  | append_singleton after e ih =>
    rw [← List.append_assoc, Playback.run_snoc]
    cases e with
    | frame sid v stereo => exact ih
    | callback len => exact ih.trans (List.prefix_append _ _)

theorem written_append (before after : List (PlaybackEvent α)) :
    (Playback.run deviceChannels (before ++ after)).written =
      (Playback.run deviceChannels before).written ++ writtenSince deviceChannels before after := by
  have hprefix : (Playback.run deviceChannels before).written <+:
      (Playback.run deviceChannels (before ++ after)).written := written_prefix before after
  obtain ⟨rest, hrest⟩ := hprefix
  unfold writtenSince
  rw [← hrest, List.drop_left]

theorem writtenSince_lengths (before after : List (PlaybackEvent α)) :
    (writtenSince deviceChannels before after).map List.length = callbackLens after := by
  have h : (Playback.run deviceChannels (before ++ after)).written.map List.length = callbackLens (before ++ after) :=
    written_lengths _
  rw [written_append, List.map_append, written_lengths, callbackLens_append] at h
  exact List.append_cancel_left h

theorem emittedSince_lengths (sid : UInt32) (before after : List (PlaybackEvent α)) :
    ((passagesSince deviceChannels sid before after).filterMap Fifo.Passage.emitted).map List.length =
      callbackLens after := by
  have h : (sourceFifo deviceChannels sid (before ++ after)).emitted.map List.length = callbackLens (before ++ after) :=
    emitted_callbackLens sid _
  rw [emitted_append, List.map_append, emitted_callbackLens, callbackLens_append] at h
  exact List.append_cancel_left h

/-- what a source alone is heard as -/
theorem writtenSince_solo (sid : UInt32) (before after : List (PlaybackEvent α)) :
    writtenSince deviceChannels (solo sid before) (solo sid after) =
      (passagesSince deviceChannels sid before after).filterMap Fifo.Passage.emitted := by
  unfold writtenSince
  rw [← solo_append, written_solo, written_solo, emitted_append, List.drop_left]

/-! ## The delay of the queue -/

theorem demand_sourceOps (sid : UInt32) (es : List (PlaybackEvent α)) :
    Fifo.demand (es.filterMap (PlaybackEvent.sourceOp deviceChannels sid)) = (callbackLens es).sum := by
  unfold Fifo.demand callbackLens
  rw [List.filterMap_filterMap]
  congr 1
  refine List.filterMap_congr fun e _ => ?_
  cases e with
  | frame sid' v stereo => by_cases h : sid' = sid <;> simp [PlaybackEvent.sourceOp, PlaybackEvent.len, Fifo.Op.asked, h]
  | callback len => rfl

/-- Delay. In every run a source's queue stays less than one device frame above the cap; what it holds at any point is,
at any later one, what has been laid out since, after as much of the old queue as the callbacks in between have not
asked for. -/
theorem playback_delay (hdc : 0 < deviceChannels) (before after : List (PlaybackEvent α)) (sid : UInt32) :
    let queue := queueOf (Playback.run deviceChannels before).sources sid
    queue.length < maxBuffered deviceChannels + deviceChannels ∧
    ∃ old fresh, queueOf (Playback.run deviceChannels (before ++ after)).sources sid = old ++ fresh ∧
      old <:+ queue ∧ fresh <:+ laidOut deviceChannels sid after ∧
      old.length ≤ queue.length - (callbackLens after).sum := by
  intro queue
  have hqueue : queue = (sourceFifo deviceChannels sid before).queue := queueOf_run before sid
  constructor
  · have hbound : (sourceFifo deviceChannels sid before).queue.length ≤
        maxBuffered deviceChannels + (deviceChannels - 1) := Fifo.length_queue_run (alignedDrain_keeps hdc) _
    rw [hqueue]
    omega
  · have hdemand : Fifo.demand (after.filterMap (PlaybackEvent.sourceOp deviceChannels sid)) = (callbackLens after).sum :=
      demand_sourceOps sid after
    rw [queueOf_run, sourceFifo_append, hqueue, ← hdemand]
    exact Fifo.queue_from _ _ _

/-- on a stereo device, a frame that two callbacks take up -/
theorem playback_delay_stereo :
    let before : List (PlaybackEvent ℚ) := [.frame 7 1 [1, 2, 3, 4]]
    let after : List (PlaybackEvent ℚ) := [.callback 2, .frame 7 1 [5, 6], .callback 2]
    let queue := queueOf (Playback.run 2 before).sources 7
    queue.length < maxBuffered 2 + 2 ∧
    ∃ old fresh, queueOf (Playback.run 2 (before ++ after)).sources 7 = old ++ fresh ∧
      old <:+ queue ∧ fresh <:+ laidOut 2 7 after ∧ old.length ≤ queue.length - (callbackLens after).sum :=
  playback_delay (by decide) _ _ 7

/-! ## Sources on schedule -/

theorem onSchedule_iff (hdc : 0 < deviceChannels) (sid : UInt32) (held : ℕ) (es : List (PlaybackEvent α)) :
    OnSchedule deviceChannels sid held es ↔
      Fifo.OnSchedule (alignedDrain deviceChannels) held (es.filterMap (PlaybackEvent.sourceOp deviceChannels sid)) := by
  unfold OnSchedule Fifo.OnSchedule
  induction es generalizing held with
  | nil => exact Iff.rfl
  | cons e es ih =>
    cases e with
    | frame sid' v stereo =>
      by_cases h : sid' = sid
      · have hlen : (layOut deviceChannels (applyVolume v stereo)).length =
            laidOutLength deviceChannels stereo.length := by
          rw [layOut_length, applyVolume_length]
        simp only [Runs.Meets, PlaybackEvent.backlog, PlaybackEvent.Fits, PlaybackEvent.sourceOp, h, if_true, ih,
          List.filterMap_cons, Fifo.Op.Fits, Fifo.Op.backlog, hlen, alignedDrain_eq_zero hdc, true_imp_iff]
      · simp only [Runs.Meets, PlaybackEvent.backlog, PlaybackEvent.Fits, PlaybackEvent.sourceOp, h, if_false, ih,
          List.filterMap_cons, false_imp_iff, true_and]
    | callback len =>
      simp only [Runs.Meets, PlaybackEvent.backlog, PlaybackEvent.Fits, PlaybackEvent.sourceOp, ih,
        List.filterMap_cons, Fifo.Op.Fits, Fifo.Op.backlog]

theorem whole_iff_onSchedule (hdc : 0 < deviceChannels) (sid : UInt32) (before after : List (PlaybackEvent α)) :
    (∀ p ∈ passagesSince deviceChannels sid before after, p.Whole) ↔
      OnSchedule deviceChannels sid (queueOf (Playback.run deviceChannels before).sources sid).length after := by
  rw [passagesSince_eq, onSchedule_iff hdc, queueOf_run]
  exact Fifo.whole_iff (alignedDrain_le deviceChannels) _ _

/-- a source on schedule is heard as its samples, one after the other -/
theorem emittedSince_onSchedule (hdc : 0 < deviceChannels) {sid : UInt32} {before after : List (PlaybackEvent α)}
    (h : OnSchedule deviceChannels sid (queueOf (Playback.run deviceChannels before).sources sid).length after) :
    ((passagesSince deviceChannels sid before after).filterMap Fifo.Passage.emitted).flatten ++
        queueOf (Playback.run deviceChannels (before ++ after)).sources sid =
      queueOf (Playback.run deviceChannels before).sources sid ++ laidOut deviceChannels sid after := by
  rw [Fifo.emitted_whole ((whole_iff_onSchedule hdc sid before after).2 h), conserved_since]

/-- Gapless playback. After any run, a source loses nothing and leaves no callback short of samples iff every frame and
every callback fits the backlog, counted from what was queued. The buffers the source alone is then heard in are, put
together, its samples in order: those queued at first and those laid out since, less those queued at the end. -/
theorem gapless_iff (hdc : 0 < deviceChannels) (before after : List (PlaybackEvent α)) (sid : UInt32) :
    let held := queueOf (Playback.run deviceChannels before).sources sid
    ((∀ p ∈ passagesSince deviceChannels sid before after, p.Whole) ↔
      OnSchedule deviceChannels sid held.length after) ∧
    (OnSchedule deviceChannels sid held.length after →
      (writtenSince deviceChannels (solo sid before) (solo sid after)).flatten ++
          queueOf (Playback.run deviceChannels (before ++ after)).sources sid =
        held ++ laidOut deviceChannels sid after) := by
  intro held
  refine ⟨whole_iff_onSchedule hdc sid before after, fun h => ?_⟩
  rw [writtenSince_solo]
  exact emittedSince_onSchedule hdc h

/-- two callbacks between two frames, and what is left of the second -/
theorem gapless_iff_stereo :
    let before : List (PlaybackEvent ℚ) := [.frame 7 1 [1, 2, 3, 4]]
    let after : List (PlaybackEvent ℚ) := [.callback 2, .frame 7 1 [5, 6], .callback 2]
    let held := queueOf (Playback.run 2 before).sources 7
    ((∀ p ∈ passagesSince 2 7 before after, p.Whole) ↔ OnSchedule 2 7 held.length after) ∧
    (OnSchedule 2 7 held.length after →
      (writtenSince 2 (solo 7 before) (solo 7 after)).flatten ++
          queueOf (Playback.run 2 (before ++ after)).sources 7 = held ++ laidOut 2 7 after) :=
  gapless_iff (by decide) _ _ 7

/-! ## The mix -/

/-- nothing is queued for the source and nothing comes -/
def Mute (deviceChannels : ℕ) (sid : UInt32) (queue : List α) (es : List (PlaybackEvent α)) : Prop :=
  queue = [] ∧ laidOut deviceChannels sid es = []

theorem emittedSince_mute {sid : UInt32} {before after : List (PlaybackEvent α)}
    (h : Mute deviceChannels sid (queueOf (Playback.run deviceChannels before).sources sid) after) (j : ℕ) :
    sampleAt ((passagesSince deviceChannels sid before after).filterMap Fifo.Passage.emitted).flatten j = 0 := by
  have hnone : (passagesSince deviceChannels sid before after).flatMap Fifo.Passage.values ++
      queueOf (Playback.run deviceChannels (before ++ after)).sources sid = [] := by
    rw [← conserved_since, h.1, h.2, List.nil_append]
  rw [List.append_eq_nil_iff, List.flatMap_eq_nil_iff] at hnone
  apply sampleAt_zeros
  intro x hx
  obtain ⟨buffer, hbuffer, hx⟩ := List.mem_flatten.1 hx
  obtain ⟨p, hp, hemitted⟩ := List.mem_filterMap.1 hbuffer
  have hvalues := hnone.1 p hp
  cases p with
  | lost xs => cases hemitted
  | popped n xs =>
    obtain rfl : xs = [] := hvalues
    obtain rfl := Option.some.inj hemitted
    exact List.eq_of_mem_replicate hx

/-- a source that is on schedule or mute contributes its samples, as far as the device has asked -/
theorem sampleAt_emittedSince (hdc : 0 < deviceChannels) {sid : UInt32} {before after : List (PlaybackEvent α)}
    (h : OnSchedule deviceChannels sid (queueOf (Playback.run deviceChannels before).sources sid).length after ∨
      Mute deviceChannels sid (queueOf (Playback.run deviceChannels before).sources sid) after)
    {j : ℕ} (hj : j < (callbackLens after).sum) :
    sampleAt ((passagesSince deviceChannels sid before after).filterMap Fifo.Passage.emitted).flatten j =
      sampleAt (queueOf (Playback.run deviceChannels before).sources sid ++ laidOut deviceChannels sid after) j := by
  rcases h with h | h
  · have hlen : ((passagesSince deviceChannels sid before after).filterMap Fifo.Passage.emitted).flatten.length =
        (callbackLens after).sum := by
      rw [List.length_flatten, emittedSince_lengths]
    rw [← emittedSince_onSchedule hdc h, sampleAt_append, if_pos (hlen ▸ hj)]
  · rw [emittedSince_mute h, h.1, h.2]
    rfl

theorem writtenSince_sum (before after : List (PlaybackEvent α)) (k i : ℕ) :
    writtenAt (writtenSince deviceChannels before after) k i = ∑ sid ∈ heard (before ++ after),
      writtenAt ((passagesSince deviceChannels sid before after).filterMap Fifo.Passage.emitted) k i := by
  have hsum : writtenAt (Playback.run deviceChannels (before ++ after)).written
      ((Playback.run deviceChannels before).written.length + k) i = ∑ sid ∈ heard (before ++ after),
        writtenAt (sourceFifo deviceChannels sid (before ++ after)).emitted
          ((Playback.run deviceChannels before).written.length + k) i := writtenAt_run _ (fun _ hs => hs) _ _
  rw [written_append, writtenAt_append_right] at hsum
  rw [hsum]
  refine Finset.sum_congr rfl fun sid _ => ?_
  rw [emitted_append, ← emitted_length before sid, writtenAt_append_right]

/-- The mix. After any run, while every source heard so far is on schedule or mute, the buffers the device gets are,
put together, the sample-wise sum of what each source had queued followed by what is laid out for it. -/
theorem mix_on_schedule (hdc : 0 < deviceChannels) (before after : List (PlaybackEvent α))
    (h : ∀ sid ∈ heard (before ++ after),
      OnSchedule deviceChannels sid (queueOf (Playback.run deviceChannels before).sources sid).length after ∨
        Mute deviceChannels sid (queueOf (Playback.run deviceChannels before).sources sid) after)
    {j : ℕ} (hj : j < (callbackLens after).sum) :
    sampleAt (writtenSince deviceChannels before after).flatten j = ∑ sid ∈ heard (before ++ after),
      sampleAt (queueOf (Playback.run deviceChannels before).sources sid ++ laidOut deviceChannels sid after) j := by
  rw [sampleAt_flatten (fun sid _ => (emittedSince_lengths sid before after).trans (writtenSince_lengths _ _).symm)
    (writtenSince_sum before after)]
  exact Finset.sum_congr rfl fun sid hsid => sampleAt_emittedSince hdc (h sid hsid) hj

/-- a source that starts while another one has stopped -/
theorem mix_on_schedule_two :
    let before : List (PlaybackEvent ℚ) := [.frame 3 1 [1, 2], .callback 2]
    let after : List (PlaybackEvent ℚ) := [.frame 7 1 [1, 2, 3, 4], .callback 2]
    sampleAt (writtenSince 2 before after).flatten 1 = ∑ sid ∈ heard (before ++ after),
      sampleAt (queueOf (Playback.run 2 before).sources sid ++ laidOut 2 sid after) 1 := by
  intro before after
  have hheard : heard (before ++ after) = {3, 7} := by decide
  have hqueue : ∀ sid, queueOf (Playback.run 2 before).sources sid = [] := by
    intro sid
    by_cases h : 3 = sid
    · simp [queueOf_run, before, sourceFifo, PlaybackEvent.sourceOp, h, Fifo.run, Fifo.empty, Fifo.step, layOut,
        alignedDrain, maxBuffered, applyVolume, Runs.run]
    · simp [queueOf_run, before, sourceFifo, PlaybackEvent.sourceOp, h, Fifo.run, Fifo.empty, Fifo.step, Runs.run]
  refine mix_on_schedule (by decide) before after (fun sid hsid => ?_) (by decide)
  rw [hheard, Finset.mem_insert, Finset.mem_singleton] at hsid
  rcases hsid with rfl | rfl
  · exact Or.inr ⟨hqueue 3, rfl⟩
  · refine Or.inl ?_
    rw [hqueue]
    exact ⟨fun _ => by decide, (by decide : 2 ≤ 4), trivial⟩

end Runs

end MumbledFlight

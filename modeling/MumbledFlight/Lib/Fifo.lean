/-
A FIFO that may lose its oldest values when it is pushed to, and the account of every value that went through it.

`excess` says how many values a queue of a given length gives up. The machine keeps, oldest first, every passage out of
the queue: the values of each pop, with the number that was asked for, and the values each push lost.

Results:
- `conserved`: the values pushed are, in order, the values that left followed by those still queued. So every value
  leaves at most once, oldest first, and a loss takes the oldest.
- `emitted_lengths`: padded with zeros, each pop yields exactly the number of values it asked for.
- `aligned_run`: if all that is pushed, asked for and given up is whole groups of d values, the queue and every passage
  out of it are.
- `queue_from`: what is left of an old queue shrinks by what is asked for, so no value outstays as many asked for as
  were queued with it.
- `whole_iff`: a run loses nothing and leaves no pop short iff every operation fits the backlog, counted from what is
  pushed and asked for alone; `emitted_whole`: its pops then yield what was queued and nothing else.
- `run_copies`: a queue in which every value stands n times over, asked for n times as much, runs as the plain one.
-/
import Mathlib.Algebra.GroupWithZero.Nat
import Mathlib.Data.List.Induction
import MumbledFlight.Lib.Runs

inductive Fifo.Op (α : Type*) where
  | push (xs : List α)
  | pop (n : ℕ)

/-- values leaving the queue -/
inductive Fifo.Passage (α : Type*) where
  | lost (xs : List α)
  | popped (n : ℕ) (xs : List α)

structure Fifo (α : Type*) where
  queue : List α
  /-- oldest first -/
  passed : List (Fifo.Passage α)

namespace Fifo

variable {α : Type*}

def empty : Fifo α := ⟨[], []⟩

def step (excess : ℕ → ℕ) (f : Fifo α) : Op α → Fifo α
  | .push xs =>
    let q := f.queue ++ xs
    ⟨q.drop (excess q.length), f.passed ++ [.lost (q.take (excess q.length))]⟩
  | .pop n => ⟨f.queue.drop n, f.passed ++ [.popped n (f.queue.take n)]⟩

def run (excess : ℕ → ℕ) (ops : List (Op α)) : Fifo α := Runs.run (step excess) empty ops

/-! ## Nothing is reordered, duplicated or lost unseen -/

def Passage.values : Passage α → List α
  | .lost xs => xs
  | .popped _ xs => xs

def Op.values : Op α → List α
  | .push xs => xs
  | .pop _ => []

/-- everything that has been in the queue, in order -/
def contents (f : Fifo α) : List α := f.passed.flatMap Passage.values ++ f.queue

theorem contents_step (excess : ℕ → ℕ) (f : Fifo α) (op : Op α) :
    (f.step excess op).contents = f.contents ++ op.values := by
  cases op with
  | push xs => simp [contents, step, Passage.values, Op.values]
  | pop n => simp [contents, step, Passage.values, Op.values]

theorem conserved (excess : ℕ → ℕ) (ops : List (Op α)) :
    ops.flatMap Op.values = (run excess ops).passed.flatMap Passage.values ++ (run excess ops).queue := by
  change _ = (run excess ops).contents
  induction ops using List.reverseRecOn with
  | nil => rfl
  | append_singleton ops op ih =>
    have hrun : run excess (ops ++ [op]) = (run excess ops).step excess op := Runs.run_snoc _ _ _
    rw [hrun, contents_step, ← ih]
    simp

/-! ## Whole groups -/

def Op.Aligned (d : ℕ) : Op α → Prop
  | .push xs => d ∣ xs.length
  | .pop n => d ∣ n

/-- whole groups of d, and no more than the cap of them queued -/
structure Aligned (d cap : ℕ) (f : Fifo α) : Prop where
  queue : d ∣ f.queue.length
  le_cap : f.queue.length ≤ cap
  passed : ∀ p ∈ f.passed, d ∣ p.values.length

theorem dvd_length_take {d n : ℕ} {xs : List α} (hn : d ∣ n) (hxs : d ∣ xs.length) : d ∣ (xs.take n).length := by
  rw [List.length_take]
  rcases Nat.le_total n xs.length with h | h
  · rwa [Nat.min_eq_left h]
  · rwa [Nat.min_eq_right h]

theorem dvd_length_drop {d n : ℕ} {xs : List α} (hn : d ∣ n) (hxs : d ∣ xs.length) : d ∣ (xs.drop n).length := by
  rw [List.length_drop]
  exact Nat.dvd_sub hxs hn

theorem aligned_step {excess : ℕ → ℕ} {d cap : ℕ} (hexcess : ∀ len, d ∣ len → d ∣ excess len ∧ len - excess len ≤ cap)
    {f : Fifo α} (hf : Aligned d cap f) {op : Op α} (hop : op.Aligned d) : Aligned d cap (f.step excess op) := by
  cases op with
  | push xs =>
    have hlen : d ∣ (f.queue ++ xs).length := by
      rw [List.length_append]
      exact Nat.dvd_add hf.queue hop
    obtain ⟨hdvd, hcap⟩ := hexcess _ hlen
    refine ⟨dvd_length_drop hdvd hlen, ?_, List.forall_mem_append.2 ⟨hf.passed, ?_⟩⟩
    · simpa only [step, List.length_drop] using hcap
    · exact List.forall_mem_singleton.2 (dvd_length_take hdvd hlen)
  | pop n =>
    refine ⟨dvd_length_drop hop hf.queue, ?_, List.forall_mem_append.2 ⟨hf.passed, ?_⟩⟩
    · simp only [step, List.length_drop]
      exact Nat.le_trans (Nat.sub_le _ _) hf.le_cap
    · exact List.forall_mem_singleton.2 (dvd_length_take hop hf.queue)

theorem aligned_run {excess : ℕ → ℕ} {d cap : ℕ} (hexcess : ∀ len, d ∣ len → d ∣ excess len ∧ len - excess len ≤ cap)
    {ops : List (Op α)} (hops : ∀ op ∈ ops, op.Aligned d) : Aligned d cap (run excess ops) := by
  induction ops using List.reverseRecOn with
  | nil => exact ⟨Nat.dvd_zero d, Nat.zero_le cap, fun _ hp => absurd hp List.not_mem_nil⟩
  | append_singleton ops op ih =>
    have hrun : run excess (ops ++ [op]) = (run excess ops).step excess op := Runs.run_snoc _ _ _
    obtain ⟨hinit, hlast⟩ := List.forall_mem_append.1 hops
    rw [hrun]
    exact aligned_step hexcess (ih hinit) (hlast op List.mem_cons_self)

/-! ## What the pops yield -/

section Yield

variable [Zero α]

/-- a pop padded with zeros to the number of values asked for -/
def Passage.emitted : Passage α → Option (List α)
  | .lost _ => none
  | .popped n xs => some (xs ++ List.replicate (n - xs.length) 0)

def emitted (f : Fifo α) : List (List α) := f.passed.filterMap Passage.emitted

def Op.asked : Op α → Option ℕ
  | .push _ => none
  | .pop n => some n

theorem emitted_push (excess : ℕ → ℕ) (f : Fifo α) (xs : List α) :
    (f.step excess (.push xs)).emitted = f.emitted := by
  simp [emitted, step, Passage.emitted]

theorem emitted_pop (excess : ℕ → ℕ) (f : Fifo α) (n : ℕ) :
    (f.step excess (.pop n)).emitted =
      f.emitted ++ [f.queue.take n ++ List.replicate (n - (f.queue.take n).length) 0] := by
  simp [emitted, step, Passage.emitted]

theorem emitted_lengths (excess : ℕ → ℕ) (ops : List (Op α)) :
    (run excess ops).emitted.map List.length = ops.filterMap Op.asked := by
  induction ops using List.reverseRecOn with
  | nil => rfl
  | append_singleton ops op ih =>
    have hrun : run excess (ops ++ [op]) = (run excess ops).step excess op := Runs.run_snoc _ _ _
    rw [hrun, List.filterMap_append, ← ih]
    cases op with
    | push xs => simp [emitted_push, Op.asked]
    | pop n =>
      simp only [emitted_pop, List.map_append, List.map_cons, List.map_nil, List.filterMap_cons, List.filterMap_nil,
        Op.asked, List.append_cancel_left_eq, List.cons.injEq, and_true, List.length_append, List.length_take,
        List.length_replicate]
      omega

end Yield

/-! ## Runs from a queue -/

/-- the run from a queue, with the passages since -/
def runFrom (excess : ℕ → ℕ) (queue : List α) (ops : List (Op α)) : Fifo α := Runs.run (step excess) ⟨queue, []⟩ ops

theorem runFrom_snoc (excess : ℕ → ℕ) (queue : List α) (ops : List (Op α)) (op : Op α) :
    runFrom excess queue (ops ++ [op]) = (runFrom excess queue ops).step excess op := Runs.run_snoc _ _ _

theorem run_append (excess : ℕ → ℕ) (before after : List (Op α)) : run excess (before ++ after) =
    ⟨(runFrom excess (run excess before).queue after).queue,
      (run excess before).passed ++ (runFrom excess (run excess before).queue after).passed⟩ := by
  induction after using List.reverseRecOn with
  | nil => simp [runFrom]
  | append_singleton after op ih =>
    have hrun : run excess (before ++ after ++ [op]) = (run excess (before ++ after)).step excess op :=
      Runs.run_snoc _ _ _
    rw [← List.append_assoc, hrun, ih, runFrom_snoc]
    cases op with
    | push xs => simp [step]
    | pop n => simp [step]

theorem conserved_from (excess : ℕ → ℕ) (queue : List α) (ops : List (Op α)) : queue ++ ops.flatMap Op.values =
    (runFrom excess queue ops).passed.flatMap Passage.values ++ (runFrom excess queue ops).queue := by
  change _ = (runFrom excess queue ops).contents
  induction ops using List.reverseRecOn with
  | nil => simp [runFrom, contents]
  | append_singleton ops op ih =>
    rw [runFrom_snoc, contents_step, ← ih]
    simp

/-! ## How long a value stays -/

theorem length_queue_run {excess : ℕ → ℕ} {bound : ℕ} (hexcess : ∀ len, len - excess len ≤ bound)
    (ops : List (Op α)) : (run excess ops).queue.length ≤ bound := by
  induction ops using List.reverseRecOn with
  | nil => exact Nat.zero_le bound
  | append_singleton ops op ih =>
    have hrun : run excess (ops ++ [op]) = (run excess ops).step excess op := Runs.run_snoc _ _ _
    rw [hrun]
    cases op with
    | push xs => simpa only [step, List.length_drop] using hexcess _
    | pop n =>
      simp only [step, List.length_drop]
      exact Nat.le_trans (Nat.sub_le _ _) ih

/-- how many values the pops ask for -/
def demand (ops : List (Op α)) : ℕ := (ops.filterMap Op.asked).sum

@[simp] theorem demand_push (ops : List (Op α)) (xs : List α) : demand (ops ++ [.push xs]) = demand ops := by
  simp [demand, List.filterMap_cons, Op.asked]

@[simp] theorem demand_pop (ops : List (Op α)) (n : ℕ) : demand (ops ++ [.pop n]) = demand ops + n := by
  simp [demand, Op.asked]

/-- whatever leaves, for a pop or above the cap, leaves from the old end -/
theorem queue_from (excess : ℕ → ℕ) (queue : List α) (ops : List (Op α)) : ∃ old fresh,
    (runFrom excess queue ops).queue = old ++ fresh ∧ old <:+ queue ∧ fresh <:+ ops.flatMap Op.values ∧
      old.length ≤ queue.length - demand ops := by
  induction ops using List.reverseRecOn with
  | nil => exact ⟨queue, [], by simp [runFrom], List.suffix_refl _, List.suffix_refl _, by simp [demand]⟩
  | append_singleton ops op ih =>
    obtain ⟨old, fresh, hqueue, hold, hfresh, hlen⟩ := ih
    rw [runFrom_snoc]
    cases op with
    | push xs =>
      refine ⟨old.drop (excess (old ++ fresh ++ xs).length),
        (fresh ++ xs).drop (excess (old ++ fresh ++ xs).length - old.length), ?_, ?_, ?_, ?_⟩
      · rw [step, hqueue, List.append_assoc, List.drop_append]
      · exact (List.drop_suffix _ _).trans hold
      · refine (List.drop_suffix _ _).trans ?_
        obtain ⟨left, hleft⟩ := hfresh
        exact ⟨left, by simp [← hleft, Op.values]⟩
      · rw [List.length_drop, demand_push]
        omega
    | pop n =>
      refine ⟨old.drop n, fresh.drop (n - old.length), ?_, (List.drop_suffix _ _).trans hold, ?_, ?_⟩
      · rw [step, hqueue, List.drop_append]
      · simpa [Op.values] using (List.drop_suffix _ _).trans hfresh
      · rw [List.length_drop, demand_pop]
        omega

/-! ## Runs without a loss or a gap -/

/-- what is queued if nothing is ever lost and no pop is short -/
def Op.backlog (backlog : ℕ) : Op α → ℕ
  | .push xs => backlog + xs.length
  | .pop n => backlog - n

/-- the operation loses nothing and is not short on a queue of `backlog` values -/
def Op.Fits (excess : ℕ → ℕ) (backlog : ℕ) : Op α → Prop
  | .push xs => excess (backlog + xs.length) = 0
  | .pop n => n ≤ backlog

/-- counting alone, from `held` values, every operation fits -/
def OnSchedule (excess : ℕ → ℕ) (held : ℕ) (ops : List (Op α)) : Prop :=
  Runs.Meets Op.backlog (Op.Fits excess) held ops

/-- nothing is lost, a pop gets all it asked for -/
def Passage.Whole : Passage α → Prop
  | .lost xs => xs = []
  | .popped n xs => xs.length = n

/-- what an operation lets out of the queue -/
def passage (excess : ℕ → ℕ) (queue : List α) : Op α → Passage α
  | .push xs => .lost ((queue ++ xs).take (excess (queue ++ xs).length))
  | .pop n => .popped n (queue.take n)

theorem passed_step (excess : ℕ → ℕ) (f : Fifo α) (op : Op α) :
    (f.step excess op).passed = f.passed ++ [passage excess f.queue op] := by
  cases op <;> rfl

theorem whole_passage {excess : ℕ → ℕ} (hexcess : ∀ len, excess len ≤ len) (queue : List α) (op : Op α) :
    (passage excess queue op).Whole ↔ op.Fits excess queue.length := by
  cases op with
  | push xs =>
    simp only [passage, Passage.Whole, Op.Fits, ← List.length_append, List.take_eq_nil_iff]
    constructor
    · rintro (h | h)
      · exact h
      · exact Nat.le_zero.1 (h ▸ hexcess _)
    · exact Or.inl
  | pop n =>
    simp only [passage, Passage.Whole, Op.Fits, List.length_take]
    omega

theorem length_step_of_fits {excess : ℕ → ℕ} {f : Fifo α} {op : Op α} (h : op.Fits excess f.queue.length) :
    (f.step excess op).queue.length = op.backlog f.queue.length := by
  cases op with
  | push xs =>
    simp only [Op.Fits] at h
    simp only [step, Op.backlog, List.length_append, h, List.drop_zero]
  | pop n => simp [step, Op.backlog]

theorem length_of_onSchedule {excess : ℕ → ℕ} {queue : List α} {ops : List (Op α)}
    (h : OnSchedule excess queue.length ops) :
    (runFrom excess queue ops).queue.length = Runs.run Op.backlog queue.length ops := by
  induction ops using List.reverseRecOn with
  | nil => rfl
  | append_singleton ops op ih =>
    obtain ⟨hinit, hlast⟩ := (Runs.meets_append _ _ _).1 h
    have hlen := ih hinit
    rw [runFrom_snoc, Runs.run_snoc, ← hlen]
    apply length_step_of_fits
    rw [hlen]
    exact hlast.1

theorem whole_iff {excess : ℕ → ℕ} (hexcess : ∀ len, excess len ≤ len) (queue : List α) (ops : List (Op α)) :
    (∀ p ∈ (runFrom excess queue ops).passed, p.Whole) ↔ OnSchedule excess queue.length ops := by
  induction ops using List.reverseRecOn with
  | nil => exact iff_of_true (fun _ hp => absurd hp List.not_mem_nil) trivial
  | append_singleton ops op ih =>
    unfold OnSchedule at ih ⊢
    rw [runFrom_snoc, passed_step, List.forall_mem_append, List.forall_mem_singleton, ih, Runs.meets_append]
    refine and_congr_right fun hinit => ?_
    rw [whole_passage hexcess, length_of_onSchedule hinit]
    exact (and_iff_left trivial).symm

/-- pops that are not short yield no padding -/
theorem emitted_whole [Zero α] {passed : List (Passage α)} (h : ∀ p ∈ passed, p.Whole) :
    (passed.filterMap Passage.emitted).flatten = passed.flatMap Passage.values := by
  induction passed with
  | nil => rfl
  | cons p passed ih =>
    obtain ⟨hp, hrest⟩ := List.forall_mem_cons.1 h
    rw [List.flatMap_cons, ← ih hrest]
    cases p with
    | lost xs =>
      obtain rfl : xs = [] := hp
      simp [List.filterMap_cons, Passage.emitted, Passage.values]
    | popped n xs =>
      obtain rfl : xs.length = n := hp
      simp [Passage.emitted, Passage.values]

/-! ## Every value several times over -/

/-- every value n times -/
def spread (n : ℕ) (xs : List α) : List α := xs.flatMap fun x => List.replicate n x

@[simp] theorem spread_cons (n : ℕ) (x : α) (xs : List α) :
    spread n (x :: xs) = List.replicate n x ++ spread n xs := List.flatMap_cons

@[simp] theorem spread_append (n : ℕ) (xs ys : List α) : spread n (xs ++ ys) = spread n xs ++ spread n ys :=
  List.flatMap_append

@[simp] theorem length_spread (n : ℕ) (xs : List α) : (spread n xs).length = n * xs.length := by
  induction xs with
  | nil => rfl
  | cons x xs ih =>
    rw [spread_cons, List.length_append, ih, List.length_replicate, List.length_cons, Nat.mul_succ, Nat.add_comm]

theorem take_spread (n m : ℕ) (xs : List α) : (spread n xs).take (n * m) = spread n (xs.take m) := by
  induction xs generalizing m with
  | nil => simp [spread]
  | cons x xs ih =>
    cases m with
    | zero => simp [spread]
    | succ m =>
      have hrest : n * (m + 1) - n = n * m := by rw [Nat.mul_succ, Nat.add_sub_cancel]
      have hfirst : n ≤ n * (m + 1) := Nat.le_mul_of_pos_right n (Nat.succ_pos m)
      rw [spread_cons, List.take_append, List.length_replicate, hrest, ih, List.take_succ_cons, spread_cons,
        List.take_of_length_le (by simpa using hfirst)]

theorem drop_spread (n m : ℕ) (xs : List α) : (spread n xs).drop (n * m) = spread n (xs.drop m) := by
  have hsplit : (spread n xs).take (n * m) ++ (spread n xs).drop (n * m) =
      spread n (xs.take m) ++ spread n (xs.drop m) := by
    rw [List.take_append_drop, ← spread_append, List.take_append_drop]
  rw [take_spread] at hsplit
  exact List.append_cancel_left hsplit

def Op.spread (n : ℕ) : Op α → Op α
  | .push xs => .push (Fifo.spread n xs)
  | .pop m => .pop (n * m)

def Passage.spread (n : ℕ) : Passage α → Passage α
  | .lost xs => .lost (Fifo.spread n xs)
  | .popped m xs => .popped (n * m) (Fifo.spread n xs)

def copies (n : ℕ) (f : Fifo α) : Fifo α := ⟨spread n f.queue, f.passed.map (Passage.spread n)⟩

section

variable {n : ℕ} {excess excess' : ℕ → ℕ} (h : ∀ len, excess' (n * len) = n * excess len)

include h

theorem step_copies (f : Fifo α) (op : Op α) :
    (f.copies n).step excess' (op.spread n) = (f.step excess op).copies n := by
  cases op with
  | push xs =>
    have hexcess : excess' (spread n f.queue ++ spread n xs).length = n * excess (f.queue ++ xs).length := by
      rw [← spread_append, length_spread, h]
    simp only [step, copies, Op.spread, hexcess, List.map_append, List.map_cons, List.map_nil, Passage.spread]
    rw [← spread_append, take_spread, drop_spread]
  | pop m =>
    simp only [step, copies, Op.spread, List.map_append, List.map_cons, List.map_nil, Passage.spread]
    rw [take_spread, drop_spread]

/-- a queue of n copies, asked for n times as much, is n copies of the queue -/
theorem run_copies (ops : List (Op α)) : run excess' (ops.map (Op.spread n)) = (run excess ops).copies n := by
  induction ops using List.reverseRecOn with
  | nil => rfl
  | append_singleton ops op ih =>
    have hrun : run excess (ops ++ [op]) = (run excess ops).step excess op := Runs.run_snoc _ _ _
    have hrun' : run excess' (ops.map (Op.spread n) ++ [op.spread n]) =
        (run excess' (ops.map (Op.spread n))).step excess' (op.spread n) := Runs.run_snoc _ _ _
    rw [List.map_append, List.map_singleton, hrun', ih, step_copies h, hrun]

end

theorem emitted_copies [Zero α] (n : ℕ) (f : Fifo α) : (f.copies n).emitted = f.emitted.map (spread n) := by
  unfold emitted copies
  rw [List.filterMap_map, List.map_filterMap]
  refine List.filterMap_congr fun p _ => ?_
  cases p with
  | lost xs => rfl
  | popped m xs =>
    have hzeros : spread n (List.replicate (m - xs.length) (0 : α)) = List.replicate (n * m - n * xs.length) 0 := by
      rw [spread, List.flatMap_replicate, List.flatten_replicate_replicate, Nat.mul_comm, ← Nat.mul_sub]
    simp [Passage.spread, Passage.emitted, hzeros]

end Fifo

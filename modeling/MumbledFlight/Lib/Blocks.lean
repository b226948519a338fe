/-
A stream cut into blocks: what arrives is appended to a buffer, and while the buffer holds a full block it is taken from
the front and processed. The processing may have a state.

`Splits` says that a transducer does not care how its input is cut: two inputs one after the other do what their
concatenation does.

Results, for every block length and processing:
- `drain_append`: draining after each of two inputs is draining after both.
- `feedAll_eq`: a transducer that splits depends on the concatenation of its inputs only.
- `frames_flatten`, `length_of_mem_frames`, `rest_lt`: the blocks are full and in order, with less than a block left.
- `drain_eq_feedAll`: draining processes exactly these blocks, in order.
-/
import Mathlib.Data.List.Basic
import Mathlib.Data.Nat.Notation

namespace Blocks

variable {α β σ : Type*}

/-! ## Transducers -/

/-- a step that takes some input and gives some output -/
abbrev Transducer (σ α β : Type*) := σ → List α → σ × List β

def feedAll (step : Transducer σ α β) (s : σ) : List (List α) → σ × List β
  | [] => (s, [])
  | input :: inputs =>
    let r := step s input
    let t := feedAll step r.1 inputs
    (t.1, r.2 ++ t.2)

def Splits (step : Transducer σ α β) : Prop :=
  ∀ s as bs, step s (as ++ bs) = ((step (step s as).1 bs).1, (step s as).2 ++ (step (step s as).1 bs).2)

/-- where a transducer has come to rest, no input changes nothing -/
theorem Splits.nil {step : Transducer σ α β} (h : Splits step) (s : σ) (as : List α) :
    step (step s as).1 [] = ((step s as).1, []) := by
  have hself : step s as = ((step (step s as).1 []).1, (step s as).2 ++ (step (step s as).1 []).2) :=
    (congrArg (step s) (List.append_nil as).symm).trans (h s as [])
  have hstate := congrArg Prod.fst hself
  have hout := congrArg Prod.snd hself
  exact Prod.ext hstate.symm (List.self_eq_append_right.1 hout)

/-- The way the input is cut does not matter. -/
theorem feedAll_eq {step : Transducer σ α β} (h : Splits step) {s : σ} (hs : step s [] = (s, []))
    (inputs : List (List α)) : feedAll step s inputs = step s inputs.flatten := by
  induction inputs generalizing s with
  | nil => exact hs.symm
  | cons input inputs ih =>
    rw [feedAll, ih (h.nil s input), List.flatten_cons, h s input]

theorem feedAll_map {γ : Type*} (step : Transducer σ α β) (f : List γ → List α) (s : σ) (inputs : List (List γ)) :
    feedAll (fun s input => step s (f input)) s inputs = feedAll step s (inputs.map f) := by
  induction inputs generalizing s with
  | nil => rfl
  | cons input inputs ih => rw [List.map_cons, feedAll, feedAll, ih]

/-! ## Draining -/

section

variable (n : ℕ) (process : Transducer σ α β)

/-- while the buffer holds a block of n, it is processed; the state and the output, and what is left of the buffer -/
def drain (s : σ) (buffer : List α) : σ × List β × List α :=
  if 0 < n ∧ n ≤ buffer.length then
    let block := process s (buffer.take n)
    let r := drain block.1 (buffer.drop n)
    (r.1, block.2 ++ r.2.1, r.2.2)
  else (s, [], buffer)
termination_by buffer.length
decreasing_by simp only [List.length_drop]; omega

variable {n process}

theorem drain_block {buffer : List α} (hn : 0 < n) (h : n ≤ buffer.length) (s : σ) :
    drain n process s buffer =
      ((drain n process (process s (buffer.take n)).1 (buffer.drop n)).1,
        (process s (buffer.take n)).2 ++ (drain n process (process s (buffer.take n)).1 (buffer.drop n)).2.1,
        (drain n process (process s (buffer.take n)).1 (buffer.drop n)).2.2) := by
  rw [drain, if_pos ⟨hn, h⟩]

theorem drain_short {buffer : List α} (h : ¬(0 < n ∧ n ≤ buffer.length)) (s : σ) :
    drain n process s buffer = (s, [], buffer) := by
  rw [drain, if_neg h]

/-- what is left after some input is drained with the next -/
theorem drain_append (s : σ) (as bs : List α) :
    drain n process s (as ++ bs) =
      ((drain n process (drain n process s as).1 ((drain n process s as).2.2 ++ bs)).1,
        (drain n process s as).2.1 ++ (drain n process (drain n process s as).1 ((drain n process s as).2.2 ++ bs)).2.1,
        (drain n process (drain n process s as).1 ((drain n process s as).2.2 ++ bs)).2.2) := by
  fun_induction drain n process s as with
  | case1 s as hfull block r ih =>
    have hlen : n ≤ (as ++ bs).length := by
      rw [List.length_append]
      omega
    rw [drain_block hfull.1 hlen, List.take_append_of_le_length hfull.2, List.drop_append_of_le_length hfull.2, ih,
      List.append_assoc]
  | case2 s as hshort => rw [List.nil_append]

theorem rest_lt (hn : 0 < n) (s : σ) (buffer : List α) : (drain n process s buffer).2.2.length < n := by
  fun_induction drain n process s buffer with
  | case1 s buffer hfull block r ih => exact ih
  | case2 s buffer hshort =>
    dsimp only
    omega

/-- every output is one of a full block -/
theorem mem_drain {P : β → Prop} (hP : ∀ s block, block.length = n → ∀ y ∈ (process s block).2, P y) (s : σ)
    (buffer : List α) : ∀ y ∈ (drain n process s buffer).2.1, P y := by
  fun_induction drain n process s buffer with
  | case1 s buffer hfull block r ih =>
    intro y hy
    rcases List.mem_append.1 hy with hy | hy
    · exact hP s _ (List.length_take_of_le hfull.2) y hy
    · exact ih y hy
  | case2 s buffer hshort => exact fun y hy => absurd hy List.not_mem_nil

end

/-! ## Frames -/

/-- the full blocks themselves, and what is left -/
def frames (n : ℕ) (buffer : List α) : List (List α) × List α :=
  (drain n (fun (_ : Unit) block => ((), [block])) () buffer).2

theorem frames_append (n : ℕ) (as bs : List α) :
    frames n (as ++ bs) =
      ((frames n as).1 ++ (frames n ((frames n as).2 ++ bs)).1, (frames n ((frames n as).2 ++ bs)).2) :=
  congrArg Prod.snd (drain_append () as bs)

theorem frames_block {n : ℕ} {buffer : List α} (hn : 0 < n) (h : n ≤ buffer.length) :
    frames n buffer = (buffer.take n :: (frames n (buffer.drop n)).1, (frames n (buffer.drop n)).2) :=
  congrArg Prod.snd (drain_block hn h ())

theorem frames_short {n : ℕ} {buffer : List α} (h : ¬(0 < n ∧ n ≤ buffer.length)) : frames n buffer = ([], buffer) :=
  congrArg Prod.snd (drain_short h ())

theorem length_of_mem_frames {n : ℕ} {buffer block : List α} (h : block ∈ (frames n buffer).1) : block.length = n := by
  refine mem_drain (P := fun block => block.length = n) ?_ () buffer block h
  intro _ block hlen y hy
  rw [List.mem_singleton.1 hy, hlen]

theorem frames_rest_lt {n : ℕ} (hn : 0 < n) (buffer : List α) : (frames n buffer).2.length < n := rest_lt hn () buffer

/-- Draining is processing the full blocks. -/
theorem drain_eq_feedAll (n : ℕ) (process : Transducer σ α β) (s : σ) (buffer : List α) :
    drain n process s buffer =
      ((feedAll process s (frames n buffer).1).1, (feedAll process s (frames n buffer).1).2, (frames n buffer).2) := by
  fun_induction drain n process s buffer with
  | case1 s buffer hfull block r ih =>
    rw [frames_block hfull.1 hfull.2, feedAll]
    dsimp only [r, block]
    rw [ih]
  | case2 s buffer hshort => rw [frames_short hshort, feedAll]

theorem frames_flatten (n : ℕ) (buffer : List α) : (frames n buffer).1.flatten ++ (frames n buffer).2 = buffer := by
  by_cases hfull : 0 < n ∧ n ≤ buffer.length
  · rw [frames_block hfull.1 hfull.2, List.flatten_cons, List.append_assoc, frames_flatten n (buffer.drop n),
      List.take_append_drop]
  · rw [frames_short hfull, List.flatten_nil, List.nil_append]
termination_by buffer.length
decreasing_by simp only [List.length_drop]; omega

theorem length_flatten_of {n : ℕ} {blocks : List (List α)} (h : ∀ block ∈ blocks, block.length = n) :
    blocks.flatten.length = n * blocks.length := by
  induction blocks with
  | nil => rfl
  | cons block blocks ih =>
    have htail := ih fun b hb => h b (List.mem_cons_of_mem block hb)
    rw [List.flatten_cons, List.length_append, htail, h block List.mem_cons_self, List.length_cons, Nat.mul_succ,
      Nat.add_comm]

theorem dvd_length_flatten {n : ℕ} {inputs : List (List α)} (h : ∀ input ∈ inputs, n ∣ input.length) :
    n ∣ inputs.flatten.length := by
  induction inputs with
  | nil => exact Nat.dvd_zero n
  | cons input inputs ih =>
    rw [List.flatten_cons, List.length_append]
    exact Nat.dvd_add (h input List.mem_cons_self) (ih fun i hi => h i (List.mem_cons_of_mem input hi))

theorem dvd_length_flatMap {n : ℕ} {f : β → List α} {xs : List β} (h : ∀ x ∈ xs, n ∣ (f x).length) :
    n ∣ (xs.flatMap f).length := by
  rw [List.flatMap_def]
  exact dvd_length_flatten (List.forall_mem_map.2 h)

/-- a whole number of blocks leaves nothing -/
theorem frames_rest_nil {n : ℕ} (hn : 0 < n) {buffer : List α} (h : n ∣ buffer.length) : (frames n buffer).2 = [] := by
  have hblocks : (frames n buffer).1.flatten.length = n * (frames n buffer).1.length :=
    length_flatten_of fun _ hb => length_of_mem_frames hb
  rw [← frames_flatten n buffer, List.length_append, hblocks] at h
  have hdvd : n ∣ (frames n buffer).2.length := (Nat.dvd_add_right ⟨_, rfl⟩).1 h
  exact List.eq_nil_of_length_eq_zero (Nat.eq_zero_of_dvd_of_lt hdvd (frames_rest_lt hn buffer))

end Blocks

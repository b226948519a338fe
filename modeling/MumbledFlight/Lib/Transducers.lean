/-
Transducers: deterministic machines whose every step also yields outputs, and what one machine shows of another.

A projection maps the states of one transducer to those of a second one, and drops or renames its events and outputs.
A dropped event may change nothing that the second machine has, and no output it would hear; any other event is a step
of the second machine.

Results:
- `Projects.final`, `Projects.outputs`: a whole run is projected to a run.
- `Projects.outputs_filter`: so dropped events may be taken out of a run, and nobody hears it.
- `mem_outputs_iff`: each output of a run is one of some step of it.
-/
import MumbledFlight.Lib.Runs

namespace Transducer

variable {σ ε ω σ' ε' ω' : Type*}

/-- the step without its outputs -/
def next (step : σ → ε → σ × List ω) (s : σ) (e : ε) : σ := (step s e).1

def final (step : σ → ε → σ × List ω) (s : σ) (es : List ε) : σ := Runs.run (next step) s es

/-- the outputs of a run, in order -/
def outputs (step : σ → ε → σ × List ω) : σ → List ε → List ω
  | _, [] => []
  | s, e :: es => (step s e).2 ++ outputs step (next step s e) es

variable {step : σ → ε → σ × List ω} {step' : σ' → ε' → σ' × List ω'}

@[simp] theorem outputs_nil (s : σ) : outputs step s [] = [] := rfl

@[simp] theorem outputs_cons (s : σ) (e : ε) (es : List ε) :
    outputs step s (e :: es) = (step s e).2 ++ outputs step (next step s e) es := rfl

theorem mem_outputs_iff {s : σ} {es : List ε} {o : ω} :
    o ∈ outputs step s es ↔ ∃ as e bs, es = as ++ e :: bs ∧ o ∈ (step (final step s as) e).2 := by
  induction es generalizing s with
  | nil => simp
  | cons e es ih =>
    rw [outputs_cons, List.mem_append, ih]
    refine ⟨?_, ?_⟩
    · rintro (h | ⟨as, e', bs, rfl, h⟩)
      · exact ⟨[], e, es, rfl, h⟩
      · exact ⟨e :: as, e', bs, rfl, h⟩
    · rintro ⟨as, e', bs, hes, h⟩
      cases as with
      | nil =>
        obtain ⟨rfl, rfl⟩ := List.cons.inj hes
        exact Or.inl h
      | cons a as =>
        obtain ⟨rfl, rfl⟩ := List.cons.inj hes
        exact Or.inr ⟨as, e', bs, rfl, h⟩

/-- the second machine is what is left of the first one: its part of the state, the events it takes, the outputs it
hears -/
structure Projects (step : σ → ε → σ × List ω) (step' : σ' → ε' → σ' × List ω') (view : σ → σ')
    (takes : ε → Option ε') (hears : ω → Option ω') : Prop where
  dropped : ∀ s e, takes e = none → view (step s e).1 = view s ∧ (step s e).2.filterMap hears = []
  taken : ∀ s e e', takes e = some e' → step' (view s) e' = (view (step s e).1, (step s e).2.filterMap hears)

namespace Projects

variable {view : σ → σ'} {takes : ε → Option ε'} {hears : ω → Option ω'}

theorem final (h : Projects step step' view takes hears) (s : σ) (es : List ε) :
    view (final step s es) = Transducer.final step' (view s) (es.filterMap takes) := by
  induction es generalizing s with
  | nil => rfl
  | cons e es ih =>
    have hrest : view (Transducer.final step s (e :: es)) = view (Transducer.final step (step s e).1 es) := rfl
    rw [hrest, ih]
    cases htakes : takes e with
    | none => rw [List.filterMap_cons_none htakes, (h.dropped s e htakes).1]
    | some e' =>
      rw [List.filterMap_cons_some htakes]
      have hstep : next step' (view s) e' = view (step s e).1 := congrArg Prod.fst (h.taken s e e' htakes)
      rw [← hstep]
      rfl

theorem outputs (h : Projects step step' view takes hears) (s : σ) (es : List ε) :
    (outputs step s es).filterMap hears = Transducer.outputs step' (view s) (es.filterMap takes) := by
  induction es generalizing s with
  | nil => rfl
  | cons e es ih =>
    rw [outputs_cons, List.filterMap_append, ih]
    cases htakes : takes e with
    | none =>
      obtain ⟨hview, hsilent⟩ := h.dropped s e htakes
      rw [List.filterMap_cons_none htakes, hsilent, List.nil_append, next, hview]
    | some e' =>
      have hstep := h.taken s e e' htakes
      rw [List.filterMap_cons_some htakes, outputs_cons, next, next, hstep]

/-- events that the second machine drops may be taken out of a run -/
theorem outputs_filter (h : Projects step step' view takes hears) {keep : ε → Bool}
    (hkeep : ∀ e, keep e = false → takes e = none) (s : σ) (es : List ε) :
    (Transducer.outputs step s (es.filter keep)).filterMap hears =
      (Transducer.outputs step s es).filterMap hears := by
  have htaken : (es.filter keep).filterMap takes = es.filterMap takes := by
    rw [List.filterMap_filter]
    refine List.filterMap_congr fun e _ => ?_
    cases hk : keep e with
    | true => simp
    | false => simp [hkeep e hk]
  rw [h.outputs, h.outputs, htaken]

end Projects

end Transducer

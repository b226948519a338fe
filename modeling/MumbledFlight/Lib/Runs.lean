/-
Runs of a deterministic machine, and the induction rules for them.

A machine is a step function `step : σ → ε → σ`; a run is the list of its events, oldest first. Two predicates are
read along a run: `Always P`, that P holds in every state it passes through, and `Meets G`, that every event is
allowed by G in the state that takes it.

Results:
- `always_iff_meets`, `always_iff_meets_of`: when every event that is not allowed breaks P, the runs along which P
  always holds are exactly the runs of allowed events.
- `meets_congr`: guards that agree on the invariant states allow the same runs.
- `always_iff_meetsPast`, `meets_iff_meetsPast`: the same for a condition on the events alone. `MeetsPast` reads no
  state, only the events before each event; an invariant ties the state to them.
-/
import Mathlib.Data.List.Basic

namespace Runs

variable {σ ε : Type*} {step : σ → ε → σ}

def run (step : σ → ε → σ) (s : σ) (es : List ε) : σ := es.foldl step s

/-- P holds in every state of the run, the first one included -/
def Always (step : σ → ε → σ) (P : σ → Prop) : σ → List ε → Prop
  | s, [] => P s
  | s, e :: es => P s ∧ Always step P (step s e) es

/-- every event of the run is allowed by G in the state that takes it -/
def Meets (step : σ → ε → σ) (G : σ → ε → Prop) : σ → List ε → Prop
  | _, [] => True
  | s, e :: es => G s e ∧ Meets step G (step s e) es

@[simp] theorem run_nil (s : σ) : run step s [] = s := rfl

@[simp] theorem run_cons (s : σ) (e : ε) (es : List ε) : run step s (e :: es) = run step (step s e) es := rfl

theorem run_append (s : σ) (as bs : List ε) : run step s (as ++ bs) = run step (run step s as) bs := by
  simp [run, List.foldl_append]

theorem run_snoc (s : σ) (es : List ε) (e : ε) : run step s (es ++ [e]) = step (run step s es) e := by
  simp [run_append]

/-- what every step keeps, every run keeps -/
theorem run_inv {P : σ → Prop} (hstep : ∀ s e, P s → P (step s e)) {s : σ} (hs : P s) (es : List ε) :
    P (run step s es) := by
  induction es generalizing s with
  | nil => exact hs
  | cons e es ih => exact ih (hstep s e hs)

theorem Always.head {P : σ → Prop} {s : σ} {es : List ε} (h : Always step P s es) : P s := by
  cases es with
  | nil => exact h
  | cons e es => exact h.1

theorem Always.mono {P Q : σ → Prop} (hPQ : ∀ s, P s → Q s) {s : σ} {es : List ε} (h : Always step P s es) :
    Always step Q s es := by
  induction es generalizing s with
  | nil => exact hPQ s h
  | cons e es ih => exact ⟨hPQ s h.1, ih h.2⟩

/-- what every step keeps holds all along every run -/
theorem always_of_inv {P : σ → Prop} (hstep : ∀ s e, P s → P (step s e)) {s : σ} (hs : P s) (es : List ε) :
    Always step P s es := by
  induction es generalizing s with
  | nil => exact hs
  | cons e es ih => exact ⟨hs, ih (hstep s e hs)⟩

theorem meets_append {G : σ → ε → Prop} (s : σ) (as bs : List ε) :
    Meets step G s (as ++ bs) ↔ Meets step G s as ∧ Meets step G (run step s as) bs := by
  induction as generalizing s with
  | nil => exact (and_iff_right trivial).symm
  | cons e as ih => exact (and_congr_right fun _ => ih (step s e)).trans and_assoc.symm

/-- what every allowed event keeps, every run of allowed events keeps -/
theorem run_inv_of_meets {P : σ → Prop} {G : σ → ε → Prop} (hstep : ∀ s e, P s → G s e → P (step s e)) {s : σ}
    (hs : P s) {es : List ε} (h : Meets step G s es) : P (run step s es) := by
  induction es generalizing s with
  | nil => exact hs
  | cons e es ih => exact ih (hstep s e hs h.1) h.2

/-- two guards that agree wherever the invariant J holds allow the same runs -/
theorem meets_congr {J : σ → Prop} {G G' : σ → ε → Prop} (hinv : ∀ s e, J s → J (step s e))
    (hG : ∀ s e, J s → (G s e ↔ G' s e)) {s : σ} (hJ : J s) (es : List ε) : Meets step G s es ↔ Meets step G' s es := by
  induction es generalizing s with
  | nil => exact Iff.rfl
  | cons e es ih => exact and_congr (hG s e hJ) (ih (hinv s e hJ))

/-- Exact runs among the events L lets happen. J is an invariant of these events; together with J, an allowed event
keeps P and any other event breaks it. Then P holds along a run exactly when every event of the run is allowed. -/
theorem always_iff_meets_of {J P : σ → Prop} {L G : σ → ε → Prop} (hinv : ∀ s e, J s → L s e → J (step s e))
    (hkeep : ∀ s e, J s → P s → L s e → G s e → P (step s e))
    (hbreak : ∀ s e, J s → P s → L s e → P (step s e) → G s e) {s : σ} (hJ : J s) (hP : P s) {es : List ε}
    (hes : Meets step L s es) : Always step P s es ↔ Meets step G s es := by
  induction es generalizing s with
  | nil => exact ⟨fun _ => trivial, fun _ => hP⟩
  | cons e es ih =>
    obtain ⟨hL, hes⟩ := hes
    refine ⟨?_, ?_⟩
    · intro h
      have hG : G s e := hbreak s e hJ hP hL h.2.head
      exact ⟨hG, (ih (hinv s e hJ hL) h.2.head hes).1 h.2⟩
    · intro h
      have hP' : P (step s e) := hkeep s e hJ hP hL h.1
      exact ⟨hP, (ih (hinv s e hJ hL) hP' hes).2 h.2⟩

theorem meets_true (s : σ) (es : List ε) : Meets step (fun _ _ => True) s es := by
  induction es generalizing s with
  | nil => trivial
  | cons e es ih => exact ⟨trivial, ih _⟩

/-- Exact runs, when any event may happen. -/
theorem always_iff_meets {J P : σ → Prop} {G : σ → ε → Prop} (hinv : ∀ s e, J s → J (step s e))
    (hkeep : ∀ s e, J s → P s → G s e → P (step s e)) (hbreak : ∀ s e, J s → P s → P (step s e) → G s e) {s : σ}
    (hJ : J s) (hP : P s) (es : List ε) : Always step P s es ↔ Meets step G s es :=
  always_iff_meets_of (fun s e h _ => hinv s e h) (fun s e h hs _ => hkeep s e h hs)
    (fun s e h hs _ => hbreak s e h hs) hJ hP (meets_true s es)

/-! ## Conditions on the events alone -/

/-- every event of the list is allowed by G after the events before it, latest first -/
def MeetsPast (G : List ε → ε → Prop) (es : List ε) : Prop := Meets (fun past e => e :: past) G [] es

/-- Since an event ψ, every event was one of φ. Both are read with the events before theirs. -/
def Since (φ ψ : List ε → ε → Prop) : List ε → Prop
  | [] => False
  | e :: past => ψ past e ∨ φ past e ∧ Since φ ψ past

/-- Exact runs, the condition read off the events. J ties the state to the events before it; with J, an allowed event
keeps P and any other event breaks it. -/
theorem always_iff_meetsPast {J : List ε → σ → Prop} {P : σ → Prop} {G : List ε → ε → Prop}
    (hinv : ∀ past s e, J past s → J (e :: past) (step s e))
    (hstep : ∀ past s e, J past s → P s → (P (step s e) ↔ G past e)) {s : σ} (hJ : J [] s) (hP : P s) (es : List ε) :
    Always step P s es ↔ MeetsPast G es := by
  have h : ∀ past s, J past s → P s → (Always step P s es ↔ Meets (fun past e => e :: past) G past es) := by
    induction es with
    | nil => exact fun _ _ _ hP => ⟨fun _ => trivial, fun _ => hP⟩
    | cons e es ih =>
      intro past s hJ hP
      refine ⟨?_, ?_⟩
      · intro h
        exact ⟨(hstep past s e hJ hP).1 h.2.head, (ih _ _ (hinv past s e hJ) h.2.head).1 h.2⟩
      · intro h
        have hP' : P (step s e) := (hstep past s e hJ hP).2 h.1
        exact ⟨hP, (ih _ _ (hinv past s e hJ) hP').2 h.2⟩
  exact h [] s hJ hP

/-- a guard on the state that says of every state what G says of the events before it -/
theorem meets_iff_meetsPast {J : List ε → σ → Prop} {G' : σ → ε → Prop} {G : List ε → ε → Prop}
    (hinv : ∀ past s e, J past s → J (e :: past) (step s e)) (hG : ∀ past s e, J past s → (G' s e ↔ G past e)) {s : σ}
    (hJ : J [] s) (es : List ε) : Meets step G' s es ↔ MeetsPast G es := by
  have h : ∀ past s, J past s → (Meets step G' s es ↔ Meets (fun past e => e :: past) G past es) := by
    induction es with
    | nil => exact fun _ _ _ => Iff.rfl
    | cons e es ih => exact fun past s hJ => and_congr (hG past s e hJ) (ih _ _ (hinv past s e hJ))
  exact h [] s hJ

end Runs

/-
The trust-on-first-use flow (`trust.rs`, `draw/tofu.rs`): a background thread probes the server's certificate, writes its
result into the one slot all probes share, and the draw loop polls the slot.

`PROBE_GEN` is a natural number here: its 64 bits do not run out. The probe threads are the records of `started`; a
thread writes its result once, at any later time, whatever has become of the flow it belongs to. What the probe of a
server brings back is up to the network.

Results, for every interleaving of probe starts, resets, thread writes and polls:
- `pollsOwn_of_inv`: a poll takes a result out of the slot only for the generation it waits for, and it is what that
  generation's thread wrote.
- `probe_result_kept_iff`: no such result is lost exactly when no superseded thread writes over it; the comment on the
  slot says a stale result is ignored, and `stale_write_loses_result` is a run in which one costs the current result.
-/
import MumbledFlight.Lib.Runs
import MumbledFlight.Plugin.KnownHosts
import MumbledFlight.Voip.Certificates

namespace MumbledFlight

/-! ## The flow -/

inductive TrustKind where
  /-- the server has not been trusted before -/
  | unknown (fingerprint : String)
  /-- the pinned certificate is not the one presented now -/
  | changed (old new : String)
  /-- the probe failed -/
  | failed (error : String)
deriving DecidableEq

/-- the fingerprint that is up for trust -/
def TrustKind.presented : TrustKind → Option String
  | .unknown fingerprint => some fingerprint
  | .changed _ new => some new
  | .failed _ => none

structure PendingTrust where
  key : String
  /-- what Trust stores; nothing after a failure -/
  pem : Option String
  kind : TrustKind
deriving DecidableEq

inductive TrustState where
  | idle
  | probing (gen : ℕ) (key : String) (stored : Option String)
  | decide (d : PendingTrust)
deriving DecidableEq

/-- the server key the flow is about -/
def TrustState.key? : TrustState → Option String
  | .idle => none
  | .probing _ key _ => some key
  | .decide d => some d.key

abbrev ProbeResult := Except String ProbedCert

/-- a probe thread, by what it was started with -/
structure ProbeStart where
  gen : ℕ
  key : String
  host : String
  port : UInt16
deriving DecidableEq

/-- the address the thread connects to -/
def ProbeStart.address (p : ProbeStart) : String × UInt16 := (trim p.host, p.port)

/-- `PROBE_GEN`, the slot, and the threads: those started and what they have written, both latest first -/
structure Probes where
  nextGen : ℕ
  slot : Option (ℕ × ProbeResult)
  started : List ProbeStart
  returned : List (ℕ × ProbeResult)

namespace Probes

def empty : Probes := ⟨0, none, [], []⟩

/-- the thread of a generation has been started and has not written yet -/
def Running (ps : Probes) (gen : ℕ) : Prop := gen ∈ ps.started.map ProbeStart.gen ∧ gen ∉ ps.returned.map Prod.fst

instance (ps : Probes) (gen : ℕ) : Decidable (ps.Running gen) := inferInstanceAs (Decidable (_ ∧ _))

/-- the thread of a generation writes its result into the slot, over whatever is there -/
def write (ps : Probes) (gen : ℕ) (r : ProbeResult) : Probes :=
  if ps.Running gen then { ps with slot := some (gen, r), returned := (gen, r) :: ps.returned } else ps

theorem write_of_running {ps : Probes} {gen : ℕ} (h : ps.Running gen) (r : ProbeResult) :
    ps.write gen r = { ps with slot := some (gen, r), returned := (gen, r) :: ps.returned } := if_pos h

end Probes

def startProbe (ps : Probes) (knownKey : String) (knownStored : Option String) (host : String) (port : UInt16) :
    TrustState × Probes :=
  (.probing ps.nextGen knownKey knownStored,
    { ps with nextGen := ps.nextGen + 1, started := ⟨ps.nextGen, knownKey, host, port⟩ :: ps.started })

section

variable {X509 : Type} (lib : CertLib X509)

/-- the state after a probe; whether to connect at once; whether to show the dialog -/
def resolveProbe (result : ProbeResult) (key : String) (stored : Option String) : TrustState × Bool × Bool :=
  match result with
  | .error error => (.decide ⟨key, none, .failed error⟩, false, true)
  | .ok probed =>
    match String.fromUTF8? probed.pem with
    | none =>
      (.decide ⟨key, none, .failed ("server certificate encoding error: " ++ lib.utf8Error probed.pem)⟩, false, true)
    | some pem =>
      match stored.bind fun p => (certFingerprint lib p.toUTF8).toOption with
      | some old =>
        if old = probed.sha256 then (.idle, true, false)
        else (.decide ⟨key, some pem, .changed old probed.sha256⟩, false, true)
      | none => (.decide ⟨key, some pem, .unknown probed.sha256⟩, false, true)

/-- the new state, the threads, and whether to connect at once -/
def pollStep (trustState : TrustState) (ps : Probes) : TrustState × Probes × Bool :=
  match trustState with
  | .probing gen key stored =>
    match ps.slot with
    | some (g, result) =>
      if g = gen then
        let r := resolveProbe lib result key stored
        (r.1, { ps with slot := none }, r.2.1)
      else (trustState, ps, false)
    | none => (trustState, ps, false)
  | _ => (trustState, ps, false)

/-- a result is a failure, or the pinned certificate again, or a certificate the user has to decide about -/
theorem resolveProbe_cases (result : ProbeResult) (key : String) (stored : Option String) :
    (∃ error, (resolveProbe lib result key stored).1 = .decide ⟨key, none, .failed error⟩ ∧
      (resolveProbe lib result key stored).2.1 = false) ∨
    ((resolveProbe lib result key stored).1 = .idle ∧ (resolveProbe lib result key stored).2.1 = true ∧
      ∃ pem, stored = some pem) ∨
    ∃ probed pem kind, result = .ok probed ∧ String.fromUTF8? probed.pem = some pem ∧
      kind.presented = some probed.sha256 ∧ (resolveProbe lib result key stored).1 = .decide ⟨key, some pem, kind⟩ ∧
      (resolveProbe lib result key stored).2.1 = false := by
  unfold resolveProbe
  cases result with
  | error error => exact Or.inl ⟨error, rfl, rfl⟩
  | ok probed =>
    dsimp only
    cases hpem : String.fromUTF8? probed.pem with
    | none => exact Or.inl ⟨_, rfl, rfl⟩
    | some pem =>
      dsimp only
      cases hold : stored.bind fun p => (certFingerprint lib p.toUTF8).toOption with
      | none => exact Or.inr (Or.inr ⟨probed, pem, .unknown probed.sha256, rfl, hpem, rfl, rfl, rfl⟩)
      | some old =>
        dsimp only
        split_ifs with heq
        · obtain ⟨p, hp, -⟩ := Option.bind_eq_some_iff.1 hold
          exact Or.inr (Or.inl ⟨rfl, rfl, p, hp⟩)
        · exact Or.inr (Or.inr ⟨probed, pem, .changed old probed.sha256, rfl, hpem, rfl, rfl, rfl⟩)

theorem resolveProbe_not_probing (result : ProbeResult) (key : String) (stored : Option String) (gen : ℕ) (key' : String)
    (stored' : Option String) : (resolveProbe lib result key stored).1 ≠ .probing gen key' stored' := by
  rcases resolveProbe_cases lib result key stored with ⟨_, h, -⟩ | ⟨h, -⟩ | ⟨_, _, _, -, -, -, h, -⟩
  · rw [h]; simp
  · rw [h]; simp
  · rw [h]; simp

theorem pollStep_of_own {gen : ℕ} {ps : Probes} {r : ProbeResult} (h : ps.slot = some (gen, r)) (key : String)
    (stored : Option String) :
    pollStep lib (.probing gen key stored) ps =
      ((resolveProbe lib r key stored).1, { ps with slot := none }, (resolveProbe lib r key stored).2.1) := by
  unfold pollStep
  simp [h]

/-- a poll changes nothing, or resolves the result of the generation it waits for -/
theorem pollStep_cases (trustState : TrustState) (ps : Probes) :
    pollStep lib trustState ps = (trustState, ps, false) ∨
    ∃ gen key stored r, trustState = .probing gen key stored ∧ ps.slot = some (gen, r) ∧
      pollStep lib trustState ps =
        ((resolveProbe lib r key stored).1, { ps with slot := none }, (resolveProbe lib r key stored).2.1) := by
  cases trustState with
  | idle => exact Or.inl rfl
  | decide d => exact Or.inl rfl
  | probing gen key stored =>
    by_cases hslot : ∃ r, ps.slot = some (gen, r)
    · obtain ⟨r, hslot⟩ := hslot
      exact Or.inr ⟨gen, key, stored, r, rfl, hslot, pollStep_of_own lib hslot key stored⟩
    · apply Or.inl
      unfold pollStep
      cases h : ps.slot with
      | none => rfl
      | some x =>
        obtain ⟨g, r⟩ := x
        have hne : g ≠ gen := by
          rintro rfl
          exact hslot ⟨r, h⟩
        simp [hne]

end

/-! ## What holds of the slot and the threads -/

namespace Probes

/-- the slot holds what a thread wrote, each thread writes once, and generations are given out in order -/
structure Inv (ps : Probes) : Prop where
  slot_returned : ∀ x, ps.slot = some x → x ∈ ps.returned
  once : (ps.returned.map Prod.fst).Nodup
  returned_lt : ∀ x ∈ ps.returned, x.1 < ps.nextGen
  started_lt : ∀ p ∈ ps.started, p.gen < ps.nextGen

theorem inv_empty : Probes.empty.Inv := by
  constructor <;> simp [Probes.empty]

theorem inv_startProbe {ps : Probes} (h : ps.Inv) (key : String) (stored : Option String) (host : String)
    (port : UInt16) : (startProbe ps key stored host port).2.Inv where
  slot_returned := h.slot_returned
  once := h.once
  returned_lt x hx := Nat.lt_succ_of_lt (h.returned_lt x hx)
  started_lt p hp := by
    rcases List.mem_cons.1 hp with rfl | hp
    · exact Nat.lt_succ_self _
    · exact Nat.lt_succ_of_lt (h.started_lt p hp)

theorem inv_write {ps : Probes} (h : ps.Inv) (gen : ℕ) (r : ProbeResult) : (ps.write gen r).Inv := by
  unfold write
  split_ifs with hrun
  · obtain ⟨hstarted, hnew⟩ := hrun
    obtain ⟨p, hp, rfl⟩ := List.mem_map.1 hstarted
    refine ⟨?_, List.nodup_cons.2 ⟨hnew, h.once⟩, ?_, h.started_lt⟩
    · intro x hx
      cases hx; exact List.mem_cons_self
    · intro x hx
      rcases List.mem_cons.1 hx with rfl | hx
      · exact h.started_lt p hp
      · exact h.returned_lt x hx
  · exact h

theorem inv_take {ps : Probes} (h : ps.Inv) : ({ ps with slot := none } : Probes).Inv :=
  { h with slot_returned := by intro x hx; cases hx }

theorem inv_pollStep {X509 : Type} (lib : CertLib X509) {ps : Probes} (h : ps.Inv) (trustState : TrustState) :
    (pollStep lib trustState ps).2.1.Inv := by
  rcases pollStep_cases lib trustState ps with heq | ⟨_, _, _, _, -, -, heq⟩
  · rw [heq]; exact h
  · rw [heq]; exact inv_take h

/-- a thread's result is the only one of its generation -/
theorem Inv.result_unique {ps : Probes} (h : ps.Inv) {gen : ℕ} {r r' : ProbeResult} (hr : (gen, r) ∈ ps.returned)
    (hr' : (gen, r') ∈ ps.returned) : r = r' := by
  have := List.inj_on_of_nodup_map h.once hr hr' rfl
  exact (Prod.mk.inj this).2

end Probes

/-! ## Every interleaving -/

inductive ProbeEvent where
  | startProbe (key : String) (stored : Option String) (host : String) (port : UInt16)
  /-- Cancel, or Disconnect -/
  | reset
  | write (gen : ℕ) (r : ProbeResult)
  | poll

structure ProbeFlow where
  trustState : TrustState
  probes : Probes

namespace ProbeFlow

variable {X509 : Type} (lib : CertLib X509)

def init : ProbeFlow := ⟨.idle, .empty⟩

def step (f : ProbeFlow) : ProbeEvent → ProbeFlow
  | .startProbe key stored host port =>
    let r := MumbledFlight.startProbe f.probes key stored host port
    ⟨r.1, r.2⟩
  | .reset => { f with trustState := .idle }
  | .write gen r => { f with probes := f.probes.write gen r }
  | .poll =>
    let r := pollStep lib f.trustState f.probes
    ⟨r.1, r.2.1⟩

/-- a poll changes nothing, or it waits for a generation and consumes what that generation's thread wrote -/
def PollsOwn (f : ProbeFlow) : Prop :=
  f.step lib .poll = f ∨
    ∃ gen key stored r, f.trustState = .probing gen key stored ∧ f.probes.slot = some (gen, r) ∧
      (gen, r) ∈ f.probes.returned ∧
      f.step lib .poll = ⟨(resolveProbe lib r key stored).1, { f.probes with slot := none }⟩

/-- once the thread of the current generation has written, a poll leaves Probing with exactly its result -/
def NothingLost (f : ProbeFlow) : Prop :=
  ∀ gen key stored r, f.trustState = .probing gen key stored → (gen, r) ∈ f.probes.returned →
    (f.step lib .poll).trustState = (resolveProbe lib r key stored).1

/-- no superseded thread writes while the slot holds the result the flow waits for -/
def NotOverwritten (f : ProbeFlow) : ProbeEvent → Prop
  | .write gen _ => f.probes.Running gen →
    ∀ current key stored r, f.trustState = .probing current key stored → f.probes.slot ≠ some (current, r)
  | _ => True

/-- the threads, and that the flow waits for a generation that has been given out -/
structure Inv (f : ProbeFlow) : Prop where
  probes : f.probes.Inv
  current : ∀ gen key stored, f.trustState = .probing gen key stored → gen < f.probes.nextGen

theorem inv_init : init.Inv := ⟨Probes.inv_empty, by simp [init]⟩

variable {lib} {f : ProbeFlow}

theorem write_nextGen (ps : Probes) (gen : ℕ) (r : ProbeResult) : (ps.write gen r).nextGen = ps.nextGen := by
  unfold Probes.write
  split_ifs <;> rfl

theorem pollsOwn_of_inv (lib : CertLib X509) (h : f.Inv) : PollsOwn lib f := by
  unfold PollsOwn step
  rcases pollStep_cases lib f.trustState f.probes with heq | ⟨gen, key, stored, r, hstate, hslot, heq⟩
  · exact Or.inl (by rw [heq])
  · exact Or.inr ⟨gen, key, stored, r, hstate, hslot, h.probes.slot_returned _ hslot, by rw [heq]⟩

theorem inv_step (h : f.Inv) (e : ProbeEvent) : (f.step lib e).Inv := by
  cases e with
  | startProbe key stored host port =>
    refine ⟨Probes.inv_startProbe h.probes key stored host port, ?_⟩
    intro gen key' stored' hgen
    cases hgen
    exact Nat.lt_succ_self _
  | reset =>
    refine ⟨h.probes, ?_⟩
    intro gen key stored hgen
    cases hgen
  | write gen r =>
    refine ⟨Probes.inv_write h.probes gen r, ?_⟩
    intro gen' key stored hgen
    have := h.current gen' key stored hgen
    simpa [step, write_nextGen] using this
  | poll =>
    refine ⟨Probes.inv_pollStep lib h.probes f.trustState, ?_⟩
    rcases pollsOwn_of_inv lib h with heq | ⟨_, key, stored, r, -, -, -, heq⟩
    · rw [heq]; exact h.current
    · rw [heq]
      intro gen key' stored' hgen
      exact absurd hgen (resolveProbe_not_probing lib r key stored gen key' stored')

/-- nothing is lost while the slot holds the result of every thread the flow waits for -/
theorem poll_resolves_iff (h : f.Inv) {gen : ℕ} {key : String} {stored : Option String} {r : ProbeResult}
    (hstate : f.trustState = .probing gen key stored) (hr : (gen, r) ∈ f.probes.returned) :
    (f.step lib .poll).trustState = (resolveProbe lib r key stored).1 ↔ f.probes.slot = some (gen, r) := by
  refine ⟨?_, ?_⟩
  · intro hpoll
    rcases pollsOwn_of_inv lib h with heq | ⟨gen', _, _, r', hstate', hslot, hr', -⟩
    · rw [heq, hstate] at hpoll
      exact absurd hpoll.symm (resolveProbe_not_probing lib r key stored gen key stored)
    · rw [hstate] at hstate'
      cases hstate'
      rw [hslot, h.probes.result_unique hr' hr]
  · intro hslot
    simp only [step, hstate, pollStep_of_own lib hslot]

/-- the flow is back in Probing only if the poll found nothing -/
theorem nothingLost_poll (h : f.Inv) (hlost : NothingLost lib f) : NothingLost lib (f.step lib .poll) := by
  rcases pollsOwn_of_inv lib h with heq | ⟨_, key, stored, r, -, -, -, heq⟩
  · rw [heq]; exact hlost
  · intro gen key' stored' r' hstate _
    rw [heq] at hstate
    exact absurd hstate (resolveProbe_not_probing lib r key stored gen key' stored')

theorem nothingLost_step (h : f.Inv) (hlost : NothingLost lib f) {e : ProbeEvent} (hkeep : NotOverwritten f e) :
    NothingLost lib (f.step lib e) := by
  cases e with
  | startProbe key stored host port =>
    -- the new generation has written nothing yet
    intro gen key' stored' r hstate hr
    cases hstate
    exact absurd (h.probes.returned_lt _ hr) (lt_irrefl _)
  | reset =>
    intro gen key stored r hstate
    cases hstate
  | poll => exact nothingLost_poll h hlost
  | write gen r =>
    by_cases hrun : f.probes.Running gen
    · have hwrite := Probes.write_of_running hrun r
      intro current key stored r' hstate hr'
      have hinv : (f.step lib (.write gen r)).Inv := inv_step h _
      apply (poll_resolves_iff hinv hstate hr').2
      simp only [step, hwrite] at hr' ⊢
      rcases List.mem_cons.1 hr' with hr' | hr'
      · rw [hr']
      · -- the current thread had written before: its result was in the slot, and this write took its place
        have hslot := (poll_resolves_iff h hstate hr').1 (hlost current key stored r' hstate hr')
        exact absurd hslot (hkeep hrun current key stored r' hstate)
    · have hsame : f.step lib (.write gen r) = f := by
        simp only [step, Probes.write, if_neg hrun]
      rw [hsame]
      exact hlost

/-- a superseded thread that writes over the awaited result loses it -/
theorem notOverwritten_of_nothingLost (h : f.Inv) {e : ProbeEvent} (hlost : NothingLost lib (f.step lib e)) :
    NotOverwritten f e := by
  cases e with
  | startProbe | reset | poll => trivial
  | write gen r =>
    intro hrun current key stored r' hstate hslot
    have hr' : (current, r') ∈ f.probes.returned := h.probes.slot_returned _ hslot
    have hwrite := Probes.write_of_running hrun r
    have hinv : (f.step lib (.write gen r)).Inv := inv_step h _
    have hreturned : (current, r') ∈ (f.step lib (.write gen r)).probes.returned := by
      simp only [step, hwrite]
      exact List.mem_cons_of_mem _ hr'
    have hkept := (poll_resolves_iff hinv hstate hreturned).1 (hlost current key stored r' hstate hreturned)
    simp only [step, hwrite] at hkept
    have hgen : gen = current := by
      have := Option.some.inj hkept
      exact (Prod.mk.inj this).1
    subst hgen
    exact hrun.2 (List.mem_map.2 ⟨_, hr', rfl⟩)

end ProbeFlow

open ProbeFlow

/-- The slot. In every run a poll consumes only the result of the generation it waits for; and the awaited result is
kept until the next poll, in every state of the run, exactly when no superseded thread writes over it. -/
theorem probe_result_kept_iff {X509 : Type} (lib : CertLib X509) (es : List ProbeEvent) :
    Runs.Always (step lib) (PollsOwn lib) init es ∧
    (Runs.Always (step lib) (fun f => PollsOwn lib f ∧ NothingLost lib f) init es ↔
      Runs.Meets (step lib) NotOverwritten init es) := by
  refine ⟨?_, ?_⟩
  · have hinv : Runs.Always (step lib) ProbeFlow.Inv init es := 
      Runs.always_of_inv (P := ProbeFlow.Inv) (fun _ e h => inv_step h e) inv_init es
    exact hinv.mono fun f h => pollsOwn_of_inv lib h
  · apply Runs.always_iff_meets (J := ProbeFlow.Inv)
    · exact fun f e h => inv_step h e
    · exact fun f e h hP hG => ⟨pollsOwn_of_inv lib (inv_step h e), nothingLost_step h hP.2 hG⟩
    · exact fun f e h _ hP => notOverwritten_of_nothingLost h hP.2
    · exact inv_init
    · exact ⟨pollsOwn_of_inv lib inv_init, by intro gen key stored r hstate; cases hstate⟩

/-- a library that is never given a certificate -/
def noCerts : CertLib Empty := ⟨fun _ => none, fun _ => .error "no start line", nofun, fun _ => "invalid utf-8"⟩

/-- the first probe is cancelled and its thread writes last: the second probe's result is gone, and the dialog waits -/
theorem stale_write_loses_result :
    ¬Runs.Always (step noCerts) (fun f => PollsOwn noCerts f ∧ NothingLost noCerts f) init
      [.startProbe "a:1" none "a" 1, .reset, .startProbe "a:1" none "a" 1, .write 1 (.error "refused"),
        .write 0 (.error "timed out")] := by
  intro h
  have hlast := h.2.2.2.2.2.2 1 "a:1" none (.error "refused") rfl (by decide)
  cases hlast

end MumbledFlight

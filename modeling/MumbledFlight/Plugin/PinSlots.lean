/-
Which servers share a pin. A key of the trust-on-first-use store is a server's host (`hostInKey`), in brackets if there
is a colon in it, then a colon and the port in decimal; both layouts are in one map.

Results, for every two texts of the Server field and every two ports:
- `Server.key_injective`: a key tells its host and its port, whichever layout it has: the last colon is the port's, and
  only a bracketed host has another one before it.
- `same_key_iff`: so two servers have one key exactly if their ports and their hosts, trimmed and without outer brackets,
  are the same.
And for every run of frames, thread writes and ticks:
- `pins_step`: the store is a map from servers to pins, in which Trust changes the pin of the latest probe's server alone.
- `pin_of_server`: the pin of a server is the last one recorded for it, or that of the first store.
-/
import Mathlib.Logic.Function.Basic
import MumbledFlight.Plugin.Hosts

namespace MumbledFlight

/-! ## Keys -/

theorem eq_nil_of_cons_eq_append_cons {α : Type*} {sep : α} {as us vs : List α} (hus : sep ∉ us)
    (h : sep :: us = as ++ sep :: vs) : as = [] := by
  cases as with
  | nil => rfl
  | cons a as =>
    refine absurd ?_ hus
    rw [(List.cons.inj h).2]
    exact List.mem_append_right _ List.mem_cons_self

/-- a list is split in one way at the last of its separators -/
theorem append_cons_inj_of_notMem_right {α : Type*} {sep : α} {xs ys us vs : List α} (hus : sep ∉ us) (hvs : sep ∉ vs)
    (h : xs ++ sep :: us = ys ++ sep :: vs) : xs = ys ∧ us = vs := by
  rcases List.append_eq_append_iff.1 h with ⟨as, hys, htail⟩ | ⟨as, hxs, htail⟩
  · obtain rfl := eq_nil_of_cons_eq_append_cons hus htail
    exact ⟨by rw [hys, List.append_nil], (List.cons.inj htail).2⟩
  · obtain rfl := eq_nil_of_cons_eq_append_cons hvs htail
    exact ⟨by rw [hxs, List.append_nil], (List.cons.inj htail).2.symm⟩

/-- a server, as the store tells them apart -/
@[ext] structure Server where
  host : String
  port : UInt16
  /-- the outer brackets are not part of the host -/
  bare : Bare isBracket host
deriving DecidableEq

namespace Server

/-- the server that a text of the Server field and a port stand for -/
def typed (host : String) (port : UInt16) : Server := ⟨KnownHosts.hostInKey host, port, bare_trimMatches _ _⟩

/-- what stands before the port's colon -/
def hostPart (host : String) : List Char :=
  if ':' ∈ host.toList then '[' :: (host.toList ++ [']']) else host.toList

def key (s : Server) : String := String.ofList (hostPart s.host ++ ':' :: Nat.toDigits 10 s.port.toNat)

theorem key_typed (host : String) (port : UInt16) : (typed host port).key = KnownHosts.key host port := by
  rw [KnownHosts.key_eq, ← String.toList_inj]
  unfold key hostPart typed
  simp only [List.contains_iff_mem, String.toList_ofList, Nat.toString_eq_repr]
  split_ifs with hcolon
  · simp
  · simp

/-- the brackets of the first layout stand around a colon only -/
theorem colon_mem_hostPart (host : String) : ':' ∈ hostPart host ↔ ':' ∈ host.toList := by
  unfold hostPart
  split_ifs with hcolon
  · exact iff_of_true (List.mem_cons_of_mem _ (List.mem_append_left _ hcolon)) hcolon
  · exact Iff.rfl

theorem hostPart_injective : Function.Injective hostPart := by
  intro h1 h2 h
  have hlayout : ':' ∈ h1.toList ↔ ':' ∈ h2.toList := by
    rw [← colon_mem_hostPart, h, colon_mem_hostPart]
  rw [← String.toList_inj]
  unfold hostPart at h
  by_cases hcolon : ':' ∈ h1.toList
  · rw [if_pos hcolon, if_pos (hlayout.1 hcolon)] at h
    exact List.append_cancel_right (List.cons.inj h).2
  · rw [if_neg hcolon, if_neg (mt hlayout.2 hcolon)] at h
    exact h

theorem colon_notMem_toDigits (n : ℕ) : ':' ∉ Nat.toDigits 10 n := by
  intro h
  have hdigit := Nat.isDigit_of_mem_toDigits (by decide) (by decide) h
  exact absurd hdigit (by decide)

theorem key_injective : Function.Injective key := by
  intro s1 s2 h
  obtain ⟨hhost, hport⟩ := append_cons_inj_of_notMem_right (colon_notMem_toDigits _) (colon_notMem_toDigits _)
    (String.ofList_injective h)
  have hnat : s1.port.toNat = s2.port.toNat := by
    calc s1.port.toNat
        = Nat.ofDigitChars 10 (Nat.toDigits 10 s1.port.toNat) 0 := Nat.ofDigitChars_ten_toDigits.symm
      _ = Nat.ofDigitChars 10 (Nat.toDigits 10 s2.port.toNat) 0 := by rw [hport]
      _ = s2.port.toNat := Nat.ofDigitChars_ten_toDigits
  exact Server.ext (hostPart_injective hhost) (UInt16.toNat_inj.1 hnat)

end Server

/-- Pin slots. Two servers are filed under one key exactly if their ports are the same, and their hosts are once white
space and then brackets around them are removed. -/
theorem same_key_iff (h1 h2 : String) (p1 p2 : UInt16) : KnownHosts.key h1 p1 = KnownHosts.key h2 p2 ↔
    p1 = p2 ∧ KnownHosts.hostInKey h1 = KnownHosts.hostInKey h2 := by
  rw [← Server.key_typed, ← Server.key_typed, Server.key_injective.eq_iff, Server.ext_iff]
  exact and_comm

/-! ## Pins -/

/-- the store as a map from servers to pins -/
def KnownHosts.pins (hosts : KnownHosts) (s : Server) : Option String := hosts.lookup s.key

theorem KnownHosts.pins_typed (hosts : KnownHosts) (host : String) (port : UInt16) :
    hosts.pins (.typed host port) = hosts.lookup (key host port) := by
  rw [pins, Server.key_typed]

/-- inserting under a server's key changes the pin of this server alone -/
theorem KnownHosts.pins_insertAndSave (hosts : KnownHosts) (host : String) (port : UInt16) (pem : String) :
    (hosts.insertAndSave (key host port) pem).pins = Function.update hosts.pins (.typed host port) (some pem) := by
  funext s
  rw [pins, lookup_insertAndSave, ← Server.key_typed, Function.update_apply]
  exact if_congr Server.key_injective.eq_iff rfl rfl

namespace GuiState

variable {X509 : Type} {lib : CertLib X509} {g : GuiState}

/-- the pin that an event records, with the server of the latest probe -/
def pinnedServer (lib : CertLib X509) (g : GuiState) (e : GuiEvent) : Option (Server × String) :=
  (recorded lib g e).bind fun r =>
    (g.step lib e).probes.started.head?.map fun p => (.typed p.host p.port, r.2)

/-- the pin recorded last for a server in a run -/
def lastPin (lib : CertLib X509) (s : Server) : GuiState → List GuiEvent → Option String
  | _, [] => none
  | g, e :: es =>
    (lastPin lib s (g.step lib e) es).or ((pinnedServer lib g e).bind fun r => if s = r.1 then some r.2 else none)

/-- what is recorded is recorded for the latest probe's server -/
theorem recorded_key (h : g.Inv) {e : GuiEvent} {key pem : String} (hrec : recorded lib g e = some (key, pem)) :
    ∃ p, (g.step lib e).probes.started.head? = some p ∧ key = KnownHosts.key p.host p.port := by
  cases e with
  | frame i =>
    obtain ⟨_, p, _, -, -, hp, -, -, -, -, hkey⟩ := probe_of_recorded h hrec
    exact ⟨p, (congrArg List.head? (polled_started g i)).trans hp, hkey⟩
  | frameWithoutRenderer => cases hrec
  | probeWrites gen r => cases hrec
  | tick t => cases hrec

theorem pins_step (h : g.Inv) (e : GuiEvent) : (g.step lib e).knownHosts.pins =
    match pinnedServer lib g e with
    | none => g.knownHosts.pins
    | some (s, pem) => Function.update g.knownHosts.pins s (some pem) := by
  rw [step_knownHosts]
  cases hrec : recorded lib g e with
  | none => rw [pinnedServer, hrec, Option.bind_none]
  | some r =>
    obtain ⟨p, hp, hkey⟩ := recorded_key h hrec
    rw [pinnedServer, hrec, Option.bind_some, hp]
    dsimp only [Option.map_some]
    rw [hkey, KnownHosts.pins_insertAndSave]

theorem pins_run (h : g.Inv) (es : List GuiEvent) (s : Server) :
    (Runs.run (step lib) g es).knownHosts.pins s = (lastPin lib s g es).or (g.knownHosts.pins s) := by
  induction es generalizing g with
  | nil => rfl
  | cons e es ih =>
    rw [Runs.run_cons, ih (flowInv_step h e), lastPin, Option.or_assoc, pins_step h e]
    congr 1
    cases pinnedServer lib g e with
    | none => rfl
    | some r =>
      dsimp only [Option.bind_some]
      rw [Function.update_apply]
      split_ifs with hs
      · rfl
      · rfl

end GuiState

/-- One pin a server. In every run, what a server is compared with is the pin recorded last for this server, however it
was spelled then, or what the first store has for it. -/
theorem pin_of_server {X509 : Type} (lib : CertLib X509) (fields : Fields) (hosts : KnownHosts) (es : List GuiEvent)
    (host : String) (port : UInt16) :
    (Runs.run (GuiState.step lib) (GuiState.init fields hosts) es).knownHosts.lookup (KnownHosts.key host port) =
      (GuiState.lastPin lib (.typed host port) (GuiState.init fields hosts) es).or
        (hosts.lookup (KnownHosts.key host port)) := by
  rw [← KnownHosts.pins_typed, ← KnownHosts.pins_typed]
  exact GuiState.pins_run (GuiState.inv_init fields hosts) es _

end MumbledFlight

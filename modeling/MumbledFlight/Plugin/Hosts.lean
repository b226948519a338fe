/-
The three readings of the Server field (`start_probe`, `connection::start`, `KnownHosts::key`). The probe dials it
trimmed, the connection dials it as it is, and the pin is filed under it trimmed and without its outer brackets.

Results, for every text of the field:
- `trimMatches_eq_self_iff`: trimming leaves exactly the strings that neither begin nor end with what it trims.
- `hosts_agree_iff`: so the three are one host exactly if the field neither begins nor ends with white space or a
  bracket. `three_hosts` are fields for which they are not.
-/
import Mathlib.Data.List.TakeWhile
import MumbledFlight.Plugin.Pinning

namespace MumbledFlight

def isBracket (c : Char) : Bool := c = '[' || c = ']'

/-- the host inside a server's key -/
def KnownHosts.hostInKey (host : String) : String := trimMatches isBracket (trim host)

theorem KnownHosts.key_eq (host : String) (port : UInt16) :
    key host port =
      if (hostInKey host).toList.contains ':' then "[" ++ hostInKey host ++ "]:" ++ toString port.toNat
      else hostInKey host ++ ":" ++ toString port.toNat := rfl

/-- the first and the last character are none of p -/
def Bare (p : Char → Bool) (s : String) : Prop :=
  (∀ c, s.toList.head? = some c → p c = false) ∧ ∀ c, s.toList.getLast? = some c → p c = false

/-! ## Trimming -/

theorem dropWhile_eq_self_iff_head {p : Char → Bool} {cs : List Char} :
    cs.dropWhile p = cs ↔ ∀ c, cs.head? = some c → p c = false := by
  cases cs with
  | nil => simp
  | cons c cs => simp [List.dropWhile_eq_self_iff]

theorem rdropWhile_eq_self_iff_getLast {p : Char → Bool} {cs : List Char} :
    cs.rdropWhile p = cs ↔ ∀ c, cs.getLast? = some c → p c = false := by
  rw [List.rdropWhile_eq_self_iff]
  cases cs using List.reverseRecOn with
  | nil => simp
  | append_singleton cs c => simp

theorem trimMatches_eq_self_iff (p : Char → Bool) (s : String) : trimMatches p s = s ↔ Bare p s := by
  unfold trimMatches Bare
  rw [← dropWhile_eq_self_iff_head, ← rdropWhile_eq_self_iff_getLast, ← String.toList_inj, String.toList_ofList]
  refine ⟨?_, ?_⟩
  · intro h
    -- a string that loses nothing in both steps loses nothing in the first
    have hpre : s.toList.length ≤ (s.toList.dropWhile p).length := by
      calc s.toList.length
          = ((s.toList.dropWhile p).rdropWhile p).length := by rw [h]
        _ ≤ (s.toList.dropWhile p).length := (List.rdropWhile_prefix p _).length_le
    have hdrop : s.toList.dropWhile p = s.toList := (List.dropWhile_suffix p).eq_of_length_le hpre
    rw [hdrop] at h
    exact ⟨hdrop, h⟩
  · rintro ⟨hdrop, hrdrop⟩
    rw [hdrop, hrdrop]

/-- what is left of a trimmed string needs no trimming -/
theorem bare_trimMatches (p : Char → Bool) (s : String) : Bare p (trimMatches p s) := by
  have hnot : ∀ (cs : List Char) (c : Char), (cs.dropWhile p).head? = some c → p c = false := by
    intro cs c hc
    have h := List.head?_dropWhile_not p cs
    rwa [hc] at h
  unfold Bare trimMatches
  rw [String.toList_ofList]
  refine ⟨?_, ?_⟩
  · intro c hc
    obtain ⟨rest, hrest⟩ := List.rdropWhile_prefix p (s.toList.dropWhile p)
    apply hnot s.toList
    rw [← hrest, List.head?_append, hc]
    rfl
  · intro c hc
    rw [List.rdropWhile, List.getLast?_reverse] at hc
    exact hnot _ c hc

/-! ## The three hosts -/

theorem startProbe_started (ps : Probes) (key : String) (stored : Option String) (host : String) (port : UInt16) :
    (startProbe ps key stored host port).2.started = ⟨ps.nextGen, key, host, port⟩ :: ps.started := rfl

/-- Hosts. The thread that is started for the Server field, the connection that is dialed with it, and the key of its
pin name one host exactly if the field neither begins nor ends with white space or a bracket. -/
theorem hosts_agree_iff {X509 : Type} (lib : CertLib X509) {g : GuiState} {t : GuiState.TickInput} {d : GuiState.Dial}
    (hdial : (g.start lib t).2 = some d) (ps : Probes) (stored : Option String) :
    (∃ p ∈ (startProbe ps g.fields.key stored g.fields.server g.fields.port).2.started.head?,
      p.address.1 = d.serverHost ∧ KnownHosts.hostInKey g.fields.server = d.serverHost) ↔
      Bare isWhiteSpace g.fields.server ∧ Bare isBracket g.fields.server := by
  have hhost : d.serverHost = g.fields.server := (GuiState.start_dial hdial).1
  rw [startProbe_started, List.head?_cons, hhost]
  simp only [Option.mem_def, Option.some.injEq, exists_eq_left', ProbeStart.address]
  rw [← trimMatches_eq_self_iff, ← trimMatches_eq_self_iff]
  refine and_congr_right fun htrim => ?_
  rw [KnownHosts.hostInKey, htrim]

/-- a host name as it should be typed -/
theorem hosts_agree_iff_plain :
    let fields : Fields := ⟨"mumble.example.com", 64738, "", "", "", "", "DEN123", "pilot"⟩
    ∃ p ∈ (startProbe .empty fields.key none fields.server fields.port).2.started.head?,
      p.address.1 = fields.server ∧ KnownHosts.hostInKey fields.server = fields.server := by
  intro fields
  have hdial : ((GuiState.init fields ∅).start noCerts ⟨.ok (), .ok (), .error ""⟩).2 =
      some ⟨fields.server, 64738, "", false, none, "pilot", "DEN123"⟩ := by decide
  have hblank : Bare isWhiteSpace fields.server := (trimMatches_eq_self_iff _ _).1 (by decide)
  have hbracket : Bare isBracket fields.server := (trimMatches_eq_self_iff _ _).1 (by decide)
  exact (hosts_agree_iff noCerts hdial .empty none).2 ⟨hblank, hbracket⟩

/-- with blanks around it a name is probed and pinned without them, and dialed with them; a bracketed address is probed
and dialed with its brackets, and pinned without -/
theorem three_hosts :
    let dialed (server : String) := ((GuiState.init ⟨server, 64738, "", "", "", "", "DEN123", "pilot"⟩ ∅).start noCerts
      ⟨.ok (), .ok (), .error ""⟩).2.map GuiState.Dial.serverHost
    let probed (server : String) := (startProbe .empty (KnownHosts.key server 64738) none server 64738).2.started.head?.map
      fun p => p.address.1
    (dialed " mumble.example.com " = some " mumble.example.com " ∧ probed " mumble.example.com " = some "mumble.example.com" ∧
      KnownHosts.hostInKey " mumble.example.com " = "mumble.example.com") ∧
    (dialed "[::1]" = some "[::1]" ∧ probed "[::1]" = some "[::1]" ∧ KnownHosts.hostInKey "[::1]" = "::1") := by
  decide

end MumbledFlight

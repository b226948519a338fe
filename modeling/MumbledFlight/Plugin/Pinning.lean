/-
What the plugin connects to, and what it pins: the Connect click, the probe, the dialog and the tick that starts the
connection read the Server, Port and Server CA fields at different times, and the fields stay editable in between.

Results, over every run of frames, thread writes and ticks:
- `flowInv_step`: the trust flow's key is the one its latest probe was started for, what it offers to pin is what that
  probe brought back, and a pin it compares with is in the store.
- `dials_pinned_iff`: no tick opens a connection to a server that is neither covered by a Server CA nor pinned, in every
  state of a run, exactly when no frame lets the fields drift away from the server that was decided about. The comment
  in `connection::start` takes that for granted; `unverified_dial` is a run in which they do.
- `pins_by_consent_iff`: every pin is stored by a click on Trust, under the key and with the certificate of the latest
  probe, exactly when the fields the dialog shows are then those of the Connect click. `pin_under_other_name` is a run
  in which they are not.
-/
import MumbledFlight.Plugin.Gui

namespace MumbledFlight

/-! ## The trust flow -/

/-- what the dialog is about: a failure, or the certificate that the latest probe brought back -/
def Informed (ps : Probes) (d : PendingTrust) : Prop :=
  (∃ error, d.kind = .failed error ∧ d.pem = none) ∨
  ∃ p probed pem, ps.started.head? = some p ∧ d.key = p.key ∧ (p.gen, .ok probed) ∈ ps.returned ∧
    String.fromUTF8? probed.pem = some pem ∧ d.pem = some pem ∧ d.kind.presented = some probed.sha256

structure FlowInv (trustState : TrustState) (ps : Probes) (hosts : KnownHosts) : Prop where
  probes : ps.Inv
  keys : ∀ p ∈ ps.started, p.key = KnownHosts.key p.host p.port
  /-- the flow waits for the latest probe -/
  latest : ∀ gen key stored, trustState = .probing gen key stored →
    ∃ p, ps.started.head? = some p ∧ p.gen = gen ∧ p.key = key
  stored : ∀ gen key pem, trustState = .probing gen key (some pem) → hosts.Pinned key
  informed : ∀ d, trustState = .decide d → Informed ps d

namespace FlowInv

variable {trustState : TrustState} {ps : Probes} {hosts : KnownHosts}

theorem empty (hosts : KnownHosts) : FlowInv .idle .empty hosts where
  probes := Probes.inv_empty
  keys := by simp [Probes.empty]
  latest := by simp
  stored := by simp
  informed := by simp

/-- Cancel, Disconnect, a frame without a renderer -/
theorem idle (h : FlowInv trustState ps hosts) : FlowInv .idle ps hosts :=
  { h with latest := by simp, stored := by simp, informed := by simp }

theorem mono_hosts (h : FlowInv trustState ps hosts) {hosts' : KnownHosts}
    (hmono : ∀ key, hosts.Pinned key → hosts'.Pinned key) : FlowInv trustState ps hosts' :=
  { h with stored := fun gen key pem hs => hmono key (h.stored gen key pem hs) }

/-- a Connect click starts a probe for the key of the fields, with the pin of that key -/
theorem startProbe (h : FlowInv trustState ps hosts) {key : String} {host : String} {port : UInt16}
    (hkey : key = KnownHosts.key host port) :
    FlowInv (startProbe ps key (hosts.lookup key) host port).1
      (MumbledFlight.startProbe ps key (hosts.lookup key) host port).2 hosts where
  probes := Probes.inv_startProbe h.probes _ _ _ _
  keys p hp := by
    rcases List.mem_cons.1 hp with rfl | hp
    · exact hkey
    · exact h.keys p hp
  latest gen key' stored hs := by
    obtain ⟨hgen, hkey', -⟩ := TrustState.probing.inj hs
    exact ⟨_, rfl, hgen, hkey'⟩
  stored gen key' pem hs := by
    obtain ⟨-, hkey', hstored⟩ := TrustState.probing.inj hs
    exact ⟨pem, hkey' ▸ hstored⟩
  informed d hd := by cases hd

theorem write_started (ps : Probes) (gen : ℕ) (r : ProbeResult) : (ps.write gen r).started = ps.started := by
  unfold Probes.write
  split_ifs <;> rfl

theorem write_returned {ps : Probes} {x : ℕ × ProbeResult} (h : x ∈ ps.returned) (gen : ℕ) (r : ProbeResult) :
    x ∈ (ps.write gen r).returned := by
  unfold Probes.write
  split_ifs
  · exact List.mem_cons_of_mem _ h
  · exact h

theorem write (h : FlowInv trustState ps hosts) (gen : ℕ) (r : ProbeResult) :
    FlowInv trustState (ps.write gen r) hosts where
  probes := Probes.inv_write h.probes gen r
  keys := by rw [write_started]; exact h.keys
  latest := by rw [write_started]; exact h.latest
  stored := h.stored
  informed d hd := by
    rcases h.informed d hd with hfailed | ⟨p, probed, pem, hp, hkey, hret, hrest⟩
    · exact Or.inl hfailed
    · exact Or.inr ⟨p, probed, pem, by rw [write_started]; exact hp, hkey, write_returned hret gen r, hrest⟩

theorem arrivals (h : FlowInv trustState ps hosts) (as : List (ℕ × ProbeResult)) :
    FlowInv trustState (as.foldl (fun ps a => ps.write a.1 a.2) ps) hosts := by
  induction as generalizing ps with
  | nil => exact h
  | cons a as ih => exact ih (h.write a.1 a.2)

theorem poll {X509 : Type} (lib : CertLib X509) (h : FlowInv trustState ps hosts) :
    FlowInv (pollStep lib trustState ps).1 (pollStep lib trustState ps).2.1 hosts := by
  have hprobes := Probes.inv_pollStep lib h.probes trustState
  rcases pollStep_cases lib trustState ps with heq | ⟨gen, key, stored, r, hstate, hslot, heq⟩
  · rw [heq]; exact h
  · rw [heq] at hprobes ⊢
    have hnot := resolveProbe_not_probing lib r key stored
    refine ⟨hprobes, h.keys, ?_, ?_, ?_⟩
    · intro gen' key' stored' hs
      exact absurd hs (hnot gen' key' stored')
    · intro gen' key' pem hs
      exact absurd hs (hnot gen' key' (some pem))
    · intro d hd
      rcases resolveProbe_cases lib r key stored with
        ⟨error, hres, -⟩ | ⟨hres, -⟩ | ⟨probed, pem, kind, hr, hpem, hkind, hres, -⟩
      · rw [hres] at hd
        cases hd
        exact Or.inl ⟨error, rfl, rfl⟩
      · rw [hres] at hd
        cases hd
      · rw [hres] at hd
        cases hd
        obtain ⟨p, hp, hgen, hkey⟩ := h.latest gen key stored hstate
        have hret : (p.gen, .ok probed) ∈ ps.returned := by
          rw [hgen, ← hr]
          exact h.probes.slot_returned _ hslot
        exact Or.inr ⟨p, probed, pem, hp, hkey.symm, hret, hpem, rfl, hkind⟩

end FlowInv

/-! ## The stages of a frame -/

/-- Trust on a certificate stores it and asks for the connection; any other frame of the dialog does neither -/
theorem renderDecision_cases (trustState : TrustState) (click : Option DialogButton) (server : String) :
    (∃ d pem, trustState = .decide d ∧ trustContent ⟨server, d.kind⟩ click = .trust ∧ d.pem = some pem ∧
      renderDecision trustState click server = (.idle, ⟨true, some (d.key, pem)⟩)) ∨
    ((renderDecision trustState click server).1 = trustState ∨ (renderDecision trustState click server).1 = .idle) ∧
      (renderDecision trustState click server).2 = {} := by
  cases trustState with
  | idle => exact Or.inr ⟨Or.inl rfl, rfl⟩
  | probing gen key stored => exact Or.inr ⟨Or.inl rfl, rfl⟩
  | decide d =>
    unfold renderDecision
    dsimp only
    cases hchoice : trustContent ⟨server, d.kind⟩ click with
    | pending => exact Or.inr ⟨Or.inl rfl, rfl⟩
    | cancel => exact Or.inr ⟨Or.inr rfl, rfl⟩
    | trust =>
      cases hpem : d.pem with
      | none => exact Or.inr ⟨Or.inr rfl, rfl⟩
      | some pem => exact Or.inl ⟨d, pem, rfl, hchoice, hpem, rfl⟩

/-- a click on Trust, on a dialog that offers it -/
theorem trustContent_trust {view : TrustPrompt} {click : Option DialogButton}
    (h : trustContent view click = .trust) : click = some .trust ∧ ∀ error, view.kind ≠ .failed error := by
  unfold trustContent at h
  split at h
  · split_ifs at h
  · next hkind =>
    split_ifs at h with h1 h2
    exact ⟨h2, hkind⟩

namespace GuiState

variable {X509 : Type} {lib : CertLib X509} {g : GuiState}

/-- the button leaves the trust flow alone, resets it, or starts a probe; a connection without a probe has a Server CA -/
theorem press_cases (g : GuiState) (i : FrameInput) :
    let f := i.edited g.fields
    ((g.press i).trustState = g.trustState ∨ (g.press i).trustState = .idle) ∧ (g.press i).probes = g.probes ∧
      ((g.press i).shouldConnect = true → ¬Blank f.serverCa) ∨
    (g.press i).trustState = (startProbe g.probes f.key (g.knownHosts.lookup f.key) f.server f.port).1 ∧
      (g.press i).probes = (startProbe g.probes f.key (g.knownHosts.lookup f.key) f.server f.port).2 ∧
      (g.press i).shouldConnect = false := by
  unfold press
  dsimp only
  generalize connectButton _ _ _ _ = button
  have hstate : (if button.2 = true then TrustState.idle else g.trustState) = g.trustState ∨
      (if button.2 = true then TrustState.idle else g.trustState) = .idle := by
    split_ifs
    · exact Or.inr rfl
    · exact Or.inl rfl
  by_cases hconn : button.1 = true
  · by_cases hca : Blank (i.edited g.fields).serverCa
    · rw [if_pos hconn, if_pos hca]
      exact Or.inr ⟨rfl, rfl, rfl⟩
    · rw [if_pos hconn, if_neg hca]
      exact Or.inl ⟨hstate, rfl, fun _ => hca⟩
  · rw [if_neg hconn]
    exact Or.inl ⟨hstate, rfl, fun h => by cases h⟩

/-- the invariant of the flow, in a state of the plugin -/
def Inv (g : GuiState) : Prop := FlowInv g.trustState g.probes g.knownHosts

theorem flowInv_press (h : g.Inv) (i : FrameInput) :
    FlowInv (g.press i).trustState (g.press i).probes g.knownHosts := by
  rcases press_cases g i with ⟨hstate | hstate, hprobes, -⟩ | ⟨hstate, hprobes, -⟩
  · rw [hstate, hprobes]; exact h
  · rw [hstate, hprobes]; exact h.idle
  · rw [hstate, hprobes]; exact h.startProbe rfl

theorem flowInv_polled (lib : CertLib X509) (h : g.Inv) (i : FrameInput) :
    FlowInv (g.polled lib i).1 (g.polled lib i).2.1 g.knownHosts :=
  ((flowInv_press h i).arrivals i.arrivals).poll lib

/-- the connection part of a tick changes neither the fields nor the pins nor the flow -/
theorem connectIfAsked_fields (lib : CertLib X509) (g : GuiState) (t : TickInput) :
    (g.connectIfAsked lib t).1.fields = g.fields ∧ (g.connectIfAsked lib t).1.knownHosts = g.knownHosts ∧
    (g.connectIfAsked lib t).1.trustState = g.trustState ∧ (g.connectIfAsked lib t).1.probes = g.probes ∧
    (g.connectIfAsked lib t).1.shouldConnect = false := by
  unfold connectIfAsked
  split_ifs with hc
  · unfold start
    split
    · exact ⟨rfl, rfl, rfl, rfl, rfl⟩
    · split
      · exact ⟨rfl, rfl, rfl, rfl, rfl⟩
      · split <;> exact ⟨rfl, rfl, rfl, rfl, rfl⟩
  · exact ⟨rfl, rfl, rfl, rfl, by simpa using hc⟩

theorem tick_fields (lib : CertLib X509) (g : GuiState) (t : TickInput) :
    (g.tick lib t).1.fields = g.fields ∧ (g.tick lib t).1.knownHosts = g.knownHosts ∧
    (g.tick lib t).1.trustState = g.trustState ∧ (g.tick lib t).1.probes = g.probes ∧
    (g.tick lib t).1.shouldConnect = false := by
  have h := connectIfAsked_fields lib g t
  unfold tick disconnectIfAsked
  dsimp only
  split_ifs
  · exact h
  · exact h

theorem inv_init (fields : Fields) (hosts : KnownHosts) : (init fields hosts).Inv := FlowInv.empty hosts

theorem flowInv_step (h : g.Inv) (e : GuiEvent) : (g.step lib e).Inv := by
  cases e with
  | frame i =>
    have hpolled := flowInv_polled lib h i
    have hdecided := renderDecision_cases (g.polled lib i).1 i.dialog (i.edited g.fields).server
    unfold Inv step draw decided
    dsimp only
    rcases hdecided with ⟨d, pem, -, -, -, heq⟩ | ⟨hstate | hstate, hnone⟩
    · rw [heq]
      refine hpolled.idle.mono_hosts fun key hkey => ?_
      exact (KnownHosts.pinned_insertAndSave _ _ _ _).2 (Or.inr hkey)
    · rw [hstate, hnone]; exact hpolled
    · rw [hstate, hnone]; exact hpolled.idle
  | frameWithoutRenderer => exact FlowInv.idle h
  | probeWrites gen r => exact FlowInv.write h gen r
  | tick t =>
    obtain ⟨-, hhosts, hstate, hprobes, -⟩ := tick_fields lib g t
    unfold Inv step
    dsimp only
    rw [hhosts, hstate, hprobes]
    exact h

/-! ## Which connections a tick opens -/

/-- a connection opened by a tick taken now, if there is no Server CA, is pinned to the certificate of the very server
it goes to -/
def SafeNow (lib : CertLib X509) (g : GuiState) : Prop :=
  ∀ t d, (g.tick lib t).2 = some d → Blank g.fields.serverCa →
    ∃ pem, g.knownHosts.lookup (KnownHosts.key d.serverHost d.serverPort) = some pem ∧
      d.serverTrust = some ⟨pem.toUTF8⟩

/-- a standing request to connect without a Server CA is for a pinned server -/
def Ready (g : GuiState) : Prop :=
  g.shouldConnect = true → Blank g.fields.serverCa → g.knownHosts.Pinned g.fields.key

theorem start_dial {t : TickInput} {d : Dial} (h : (g.start lib t).2 = some d) :
    d.serverHost = g.fields.server ∧ d.serverPort = g.fields.port ∧ g.loadServerTrust lib t = .ok d.serverTrust := by
  unfold start at h
  split at h
  · cases h
  · split at h
    · cases h
    · split at h
      · cases h
      · next htrust =>
        cases h
        exact ⟨rfl, rfl, htrust⟩

theorem loadServerTrust_pinned {t : TickInput} {trust : Option ServerTrust} {pem : String}
    (hca : Blank g.fields.serverCa) (hpin : g.knownHosts.lookup g.fields.key = some pem)
    (h : g.loadServerTrust lib t = .ok trust) : trust = some ⟨pem.toUTF8⟩ := by
  unfold loadServerTrust at h
  rw [if_neg (not_not.2 hca), hpin] at h
  dsimp only at h
  split at h
  · next anchors htrust =>
    have hanchors := fromPem_anchors htrust
    cases h
    rw [← hanchors]
  · cases h

theorem safeNow_iff (lib : CertLib X509) (g : GuiState) : SafeNow lib g ↔ Ready g := by
  refine ⟨?_, ?_⟩
  · intro h hc hca
    by_contra hpin
    have hnone : g.knownHosts.lookup g.fields.key = none := by
      cases hl : g.knownHosts.lookup g.fields.key with
      | none => rfl
      | some pem => exact absurd ⟨pem, hl⟩ hpin
    -- a tick at which nothing else fails
    let t : TickInput := ⟨.ok (), .ok (), .error ""⟩
    have htrust : ({ g with shouldConnect := false } : GuiState).loadServerTrust lib t = .ok none := by
      unfold loadServerTrust
      rw [if_neg (not_not.2 hca), hnone]
    have hcert : ∃ b, ({ g with shouldConnect := false } : GuiState).loadClientCert t = .ok b := by
      unfold loadClientCert
      split_ifs
      · exact ⟨_, rfl⟩
      · exact ⟨_, rfl⟩
    obtain ⟨b, hcert⟩ := hcert
    have hdial : ∃ d, (g.tick lib t).2 = some d ∧ d.serverTrust = none := by
      unfold tick connectIfAsked start
      rw [if_pos hc, hcert, htrust]
      exact ⟨_, rfl, rfl⟩
    obtain ⟨d, hd, hd'⟩ := hdial
    obtain ⟨pem, -, hpem⟩ := h t d hd hca
    rw [hd'] at hpem
    cases hpem
  · intro h t d hd hca
    unfold tick connectIfAsked at hd
    dsimp only at hd
    split_ifs at hd with hc
    · obtain ⟨hhost, hport, htrust⟩ := start_dial hd
      obtain ⟨pem, hpem⟩ := h hc hca
      refine ⟨pem, ?_, loadServerTrust_pinned hca hpem htrust⟩
      rw [hhost, hport]
      exact hpem

/-- the server a frame decides to connect to: the one whose pinned certificate the probe found again, or the one whose
certificate Trust is clicked for -/
def decidedKey (lib : CertLib X509) (g : GuiState) (i : FrameInput) : Option String :=
  if (g.polled lib i).2.2 then (g.press i).trustState.key? else (g.decided lib i).2.toStore.map Prod.fst

/-- When a frame leaves the Server CA blank, the Server and Port fields name the server it decides to connect to; if it
decides nothing while a request stands, they name the server they named before, with the Server CA blank before too.
They may also name any server that is pinned already. -/
def FieldsSettled (lib : CertLib X509) (g : GuiState) : GuiEvent → Prop
  | .frame i =>
    Blank (g.finalFields i).serverCa →
      match decidedKey lib g i with
      | some key => (i.edited g.fields).key = key ∨ g.knownHosts.Pinned (i.edited g.fields).key
      | none => g.shouldConnect = true →
        Blank g.fields.serverCa ∧ (i.edited g.fields).key = g.fields.key ∨ g.knownHosts.Pinned (i.edited g.fields).key
  | _ => True

/-- the picker fills in the certificate or the Server CA, nothing else, and never with a blank path -/
theorem finalFields_cases (g : GuiState) (i : FrameInput) :
    (g.finalFields i).key = (i.edited g.fields).key ∧
    (Blank (g.finalFields i).serverCa → Blank (i.edited g.fields).serverCa) := by
  unfold finalFields
  dsimp only
  split
  · exact ⟨rfl, fun h => h⟩
  · exact ⟨rfl, fun h => h⟩
  · next path _ => exact ⟨rfl, fun h => absurd h path.2⟩

/-- a frame connects without a dialog only for a server whose pin the probe found again -/
theorem silent_pinned (h : g.Inv) (i : FrameInput) (hsilent : (g.polled lib i).2.2 = true) :
    ∃ key, (g.press i).trustState.key? = some key ∧ g.knownHosts.Pinned key ∧ (g.polled lib i).1 = .idle := by
  have hflow := flowInv_press h i
  unfold polled at hsilent ⊢
  dsimp only at hsilent ⊢
  rcases pollStep_cases lib (g.press i).trustState
    (i.arrivals.foldl (fun ps a => ps.write a.1 a.2) (g.press i).probes) with heq | ⟨gen, key, stored, r, hstate, -, heq⟩
  · rw [heq] at hsilent
    cases hsilent
  · rw [heq] at hsilent ⊢
    rcases resolveProbe_cases lib r key stored with ⟨_, -, hres⟩ | ⟨hidle, -, pem, hstored⟩ | ⟨_, _, _, -, -, -, -, hres⟩
    · rw [hres] at hsilent; cases hsilent
    · refine ⟨key, by rw [hstate]; rfl, hflow.stored gen key pem ?_, hidle⟩
      rw [hstate, hstored]
    · rw [hres] at hsilent; cases hsilent

theorem press_not_connect {i : FrameInput} (hca : Blank (g.finalFields i).serverCa) :
    (g.press i).shouldConnect = false := by
  have hedited := (finalFields_cases g i).2 hca
  rcases press_cases g i with ⟨-, -, hconnect⟩ | ⟨-, -, hconnect⟩
  · by_contra hne
    exact hconnect (by simpa using hne) hedited
  · exact hconnect

/-- what a frame decides, by what it does to the request and to the pins -/
theorem draw_cases (lib : CertLib X509) (h : g.Inv) (i : FrameInput) (hca : Blank (g.finalFields i).serverCa) :
    (∃ key, decidedKey lib g i = some key ∧ (g.draw lib i).shouldConnect = true ∧
      ∀ key', (g.draw lib i).knownHosts.Pinned key' ↔ key' = key ∨ g.knownHosts.Pinned key') ∨
    decidedKey lib g i = none ∧ (g.draw lib i).shouldConnect = g.shouldConnect ∧
      (g.draw lib i).knownHosts = g.knownHosts := by
  have hpress := press_not_connect hca
  by_cases hsilent : (g.polled lib i).2.2 = true
  · obtain ⟨key, hkey, hpin, hidle⟩ := silent_pinned h i hsilent
    have hdecided : g.decided lib i = (.idle, {}) := by
      unfold decided
      rw [hidle]
      rfl
    refine Or.inl ⟨key, by rw [decidedKey, if_pos hsilent, hkey], ?_, ?_⟩
    · simp [draw, hsilent]
    · intro key'
      simp only [draw, hdecided]
      refine ⟨Or.inr, ?_⟩
      rintro (rfl | hp)
      · exact hpin
      · exact hp
  · have hkey : decidedKey lib g i = (g.decided lib i).2.toStore.map Prod.fst := by rw [decidedKey, if_neg hsilent]
    have hsilent' : (g.polled lib i).2.2 = false := by simpa using hsilent
    rw [hkey]
    rcases renderDecision_cases (g.polled lib i).1 i.dialog (i.edited g.fields).server with
      ⟨d, pem, -, -, -, heq⟩ | ⟨-, heq⟩
    · have hdecided : g.decided lib i = (.idle, ⟨true, some (d.key, pem)⟩) := heq
      refine Or.inl ⟨d.key, by rw [hdecided]; rfl, ?_, ?_⟩
      · simp [draw, hdecided]
      · intro key'
        simp only [draw, hdecided]
        exact KnownHosts.pinned_insertAndSave _ _ _ _
    · have hdecided : (g.decided lib i).2 = {} := heq
      refine Or.inr ⟨by rw [hdecided]; rfl, ?_, ?_⟩
      · simp [draw, hpress, hsilent', hdecided]
      · simp only [draw, hdecided]

/-- a frame keeps standing requests safe exactly when it leaves the fields settled -/
theorem ready_frame_iff (h : g.Inv) (hready : Ready g) (i : FrameInput) :
    Ready (g.draw lib i) ↔ FieldsSettled lib g (.frame i) := by
  have hfields : (g.draw lib i).fields = g.finalFields i := rfl
  obtain ⟨hkey, -⟩ := finalFields_cases g i
  unfold Ready FieldsSettled
  rw [hfields, hkey]
  refine ⟨?_, ?_⟩
  · intro hafter hca
    rcases draw_cases lib h i hca with ⟨key, hdecided, hconnect, hpins⟩ | ⟨hdecided, hconnect, hpins⟩
    · rw [hdecided]
      exact (hpins _).1 (hafter hconnect hca)
    · rw [hdecided]
      intro hstanding
      apply Or.inr
      rw [← hpins]
      exact hafter (hconnect.trans hstanding) hca
  · intro hguard hconnected hca
    have hsettled := hguard hca
    rcases draw_cases lib h i hca with ⟨key, hdecided, -, hpins⟩ | ⟨hdecided, hconnect, hpins⟩
    · rw [hdecided] at hsettled
      exact (hpins _).2 hsettled
    · rw [hdecided] at hsettled
      rw [hpins]
      have hstanding : g.shouldConnect = true := hconnect.symm.trans hconnected
      rcases hsettled hstanding with ⟨hblank, hsame⟩ | hpin
      · rw [hsame]
        exact hready hstanding hblank
      · exact hpin

theorem ready_step_iff (h : g.Inv) (hready : Ready g) (e : GuiEvent) :
    Ready (g.step lib e) ↔ FieldsSettled lib g e := by
  cases e with
  | frame i => exact ready_frame_iff h hready i
  | frameWithoutRenderer => exact iff_of_true hready trivial
  | probeWrites gen r => exact iff_of_true hready trivial
  | tick t =>
    obtain ⟨-, -, -, -, hconnect⟩ := tick_fields lib g t
    refine iff_of_true (fun hc => ?_) trivial
    change (g.tick lib t).1.shouldConnect = true at hc
    rw [hconnect] at hc
    cases hc

end GuiState

open GuiState

/-- Connections. In every state of a run, a tick that opens a connection without a Server CA pins it to the certificate
stored for the very server it goes to, exactly when every frame of the run leaves the fields settled. -/
theorem dials_pinned_iff {X509 : Type} (lib : CertLib X509) (fields : Fields) (hosts : KnownHosts)
    (es : List GuiEvent) :
    Runs.Always (GuiState.step lib) (SafeNow lib) (init fields hosts) es ↔
      Runs.Meets (GuiState.step lib) (FieldsSettled lib) (init fields hosts) es := by
  have hsafe : SafeNow lib = Ready := funext fun g => propext (safeNow_iff lib g)
  rw [hsafe]
  apply Runs.always_iff_meets (J := GuiState.Inv)
  · exact fun g e h => flowInv_step h e
  · exact fun g e h hready hG => (ready_step_iff h hready e).2 hG
  · exact fun g e h hready hafter => (ready_step_iff h hready e).1 hafter
  · exact inv_init fields hosts
  · intro hc
    cases hc

/-! ### Editing under the dialog -/

/-- a frame in which the Server field reads `server` and nothing is clicked -/
def typing (server : String) : FrameInput where
  server := server
  serverPassword := "secret"
  certPath := ""
  certPass := ""
  serverCa := ""
  flightId := "ZV1"
  userName := "pilot"
  typedPort := none
  certBrowse := false
  caBrowse := false
  button := false
  arrivals := []
  pick := .stay
  dialog := none

/-- Connect to a new server; its certificate arrives; then the Server field is edited under the dialog, and Trust
clicked -/
def editUnderDialog : List GuiEvent :=
  [.frame { typing "good" with button := true }, .probeWrites 0 (.ok ⟨"PEM".toUTF8, "AB"⟩), .frame (typing "good"),
    .frame (typing "evil"), .frame { typing "evil" with dialog := some .trust }]

def startFields : Fields := ⟨"good", 64738, "", "", "", "", "", ""⟩

/-- the next tick sends the password to a server nobody has trusted -/
theorem unverified_dial :
    ¬Runs.Always (GuiState.step noCerts) (SafeNow noCerts) (init startFields ∅) editUnderDialog := by
  intro h
  have hlast := h.2.2.2.2.2 ⟨.ok (), .ok (), .error ""⟩ ⟨"evil", 64738, "secret", false, none, "pilot", "ZV1"⟩ (by decide)
    (by decide)
  obtain ⟨pem, -, htrust⟩ := hlast
  cases htrust

/-! ## What is pinned -/

namespace GuiState

variable {X509 : Type} {lib : CertLib X509} {g : GuiState}

/-- what an event records in the store -/
def recorded (lib : CertLib X509) (g : GuiState) : GuiEvent → Option (String × String)
  | .frame i => (g.decided lib i).2.toStore
  | _ => none

/-- The store changes only by what the event records, and that is by consent: Trust is clicked; the key is that of the
latest probe and the PEM is the one it brought back; the dialog shows that certificate's fingerprint and the server the
key was made from, and the fields hold the pair it was made from. -/
def PinsByConsent (lib : CertLib X509) (g : GuiState) (e : GuiEvent) : Prop :=
  let g' := g.step lib e
  (recorded lib g e = none → g'.knownHosts = g.knownHosts) ∧
  ∀ key pem, recorded lib g e = some (key, pem) → ∃ i p probed prompt, e = .frame i ∧ i.dialog = some .trust ∧
    g'.knownHosts = g.knownHosts.insertAndSave key pem ∧
    g'.probes.started.head? = some p ∧ key = KnownHosts.key p.host p.port ∧
    (p.gen, .ok probed) ∈ g'.probes.returned ∧ String.fromUTF8? probed.pem = some pem ∧
    g.shown lib i = some prompt ∧ prompt.kind.presented = some probed.sha256 ∧ prompt.server = p.host ∧
    g'.fields.server = p.host ∧ g'.fields.port = p.port

/-- when Trust is clicked, the Server and Port fields are those of the Connect click that started the probe -/
def FieldsKept (lib : CertLib X509) (g : GuiState) : GuiEvent → Prop
  | .frame i => ∀ prompt, g.shown lib i = some prompt → trustContent prompt i.dialog = .trust →
    ∀ p, (g.press i).probes.started.head? = some p →
      (i.edited g.fields).server = p.host ∧ (i.edited g.fields).port = p.port
  | _ => True

theorem polled_started (g : GuiState) (i : FrameInput) : (g.polled lib i).2.1.started = (g.press i).probes.started := by
  have harrivals : ∀ (as : List (ℕ × ProbeResult)) (ps : Probes),
      (as.foldl (fun ps a => ps.write a.1 a.2) ps).started = ps.started := by
    intro as
    induction as with
    | nil => exact fun _ => rfl
    | cons a as ih =>
      intro ps
      rw [List.foldl_cons, ih, FlowInv.write_started]
  unfold polled
  dsimp only
  rcases pollStep_cases lib (g.press i).trustState
    (i.arrivals.foldl (fun ps a => ps.write a.1 a.2) (g.press i).probes) with heq | ⟨_, _, _, _, -, -, heq⟩
  · rw [heq]; exact harrivals _ _
  · rw [heq]; exact harrivals _ _

/-- the picker fills in neither the server nor the port -/
theorem finalFields_server (g : GuiState) (i : FrameInput) :
    (g.finalFields i).server = (i.edited g.fields).server ∧ (g.finalFields i).port = (i.edited g.fields).port := by
  unfold finalFields
  dsimp only
  split <;> exact ⟨rfl, rfl⟩

/-- a click on Trust: what the dialog shows is what the latest probe brought back, and that is recorded -/
theorem trust_click (h : g.Inv) {i : FrameInput} {prompt : TrustPrompt} (hshown : g.shown lib i = some prompt)
    (hclick : trustContent prompt i.dialog = .trust) :
    ∃ p probed pem, (g.press i).probes.started.head? = some p ∧
      (p.gen, .ok probed) ∈ (g.polled lib i).2.1.returned ∧ String.fromUTF8? probed.pem = some pem ∧
      prompt.kind.presented = some probed.sha256 ∧ prompt.server = (i.edited g.fields).server ∧
      recorded lib g (.frame i) = some (KnownHosts.key p.host p.port, pem) := by
  have hflow := flowInv_polled lib h i
  unfold shown at hshown
  split at hshown
  · next d hstate =>
    obtain rfl := Option.some.inj hshown
    rcases hflow.informed d hstate with ⟨error, hfailed, -⟩ | ⟨p, probed, pem, hp, hkey, hret, hutf8, hpem, hkind⟩
    · exact absurd hfailed ((trustContent_trust hclick).2 error)
    · have hpkey : p.key = KnownHosts.key p.host p.port := hflow.keys p (List.mem_of_mem_head? hp)
      rw [polled_started] at hp
      refine ⟨p, probed, pem, hp, hret, hutf8, hkind, rfl, ?_⟩
      have hdecided : (g.decided lib i).2.toStore = some (d.key, pem) := by
        unfold decided renderDecision
        rw [hstate]
        dsimp only
        rw [hclick, hpem]
        rfl
      rw [recorded, hdecided, hkey, hpkey]
  · cases hshown

/-- what is recorded was shown, and Trust was clicked -/
theorem shown_of_recorded {i : FrameInput} {x : String × String} (h : recorded lib g (.frame i) = some x) :
    ∃ prompt, g.shown lib i = some prompt ∧ trustContent prompt i.dialog = .trust := by
  have h : (renderDecision (g.polled lib i).1 i.dialog (i.edited g.fields).server).2.toStore = some x := h
  rcases renderDecision_cases (g.polled lib i).1 i.dialog (i.edited g.fields).server with
    ⟨d, pem, hstate, hclick, -, -⟩ | ⟨-, hnone⟩
  · refine ⟨_, ?_, hclick⟩
    unfold shown
    rw [hstate]
  · rw [hnone] at h
    cases h

/-- what is recorded is what the latest probe brought back, under its key -/
theorem probe_of_recorded (h : g.Inv) {i : FrameInput} {key pem : String}
    (hrec : recorded lib g (.frame i) = some (key, pem)) :
    ∃ prompt p probed, g.shown lib i = some prompt ∧ trustContent prompt i.dialog = .trust ∧
      (g.press i).probes.started.head? = some p ∧ (p.gen, .ok probed) ∈ (g.polled lib i).2.1.returned ∧
      String.fromUTF8? probed.pem = some pem ∧ prompt.kind.presented = some probed.sha256 ∧
      prompt.server = (i.edited g.fields).server ∧ key = KnownHosts.key p.host p.port := by
  obtain ⟨prompt, hshown, hclick⟩ := shown_of_recorded hrec
  obtain ⟨p, probed, pem', hp, hret, hutf8, hkind, hprompt, hrec'⟩ := trust_click h hshown hclick
  obtain ⟨hkey, hpem⟩ := Prod.mk.inj (Option.some.inj (hrec.symm.trans hrec'))
  exact ⟨prompt, p, probed, hshown, hclick, hp, hret, hpem ▸ hutf8, hkind, hprompt, hkey⟩

/-- the store changes only by what is recorded -/
theorem step_knownHosts (lib : CertLib X509) (g : GuiState) (e : GuiEvent) : (g.step lib e).knownHosts =
    match recorded lib g e with
    | none => g.knownHosts
    | some (key, pem) => g.knownHosts.insertAndSave key pem := by
  cases e with
  | frame i => rfl
  | frameWithoutRenderer => rfl
  | probeWrites gen r => rfl
  | tick t => exact (tick_fields lib g t).2.1

theorem pinsByConsent_iff (h : g.Inv) (e : GuiEvent) : PinsByConsent lib g e ↔ FieldsKept lib g e := by
  have hkept : recorded lib g e = none → (g.step lib e).knownHosts = g.knownHosts := by
    intro hnone
    rw [step_knownHosts, hnone]
  cases e with
  | frame i =>
    have hstarted : (g.draw lib i).probes.started = (g.press i).probes.started := polled_started g i
    have hfields : (g.draw lib i).fields = g.finalFields i := rfl
    obtain ⟨hserver, hport⟩ := finalFields_server g i
    refine ⟨?_, ?_⟩
    · rintro ⟨-, hpins⟩ prompt hshown hclick p hp
      obtain ⟨_, _, _, -, -, -, -, -, hrec⟩ := trust_click h hshown hclick
      obtain ⟨_, p', _, _, -, -, -, hp', -, -, -, -, -, -, hs, ht⟩ := hpins _ _ hrec
      change (g.draw lib i).probes.started.head? = some p' at hp'
      rw [hstarted, hp] at hp'
      obtain rfl := Option.some.inj hp'
      rw [← hserver, ← hport, ← hfields]
      exact ⟨hs, ht⟩
    · intro hguard
      refine ⟨hkept, ?_⟩
      intro key pem hrec
      obtain ⟨prompt, p, probed, hshown, hclick, hp, hret, hutf8, hkind, hprompt, hkey⟩ := probe_of_recorded h hrec
      obtain ⟨hs, ht⟩ := hguard prompt hshown hclick p hp
      refine ⟨i, p, probed, prompt, rfl, (trustContent_trust hclick).1, ?_, ?_, hkey, hret, hutf8, hshown, hkind,
        hprompt.trans hs, ?_, ?_⟩
      · rw [step_knownHosts, hrec]
      · change (g.draw lib i).probes.started.head? = some p
        rw [hstarted]
        exact hp
      · change (g.draw lib i).fields.server = p.host
        rw [hfields, hserver]
        exact hs
      · change (g.draw lib i).fields.port = p.port
        rw [hfields, hport]
        exact ht
  | frameWithoutRenderer =>
    refine iff_of_true ⟨hkept, ?_⟩ trivial
    intro key pem hrec
    cases hrec
  | probeWrites gen r =>
    refine iff_of_true ⟨hkept, ?_⟩ trivial
    intro key pem hrec
    cases hrec
  | tick t =>
    refine iff_of_true ⟨hkept, ?_⟩ trivial
    intro key pem hrec
    cases hrec

end GuiState

/-- Pins. Every change of the store in a run is by informed consent exactly when the fields are those of the Connect
click whenever Trust is clicked. -/
theorem pins_by_consent_iff {X509 : Type} (lib : CertLib X509) (fields : Fields) (hosts : KnownHosts)
    (es : List GuiEvent) :
    Runs.Meets (GuiState.step lib) (PinsByConsent lib) (init fields hosts) es ↔
      Runs.Meets (GuiState.step lib) (FieldsKept lib) (init fields hosts) es :=
  Runs.meets_congr (J := GuiState.Inv) (fun _ e h => flowInv_step h e) (fun _ e h => pinsByConsent_iff h e)
    (inv_init fields hosts) es

/-- the dialog names one server, and the pin goes to another -/
theorem pin_under_other_name :
    ¬Runs.Meets (GuiState.step noCerts) (PinsByConsent noCerts) (init startFields ∅) editUnderDialog := by
  intro h
  have hpins := h.2.2.2.2.1.2 "good:64738" "PEM" (by decide)
  obtain ⟨_, p, _, _, -, -, -, hp, -, -, -, -, -, -, hs, -⟩ := hpins
  have hp : some (⟨0, KnownHosts.key "good" 64738, "good", 64738⟩ : ProbeStart) = some p := hp
  have hs : "evil" = p.host := hs
  obtain rfl := Option.some.inj hp
  exact absurd hs (by decide)

end MumbledFlight

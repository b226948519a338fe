/-
Trust on first use, from the click on Trust to the login: which certificate a server has shown whenever a client of a
connection sends it the password.

The window's run (`GuiState.step`), the configuration the tick makes of the fields, the clients of its stack and their
handshakes are put together here.

Results, over every run of frames, thread writes and ticks:
- `tick_trust`: a connection is held to the Server CA, and without one to what is pinned for the server it dials.
- `lastPin_trusted`: a pin recorded in a run is the certificate that the latest probe then, a probe of this server, had
  brought back, and Trust was clicked on the dialog that showed it.
- `first_use`: a login without a Server CA went to a server whose certificate verifies against the server's pin, or to a
  server without one; and the latter only if a frame let the fields drift away from the server decided about.
-/
import MumbledFlight.Plugin.PinSlots
import MumbledFlight.Voip.Connecting

namespace MumbledFlight

/-- the configuration `connection::start` makes -/
def GuiState.Dial.config (d : GuiState.Dial) (radioSource : RadioSource) : MumbleStackConfig where
  userName := d.userName
  sessionId := d.sessionId
  serverPassword := d.serverPassword
  hasClientCert := d.hasClientCert
  serverTrust := d.serverTrust
  radioSource
  voipClient := .all
  inputType := .real
  testPos := none
  serverHost := d.serverHost
  serverPort := d.serverPort

/-- the server a connection goes to, as the store tells them apart -/
def GuiState.Dial.server (d : GuiState.Dial) : Server := .typed d.serverHost d.serverPort

/-- In a run, Trust is clicked on a dialog; the latest probe then is one of the server, and the dialog shows the
fingerprint of the certificate it brought back. -/
def Trusted {X509 : Type} (lib : CertLib X509) (g : GuiState) (es : List GuiEvent) (s : Server) (pem : String) : Prop :=
  ∃ before i after prompt p probed, es = before ++ .frame i :: after ∧
    let now := Runs.run (GuiState.step lib) g before
    now.shown lib i = some prompt ∧ i.dialog = some .trust ∧ prompt.kind.presented = some probed.sha256 ∧
      (now.draw lib i).probes.started.head? = some p ∧ .typed p.host p.port = s ∧
      (p.gen, .ok probed) ∈ (now.draw lib i).probes.returned ∧ String.fromUTF8? probed.pem = some pem

namespace GuiState

variable {X509 : Type} {lib : CertLib X509} {g : GuiState}

/-! ## The trust of a connection -/

theorem loadServerTrust_ok {t : TickInput} {trust : Option ServerTrust} (h : g.loadServerTrust lib t = .ok trust) :
    trust = if Blank g.fields.serverCa then (g.knownHosts.lookup g.fields.key).map (⟨·.toUTF8⟩)
      else t.serverCa.toOption := by
  split_ifs with hca
  · cases hpin : g.knownHosts.lookup g.fields.key with
    | none =>
      unfold loadServerTrust at h
      rw [if_neg (not_not.2 hca), hpin] at h
      cases h
      rfl
    | some pem => exact loadServerTrust_pinned hca hpin h
  · unfold loadServerTrust at h
    rw [if_pos hca] at h
    split at h
    · next hload =>
      cases h
      rw [hload]
      rfl
    · cases h

/-- what a tick dials, it was asked to dial, with the fields of the tick -/
theorem tick_dial {t : TickInput} {d : Dial} (h : (g.tick lib t).2 = some d) :
    g.shouldConnect = true ∧ (({ g with shouldConnect := false } : GuiState).start lib t).2 = some d := by
  unfold tick connectIfAsked at h
  dsimp only at h
  split_ifs at h with hconnect
  exact ⟨hconnect, h⟩

theorem tick_server {t : TickInput} {d : Dial} (h : (g.tick lib t).2 = some d) :
    g.knownHosts.pins d.server = g.knownHosts.lookup g.fields.key := by
  obtain ⟨hhost, hport, -⟩ := start_dial (tick_dial h).2
  rw [Dial.server, KnownHosts.pins_typed, hhost, hport]
  rfl

theorem tick_trust {t : TickInput} {d : Dial} (h : (g.tick lib t).2 = some d) :
    d.serverTrust = if Blank g.fields.serverCa then (g.knownHosts.pins d.server).map (⟨·.toUTF8⟩)
      else t.serverCa.toOption := by
  obtain ⟨-, -, htrust⟩ := start_dial (tick_dial h).2
  rw [tick_server h]
  exact loadServerTrust_ok htrust

/-! ## Where a pin comes from -/

theorem trusted_cons {e : GuiEvent} {es : List GuiEvent} {s : Server} {pem : String}
    (h : Trusted lib (g.step lib e) es s pem) : Trusted lib g (e :: es) s pem := by
  obtain ⟨before, i, after, prompt, p, probed, rfl, hrest⟩ := h
  exact ⟨e :: before, i, after, prompt, p, probed, rfl, hrest⟩

/-- the server and the certificate of a recorded pin are those of a probe -/
theorem pinnedServer_trusted (h : g.Inv) {e : GuiEvent} {es : List GuiEvent} {s : Server} {pem : String}
    (hpin : pinnedServer lib g e = some (s, pem)) : Trusted lib g (e :: es) s pem := by
  cases e with
  | frame i =>
    cases hrec : recorded lib g (.frame i) with
    | none =>
      rw [pinnedServer, hrec] at hpin
      cases hpin
    | some r =>
      obtain ⟨key, pem'⟩ := r
      obtain ⟨prompt, p, probed, hshown, hclick, hp, hret, hutf8, hkind, -⟩ := probe_of_recorded h hrec
      have hstarted : (g.draw lib i).probes.started.head? = some p :=
        (congrArg List.head? (polled_started g i)).trans hp
      rw [pinnedServer, hrec, Option.bind_some] at hpin
      dsimp only [step] at hpin
      rw [hstarted] at hpin
      obtain ⟨rfl, rfl⟩ := Prod.mk.inj (Option.some.inj hpin)
      exact ⟨[], i, es, prompt, p, probed, rfl, hshown, (trustContent_trust hclick).1, hkind, hstarted, rfl, hret, hutf8⟩
  | frameWithoutRenderer => cases hpin
  | probeWrites gen r => cases hpin
  | tick t => cases hpin

theorem lastPin_trusted (h : g.Inv) {es : List GuiEvent} {s : Server} {pem : String}
    (hpin : lastPin lib s g es = some pem) : Trusted lib g es s pem := by
  induction es generalizing g with
  | nil => cases hpin
  | cons e es ih =>
    rcases Option.or_eq_some_iff.1 hpin with hlater | ⟨-, hnow⟩
    · exact trusted_cons (ih (flowInv_step h e) hlater)
    · obtain ⟨⟨s', pem'⟩, hrec, hsame⟩ := Option.bind_eq_some_iff.1 hnow
      split_ifs at hsame with hs
      cases hsame
      rw [hs]
      exact pinnedServer_trusted h hrec

/-! ## Requests that stand -/

theorem ready_run (h : g.Inv) (hready : Ready g) {es : List GuiEvent}
    (hsettled : Runs.Meets (step lib) (FieldsSettled lib) g es) : Ready (Runs.run (step lib) g es) := by
  induction es generalizing g with
  | nil => exact hready
  | cons e es ih => exact ih (flowInv_step h e) ((ready_step_iff h hready e).2 hsettled.1) hsettled.2

/-- a connection without a Server CA, after settled fields, goes to a server with a pin -/
theorem tick_pinned (hready : Ready g) {t : TickInput} {d : Dial} (h : (g.tick lib t).2 = some d)
    (hca : Blank g.fields.serverCa) : (g.knownHosts.pins d.server).isSome = true := by
  rw [tick_server h]
  obtain ⟨pem, hpem⟩ := hready (tick_dial h).1 hca
  exact Option.isSome_of_eq_some hpem

end GuiState

open GuiState

/-- every client of a stack is held to the trust of the configuration -/
theorem MumbleStackConfig.spawned_login {cfg : MumbleStackConfig} {zone : SharedCockpitZone} {autoSink : Option String}
    {k : SpawnedClient} (h : k ∈ cfg.runMumbleStack zone autoSink) : k.serverTrust = cfg.serverTrust ∧
      k.username = k.kind.username cfg.userName ∧ k.password = cfg.serverPassword := by
  rcases spawned_cases h with rfl | rfl | rfl | ⟨feed, rfl⟩ <;> exact ⟨rfl, rfl, rfl⟩

/-- First use. After every run, the trust of a connection is the Server CA that was loaded, or without one the pin of
the server it dials. And whenever a client of such a connection sends its login, the server has presented a certificate
that verifies against the Server CA, or without one against the pin, if there is any: a pin of the first store, or the
certificate that the latest probe, one of this server, had brought back when Trust was clicked on the dialog showing it.
There is one if the fields were settled all along the run. -/
theorem first_use {X509 : Type} (lib : TlsLib X509) (fields : Fields) (hosts : KnownHosts) (es : List GuiEvent) :
    let g := Runs.run (step lib.toCertLib) (init fields hosts) es
    (∀ t d, (g.tick lib.toCertLib t).2 = some d →
      d.serverTrust = if Blank g.fields.serverCa then (g.knownHosts.pins d.server).map (⟨·.toUTF8⟩)
        else t.serverCa.toOption) ∧
    ∀ t d, (g.tick lib.toCertLib t).2 = some d → ∀ radioSource zone autoSink,
      ∀ k ∈ (d.config radioSource).runMumbleStack zone autoSink, ∀ io m, .authenticate m ∈ (k.connect lib io).1 →
        m = ⟨k.kind.username d.userName, if d.serverPassword.isEmpty then none else some d.serverPassword, true⟩ ∧
        (¬Blank g.fields.serverCa → ∀ trust, t.serverCa = .ok trust → VerifiedBy lib trust.anchors io.peer) ∧
        (Blank g.fields.serverCa →
          (∀ pem, g.knownHosts.pins d.server = some pem → VerifiedBy lib pem.toUTF8 io.peer ∧
            (hosts.pins d.server = some pem ∨ Trusted lib.toCertLib (init fields hosts) es d.server pem)) ∧
          (Runs.Meets (step lib.toCertLib) (FieldsSettled lib.toCertLib) (init fields hosts) es →
            (g.knownHosts.pins d.server).isSome = true)) := by
  intro g
  refine ⟨fun t d hd => tick_trust hd, ?_⟩
  intro t d hd radioSource zone autoSink k hk io m hm
  obtain ⟨hauth, hverified⟩ := mem_connect_authenticate hm
  obtain ⟨hktrust, huser, hpassword⟩ := MumbleStackConfig.spawned_login hk
  have htrust : k.serverTrust = _ := hktrust.trans (tick_trust hd)
  refine ⟨?_, ?_, ?_⟩
  · rw [hauth, SpawnedClient.authenticate, huser, hpassword]
    rfl
  · intro hca trust hload
    rw [if_neg hca, hload] at htrust
    exact hverified trust htrust
  · intro hca
    rw [if_pos hca] at htrust
    refine ⟨?_, ?_⟩
    · intro pem hpem
      rw [hpem] at htrust
      refine ⟨hverified _ htrust, ?_⟩
      have horigin := hpem
      rw [pins_run (inv_init fields hosts)] at horigin
      rcases Option.or_eq_some_iff.1 horigin with hlast | ⟨-, hfirst⟩
      · exact Or.inr (lastPin_trusted (inv_init fields hosts) hlast)
      · exact Or.inl hfirst
    · intro hsettled
      have hready : Ready g := by
        refine ready_run (inv_init fields hosts) ?_ hsettled
        intro hc
        cases hc
      exact tick_pinned hready hd hca

/-! ### A first use -/

/-- certificates are their bytes, and an anchor vouches for itself -/
def ownBytes : TlsLib (List UInt8) where
  stackFromPem bytes := some [bytes.data.toList]
  fromDer der := .ok der.data.toList
  sha256 _ := .ok [171]
  utf8Error _ := "invalid utf-8"
  verifyCert anchors leaf := if leaf ∈ anchors then none else some "self-signed certificate"

/-- Connect to a new server; its certificate arrives, the dialog shows it, and Trust is clicked -/
def trustedOnce : List GuiEvent :=
  [.frame { typing "good" with button := true }, .probeWrites 0 (.ok ⟨"PEM".toUTF8, "AB"⟩), .frame (typing "good"),
    .frame { typing "good" with dialog := some .trust }]

/-- what the tick after `trustedOnce` dials -/
def pinnedDial : Dial := ⟨"good", 64738, "secret", false, some ⟨"PEM".toUTF8⟩, "pilot", "ZV1"⟩

/-- its interphone logs in to the server that presents the certificate -/
theorem first_use_login :
    let g := Runs.run (step ownBytes.toCertLib) (init startFields ∅) trustedOnce
    let io : Handshake := ⟨.ok (), .ok (), .ok (), .ok (some (.ok "PEM".toUTF8)), .ok (), .ok ()⟩
    (g.tick ownBytes.toCertLib ⟨.ok (), .ok (), .error ""⟩).2 = some pinnedDial ∧
      .authenticate ⟨"pilot_ic", some "secret", true⟩ ∈ ((pinnedDial.config .disabled).icClient.connect ownBytes io).1 ∧
      VerifiedBy ownBytes "PEM".toUTF8 io.peer ∧
      Trusted ownBytes.toCertLib (init startFields ∅) trustedOnce pinnedDial.server "PEM" := by
  intro g io
  obtain ⟨-, hlogin⟩ := first_use ownBytes startFields ∅ trustedOnce
  have hdial : (g.tick ownBytes.toCertLib ⟨.ok (), .ok (), .error ""⟩).2 = some pinnedDial := by decide +kernel
  have hauth : .authenticate ⟨"pilot_ic", some "secret", true⟩ ∈
      ((pinnedDial.config .disabled).icClient.connect ownBytes io).1 := by decide +kernel
  have hic : (pinnedDial.config .disabled).icClient ∈ (pinnedDial.config .disabled).runMumbleStack .inFbo none := by
    decide +kernel
  obtain ⟨-, -, hpinned⟩ := hlogin _ _ hdial .disabled .inFbo none _ hic io _ hauth
  obtain ⟨hverified, horigin⟩ := (hpinned (by decide +kernel)).1 "PEM" (by decide +kernel)
  exact ⟨hdial, hauth, hverified, horigin.resolve_left (by decide +kernel)⟩

end MumbledFlight

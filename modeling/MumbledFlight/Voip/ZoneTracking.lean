/-
Zone channels of the Voice client: what `current_zone` knows, and when the periodic check asks for a channel.

Results:
- `zone_confirmed_iff`: the session believes it is in a zone only while the server's last word places it there,
  exactly along the runs in which no UserState moves it out of both zone channels after a zone was confirmed.
- `check_sends_request`: a check made while the zone is not confirmed asks for the zone's channel, by its cached id or
  by a creation request, unless the creation an earlier check asked for is still outstanding.
-/
import MumbledFlight.Voip.History

namespace MumbledFlight

open Session

/-! ## The believed zone and the server's last word -/

/-- the believed zone is the one whose channel the server's last word named, by the cache of that moment -/
def ZoneConfirmed (client : MumbleVoipClient) (r : VoipRun) : Prop :=
  ∀ zone, r.session.currentZone = some zone → ∃ cid channels name, r.lastPlacement = some (cid, channels) ∧
    client.zoneChannel zone = some name ∧ channels.lookup name = some cid

/-- the event does not move a session with a confirmed zone into a channel that is neither zone channel -/
def StaysInZones (client : MumbleVoipClient) (r : VoipRun) (e : VoipEvent) : Prop :=
  ∀ us cid, e = .control (.userState us) → r.session.mySession = some us.getSession → us.channelId = some cid →
    r.session.currentZone ≠ none →
      ∃ zone name, client.zoneChannel zone = some name ∧ r.session.channels.lookup name = some cid

theorem confirmedZone_some {s : Session} {client : MumbleVoipClient} {fboCh aircraftCh : String} {cid : UInt32}
    {zone : SharedCockpitZone} (hz : client.zoneChannels = some (fboCh, aircraftCh))
    (h : s.confirmedZone fboCh aircraftCh cid = some zone) :
    ∃ name, client.zoneChannel zone = some name ∧ s.channels.lookup name = some cid := by
  unfold confirmedZone at h
  split_ifs at h with h1 h2
  · cases h; exact ⟨fboCh, by simp [MumbleVoipClient.zoneChannel, hz], h1⟩
  · cases h; exact ⟨aircraftCh, by simp [MumbleVoipClient.zoneChannel, hz], h2⟩

theorem confirmedZone_isSome {s : Session} {client : MumbleVoipClient} {fboCh aircraftCh name : String} {cid : UInt32}
    {zone : SharedCockpitZone} (hz : client.zoneChannels = some (fboCh, aircraftCh))
    (hn : client.zoneChannel zone = some name) (hl : s.channels.lookup name = some cid) :
    ∃ zone', s.confirmedZone fboCh aircraftCh cid = some zone' := by
  unfold confirmedZone
  split_ifs with h1 h2
  · exact ⟨_, rfl⟩
  · exact ⟨_, rfl⟩
  · cases zone <;> simp only [MumbleVoipClient.zoneChannel, hz, Option.map_some, Option.some.injEq] at hn <;> subst hn
    · exact absurd hl h1
    · exact absurd hl h2

/-- a UserState for the session itself: a zone channel is confirmed, any other channel changes nothing -/
theorem onUserState_own {s : Session} {us : UserStateMsg} {cid : UInt32} (client : MumbleVoipClient)
    (hown : s.mySession = some us.getSession) (hc : us.channelId = some cid) :
    (∃ zone name, client.zoneChannel zone = some name ∧ s.channels.lookup name = some cid ∧
      (s.onUserState us client).currentZone = some zone) ∨
    ((¬∃ zone name, client.zoneChannel zone = some name ∧ s.channels.lookup name = some cid) ∧
      (s.onUserState us client).currentZone = s.currentZone) := by
  cases hz : client.zoneChannels with
  | none =>
    right
    simp [onUserState, hown, hc, hz, MumbleVoipClient.zoneChannel]
  | some chs =>
    obtain ⟨fboCh, aircraftCh⟩ := chs
    cases hconf : s.confirmedZone fboCh aircraftCh cid with
    | none =>
      right
      refine ⟨?_, by simp [onUserState, hown, hc, hz, hconf]⟩
      rintro ⟨zone, name, hn, hl⟩
      obtain ⟨zone', h⟩ := confirmedZone_isSome hz hn hl
      rw [h] at hconf; cases hconf
    | some zone =>
      left
      obtain ⟨name, hn, hl⟩ := confirmedZone_some hz hconf
      refine ⟨zone, name, hn, hl, ?_⟩
      by_cases hcur : s.currentZone = some zone <;> simp [onUserState, hown, hc, hz, hconf, hcur]

/-- an event that is no word of the server on the session's channel leaves the believed zone and that word alone -/
theorem step_currentZone_of_no_placement {client : MumbleVoipClient} {r : VoipRun} {e : VoipEvent}
    (h : VoipEntry.placement ⟨r.session, e, (r.handle client e).2⟩ = none) :
    (r.step client e).session.currentZone = r.session.currentZone ∧
    (r.step client e).lastPlacement = r.lastPlacement := by
  refine ⟨?_, by simp [VoipRun.lastPlacement, h]⟩
  rw [VoipRun.step_session]
  rcases r.handle_cases client e with
    ⟨_, _, _, hs, rfl | ⟨us, rfl⟩, -⟩ | ⟨sync, rfl⟩ | ⟨m, rfl⟩ | ⟨m, name, cid, rfl, hn, hc⟩
  · rw [hs]
  · simp only [VoipEntry.placement] at h
    split_ifs at h with hown
    · simp only [Option.map_eq_none_iff] at h
      simp [VoipRun.handle, onControlMsg, onUserState, hown, h]
    · simp [VoipRun.handle, onControlMsg, onUserState, hown]
  · obtain ⟨b, hb⟩ := onServerSync_fields r.session sync client
    simp [VoipRun.handle, onControlMsg, hb]
  · rfl
  · simp [VoipRun.handle, onControlMsg]

/-- the event is a word of the server on the session's channel -/
theorem placement_some {e : VoipEntry} {p : UInt32 × HashMap String UInt32} (h : e.placement = some p) :
    ∃ us, e.event = .control (.userState us) ∧ e.before.mySession = some us.getSession ∧ us.channelId = some p.1 ∧
      p.2 = e.before.channels := by
  unfold VoipEntry.placement at h
  split at h
  · rename_i us hev
    split_ifs at h with hown
    · obtain ⟨cid, hc, rfl⟩ := Option.map_eq_some_iff.1 h
      exact ⟨us, hev, hown, hc, rfl⟩
  · cases h

theorem zoneConfirmed_step {client : MumbleVoipClient} {r : VoipRun} {e : VoipEvent} (hP : ZoneConfirmed client r) :
    ZoneConfirmed client (r.step client e) ↔ StaysInZones client r e := by
  cases hpl : VoipEntry.placement ⟨r.session, e, (r.handle client e).2⟩ with
  | none =>
    obtain ⟨hz, hl⟩ := step_currentZone_of_no_placement hpl
    refine ⟨?_, ?_⟩
    · rintro - us cid rfl hown hc -
      simp [VoipEntry.placement, hown, hc] at hpl
    · rintro - zone hzone
      rw [hz] at hzone
      rw [hl]; exact hP zone hzone
  | some p =>
    obtain ⟨us, hev, hown, hc, hch⟩ := placement_some hpl
    dsimp only at hev hown hch
    have hlast : (r.step client e).lastPlacement = some (p.1, r.session.channels) := by
      rw [← hch]; simp [VoipRun.lastPlacement, hpl]
    have hsess : (r.step client e).session = r.session.onUserState us client := by
      simp [hev, VoipRun.handle, onControlMsg]
    rcases onUserState_own client hown hc with ⟨zone, name, hn, hl, hcur⟩ | ⟨hno, hcur⟩
    · refine ⟨fun _ us' cid' he hown' hc' _ => ?_, fun _ zone' hzone' => ?_⟩
      · rw [hev] at he; cases he
        rw [hc] at hc'; cases hc'
        exact ⟨zone, name, hn, hl⟩
      · rw [hsess, hcur] at hzone'; cases hzone'
        exact ⟨p.1, _, name, hlast, hn, hl⟩
    · refine ⟨?_, ?_⟩
      · intro h us' cid' he hown' hc' hne
        rw [hev] at he; cases he
        rw [hc] at hc'; cases hc'
        obtain ⟨zone, hzone⟩ := Option.ne_none_iff_exists'.1 hne
        obtain ⟨cid, channels, name, h1, h2, h3⟩ := h zone (by rw [hsess, hcur, hzone])
        rw [hlast] at h1; cases h1
        exact ⟨zone, name, h2, h3⟩
      · intro h zone hzone
        rw [hsess, hcur] at hzone
        exact absurd (h us p.1 hev hown hc (by rw [hzone]; simp)) hno

/-- The believed zone is the server's last word. Along a run of a fresh session the zone it believes in is, in every
state, the one the last UserState for it named, if and only if no UserState moves it from a confirmed zone into a
channel that is neither zone channel. -/
theorem zone_confirmed_iff (client : MumbleVoipClient) (zone : SharedCockpitZone) (es : List VoipEvent) :
    Runs.Always (VoipRun.step client) (ZoneConfirmed client) (VoipRun.init zone) es ↔
      Runs.Meets (VoipRun.step client) (StaysInZones client) (VoipRun.init zone) es := by
  refine Runs.always_iff_meets (J := fun _ => True) (fun _ _ _ => trivial)
    (fun r e _ hP hG => (zoneConfirmed_step hP).2 hG) (fun r e _ hP hP' => (zoneConfirmed_step hP).1 hP') trivial ?_ es
  intro zone' h
  simp [VoipRun.init, Session.new] at h

/-- a Voice client whose FBO channel has id 1 and is confirmed; the server then moves it into channel 2 -/
def voiceClient : MumbleVoipClient :=
  ⟨"alice_voice", "flight_ambient", .voice, "flight_ambient_fbo",
    some ("flight_ambient_fbo", "flight_ambient_aircraft")⟩

def movedByAdmin : List VoipEvent :=
  [.control (.serverSync { session := some 7 }),
   .control (.channelState { channelId := some 1, name := some "flight_ambient_fbo", parent := some 0 }),
   .control (.channelState { channelId := some 2, name := some "lobby", parent := some 0 }),
   .control (.userState { session := some 7, channelId := some 1 }),
   .control (.userState { session := some 7, channelId := some 2 })]

/-- Moved out of its zone channel, the session still believes it is in the zone, and every later check sends nothing. -/
theorem zone_kept_after_admin_move :
    ¬ZoneConfirmed voiceClient (Runs.run (VoipRun.step voiceClient) (VoipRun.init .inFbo) movedByAdmin) := by
  intro h
  have hlast : (Runs.run (VoipRun.step voiceClient) (VoipRun.init .inFbo) movedByAdmin).lastPlacement.map
      (fun p => (p.1, p.2.lookup "flight_ambient_fbo")) = some (2, some 1) := by decide
  obtain ⟨cid, channels, name, h1, h2, h3⟩ := h .inFbo (by decide)
  have hname : name = "flight_ambient_fbo" := by
    simpa [MumbleVoipClient.zoneChannel, voiceClient] using h2.symm
  subst hname
  simp only [h1, h3, Option.map_some, Option.some.injEq, Prod.mk.injEq] at hlast
  obtain ⟨rfl, h⟩ := hlast
  exact absurd h (by decide)

/-! ## When the check asks for the zone's channel -/

/-- the packet asks the server for the channel `name`: to be moved into it, or to create it -/
def RequestFor (s : Session) (name : String) (p : ControlPacket) : Prop :=
  p = createRequest name ∨
    ∃ sess cid, s.mySession = some sess ∧ s.channels.lookup name = some cid ∧ p = moveRequest sess cid

/-- the event is a periodic check that asked for some channel to be created -/
def VoipEntry.CheckCreated (e : VoipEntry) (name : String) : Prop := e.event = .zoneCheck ∧ createRequest name ∈ e.sent

/-- the event announces the channel `name` to a session that knows its own id -/
def VoipEntry.Announces (e : VoipEntry) (name : String) : Prop :=
  ∃ cs cid, e.event = .control (.channelState cs) ∧ cs.name = some name ∧ cs.channelId = some cid ∧
    e.before.mySession ≠ none

/-- the last creation any check asked for is that of `name`, and the synced session has not seen the channel since -/
def CreationOutstanding (name : String) (log : List VoipEntry) : Prop :=
  ∃ later e earlier, log = later ++ e :: earlier ∧ e.CheckCreated name ∧
    ∀ x ∈ later, (∀ other, ¬x.CheckCreated other) ∧ ¬x.Announces name

theorem CreationOutstanding.cons {name : String} {log : List VoipEntry} (h : CreationOutstanding name log)
    {x : VoipEntry} (hx : ∀ other, ¬x.CheckCreated other) (ha : ¬x.Announces name) :
    CreationOutstanding name (x :: log) := by
  obtain ⟨later, e, earlier, rfl, he, hl⟩ := h
  refine ⟨x :: later, e, earlier, rfl, he, fun y hy => ?_⟩
  rcases List.mem_cons.1 hy with rfl | hy
  · exact ⟨hx, ha⟩
  · exact hl y hy

/-- the check for a zone channel: its move when the id is cached, its creation unless one is pending -/
theorem checkZoneChannel_eq {s : Session} {client : MumbleVoipClient} {zone : SharedCockpitZone} {name : String}
    (hn : client.zoneChannel zone = some name) (hz : s.currentZone ≠ some zone) :
    s.checkZoneChannel client zone =
      if s.pendingChannel.map Prod.fst = some name then
        (s, (s.channels.lookup name).elim [] s.sendChannelMove)
      else
        ({ s with pendingChannel := some (name, zone) },
          (s.channels.lookup name).elim [] s.sendChannelMove ++ [createRequest name]) := by
  simp only [checkZoneChannel, hn, hz, if_false]
  cases s.channels.lookup name <;> rfl

theorem createRequest_not_mem_move (s : Session) (o : Option UInt32) (name : String) :
    createRequest name ∉ o.elim [] s.sendChannelMove := by
  cases o with
  | none => simp
  | some cid =>
    simp only [Option.elim_some, sendChannelMove]
    split <;> simp [createRequest, moveRequest]

/-- a synced session that sees its pending channel announced is no longer waiting for it -/
theorem onChannelState_clears {s : Session} {cs : ChannelStateMsg} {target name : String} {cid : UInt32}
    (hs : s.mySession ≠ none) (hn : cs.name = some name) (hc : cs.channelId = some cid) (zone : SharedCockpitZone) :
    (s.onChannelState cs target).1.pendingChannel ≠ some (name, zone) := by
  obtain ⟨sess, hsess⟩ := Option.ne_none_iff_exists'.1 hs
  have hmove : ∀ t : Session, (t.movePending name cid).1.pendingChannel ≠ some (name, zone) := by
    intro t
    unfold movePending
    split
    · split_ifs with hp
      · simp
      · rename_i pn z hpend
        simp only [hpend, ne_eq, Option.some.injEq, Prod.mk.injEq, not_and]
        intro h; exact absurd h.symm hp
    · simp_all
  simp only [onChannelState, hn, hc, hsess]
  split_ifs
  · exact hmove _
  · exact hmove _

theorem onChannelState_pending (s : Session) (cs : ChannelStateMsg) (target : String) :
    (s.onChannelState cs target).1.pendingChannel = s.pendingChannel ∨
    (s.onChannelState cs target).1.pendingChannel = none := by
  have hmove : ∀ (t : Session) (n : String) (c : UInt32), t.pendingChannel = s.pendingChannel →
      (t.movePending n c).1.pendingChannel = s.pendingChannel ∨ (t.movePending n c).1.pendingChannel = none := by
    intro t n c ht
    unfold movePending
    split
    · split_ifs
      · exact Or.inr rfl
      · exact Or.inl ht
    · exact Or.inl ht
  unfold onChannelState
  split
  · dsimp only
    split_ifs
    · split
      · exact Or.inl rfl
      · exact hmove _ _ _ rfl
    · exact hmove _ _ _ rfl
  · exact Or.inl rfl

/-- outside the periodic check a pending channel only stays or goes -/
theorem step_pending {client : MumbleVoipClient} {r : VoipRun} {e : VoipEvent} (he : e ≠ .zoneCheck)
    {p : String × SharedCockpitZone} (h : (r.step client e).session.pendingChannel = some p) :
    r.session.pendingChannel = some p := by
  rw [VoipRun.step_session] at h
  rcases r.handle_cases client e with
    ⟨_, _, _, hs, -, ⟨rfl, -⟩ | rfl, -⟩ | ⟨sync, rfl⟩ | ⟨m, rfl⟩ | ⟨m, name, cid, rfl, hn, hc⟩
  · rwa [hs] at h
  · exact absurd rfl he
  · simp only [VoipRun.handle, onControlMsg] at h
    obtain ⟨b, hb⟩ := onServerSync_fields r.session sync client
    rwa [hb] at h
  · exact h
  · simp only [VoipRun.handle, onControlMsg] at h
    rcases onChannelState_pending r.session m client.targetChannel with hp | hp
    · rwa [hp] at h
    · rw [hp] at h
      cases h

/-- `pending_channel` names only a channel whose creation is outstanding -/
def PendingOutstanding (r : VoipRun) : Prop :=
  ∀ name zone, r.session.pendingChannel = some (name, zone) → CreationOutstanding name r.log

theorem pendingOutstanding_check {client : MumbleVoipClient} {r : VoipRun} (h : PendingOutstanding r) :
    PendingOutstanding (r.step client .zoneCheck) := by
  intro name zone hp
  have hna : ∀ sent, ¬VoipEntry.Announces ⟨r.session, .zoneCheck, sent⟩ name := by
    rintro sent ⟨cs, cid, he, -⟩; cases he
  simp only [VoipRun.step_session, VoipRun.step_log, VoipRun.handle] at hp ⊢
  cases hn : client.zoneChannel r.zone with
  | none =>
    have hc : r.session.checkZoneChannel client r.zone = (r.session, []) := by simp [checkZoneChannel, hn]
    rw [hc] at hp ⊢
    exact (h name zone hp).cons (fun other ho => by simp [VoipEntry.CheckCreated] at ho) (hna _)
  | some ch =>
    by_cases hz : r.session.currentZone = some r.zone
    · have hc : r.session.checkZoneChannel client r.zone = (r.session, []) := by simp [checkZoneChannel, hn, hz]
      rw [hc] at hp ⊢
      exact (h name zone hp).cons (fun other ho => by simp [VoipEntry.CheckCreated] at ho) (hna _)
    · rw [checkZoneChannel_eq hn hz] at hp ⊢
      split_ifs at hp ⊢ with hpend
      · exact (h name zone hp).cons (fun other ho => createRequest_not_mem_move _ _ _ ho.2) (hna _)
      · simp only [Option.some.injEq, Prod.mk.injEq] at hp
        obtain ⟨rfl, rfl⟩ := hp
        exact ⟨[], _, r.log, rfl, ⟨rfl, by simp⟩, by simp⟩

theorem pendingOutstanding_step (client : MumbleVoipClient) (r : VoipRun) (e : VoipEvent)
    (h : PendingOutstanding r) : PendingOutstanding (r.step client e) := by
  by_cases he : e = .zoneCheck
  · subst he; exact pendingOutstanding_check h
  · intro name zone hp
    refine (h name zone (step_pending he hp)).cons (fun other ho => he ho.1) ?_
    rintro ⟨cs, cid, hev, hn, hc, hs⟩
    dsimp only at hev hs
    subst hev
    exact onChannelState_clears hs hn hc zone hp

theorem check_sends_or_outstanding {client : MumbleVoipClient} {r : VoipRun} {name : String}
    (hinv : PendingOutstanding r) (hn : client.zoneChannel r.zone = some name) (hs : r.session.mySession ≠ none)
    (hz : r.session.currentZone ≠ some r.zone) :
    (∃ p ∈ (r.session.checkZoneChannel client r.zone).2, RequestFor r.session name p) ∨
      (r.session.channels.lookup name = none ∧ CreationOutstanding name r.log) := by
  rw [checkZoneChannel_eq hn hz]
  obtain ⟨sess, hsess⟩ := Option.ne_none_iff_exists'.1 hs
  cases hl : r.session.channels.lookup name with
  | some cid =>
    left
    refine ⟨moveRequest sess cid, ?_, Or.inr ⟨sess, cid, hsess, hl, rfl⟩⟩
    split_ifs <;> simp [sendChannelMove, hsess]
  | none =>
    by_cases hp : r.session.pendingChannel.map Prod.fst = some name
    · right
      obtain ⟨⟨n, z⟩, hpend, rfl⟩ := Option.map_eq_some_iff.1 hp
      exact ⟨rfl, hinv n z hpend⟩
    · left
      exact ⟨createRequest name, by simp [hp], Or.inl rfl⟩

/-- The check asks for the zone's channel. In every state a fresh session reaches, a check made while the session
knows its id and the cockpit's zone is not confirmed sends a request for that zone's channel, unless the creation an
earlier check asked for is still outstanding and the channel has no cached id. -/
theorem check_sends_request (client : MumbleVoipClient) (zone : SharedCockpitZone) (es : List VoipEvent)
    (name : String) (hn : client.zoneChannel (Runs.run (VoipRun.step client) (VoipRun.init zone) es).zone = some name)
    (hs : (Runs.run (VoipRun.step client) (VoipRun.init zone) es).session.mySession ≠ none)
    (hz : (Runs.run (VoipRun.step client) (VoipRun.init zone) es).session.currentZone ≠
      some (Runs.run (VoipRun.step client) (VoipRun.init zone) es).zone) :
    let r := Runs.run (VoipRun.step client) (VoipRun.init zone) es
    (∃ p ∈ (r.session.checkZoneChannel client r.zone).2, RequestFor r.session name p) ∨
      (r.session.channels.lookup name = none ∧ CreationOutstanding name r.log) := by
  refine check_sends_or_outstanding (Runs.run_inv (pendingOutstanding_step client) ?_ es) hn hs hz
  intro name zone hp
  simp [VoipRun.init, Session.new] at hp

/-- synced without the channel, so that the first check asks for its creation -/
def creationPending : List VoipEvent := [.control (.serverSync { session := some 7 }), .zoneCheck]

/-- the hypotheses hold after `creationPending`, and the second check is the silent one -/
theorem check_sends_request_pending :
    (∃ p ∈ ((Runs.run (VoipRun.step voiceClient) (VoipRun.init .inFbo) creationPending).session.checkZoneChannel
        voiceClient .inFbo).2,
      RequestFor (Runs.run (VoipRun.step voiceClient) (VoipRun.init .inFbo) creationPending).session
        "flight_ambient_fbo" p) ∨
      ((Runs.run (VoipRun.step voiceClient) (VoipRun.init .inFbo) creationPending).session.channels.lookup
          "flight_ambient_fbo" = none ∧
        CreationOutstanding "flight_ambient_fbo"
          (Runs.run (VoipRun.step voiceClient) (VoipRun.init .inFbo) creationPending).log) :=
  check_sends_request voiceClient .inFbo creationPending "flight_ambient_fbo" (by decide) (by decide) (by decide)

/-- Not every check sends something: with the creation pending, the second check sends nothing at all. -/
theorem check_silent_while_pending :
    ¬∀ (client : MumbleVoipClient) (zone : SharedCockpitZone) (es : List VoipEvent) (name : String),
      let r := Runs.run (VoipRun.step client) (VoipRun.init zone) es
      client.zoneChannel r.zone = some name → r.session.mySession ≠ none → r.session.currentZone ≠ some r.zone →
        ∃ p ∈ (r.session.checkZoneChannel client r.zone).2, RequestFor r.session name p := by
  intro h
  obtain ⟨p, hp, -⟩ := h voiceClient .inFbo creationPending "flight_ambient_fbo" (by decide) (by decide) (by decide)
  have hnil : ((Runs.run (VoipRun.step voiceClient) (VoipRun.init .inFbo) creationPending).session.checkZoneChannel
      voiceClient .inFbo).2 = [] := by decide
  rw [show (Runs.run (VoipRun.step voiceClient) (VoipRun.init .inFbo) creationPending).zone = .inFbo from rfl,
    hnil] at hp
  cases hp

end MumbledFlight

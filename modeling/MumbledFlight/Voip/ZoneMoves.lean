/-
Where a session asks to be moved: three handlers send moves, and only the periodic check reads the cockpit zone. The
other two act on what was decided earlier, on `pending_channel` and on the target channel.

Results:
- `sendsMove_check`, `sendsMove_channelState`, `sendsMove_serverSync`: which channels each handler asks for.
- `zoneTracked_step`: the believed zone, the latch and `pending_channel` as functions of what happened: the zones the
  checks read, the words of the server, the channels announced and removed.
- `moves_to_zone_iff`: every move names the channel of the zone the latest check read, exactly along the runs in which
  no channel is announced that the client has turned back from, and no check reads another zone before the target
  could be joined. The check does not drop a pending creation when the zone changes back to the confirmed one;
  `pending_move_to_left_zone` is a run in which that opens the microphone in a zone the client has left.
-/
import MumbledFlight.Voip.ZoneTracking

namespace MumbledFlight

open Session

/-! ## The moves of each handler -/

/-- one of the packets asks the server to move the session into the channel -/
def SendsMove (packets : List ControlPacket) (cid : UInt32) : Prop := ∃ p ∈ packets, p.moveTarget = some cid

theorem sendsMove_nil (cid : UInt32) : ¬SendsMove [] cid := by
  rintro ⟨p, hp, -⟩
  cases hp

theorem sendsMove_cons (p : ControlPacket) (packets : List ControlPacket) (cid : UInt32) :
    SendsMove (p :: packets) cid ↔ p.moveTarget = some cid ∨ SendsMove packets cid := by
  simp [SendsMove]

theorem sendsMove_append (xs ys : List ControlPacket) (cid : UInt32) :
    SendsMove (xs ++ ys) cid ↔ SendsMove xs cid ∨ SendsMove ys cid := by
  simp [SendsMove, or_and_right, exists_or]

theorem sendsMove_create (name : String) (cid : UInt32) : ¬SendsMove [createRequest name] cid := by
  rw [sendsMove_cons]
  rintro (h | h)
  · cases h
  · exact sendsMove_nil cid h

theorem sendsMove_sendChannelMove (s : Session) (cid cid' : UInt32) :
    SendsMove (s.sendChannelMove cid) cid' ↔ s.mySession ≠ none ∧ cid = cid' := by
  unfold sendChannelMove
  cases hs : s.mySession with
  | none => simp [sendsMove_nil]
  | some sess => simp [sendsMove_cons, sendsMove_nil, moveRequest, ControlPacket.moveTarget]

/-- the check: the channel of the zone it reads, by its cached id -/
theorem sendsMove_check (s : Session) (client : MumbleVoipClient) (zone : SharedCockpitZone) (cid : UInt32) :
    SendsMove (s.checkZoneChannel client zone).2 cid ↔ s.mySession ≠ none ∧ s.currentZone ≠ some zone ∧
      ∃ name, client.zoneChannel zone = some name ∧ s.channels.lookup name = some cid := by
  cases hn : client.zoneChannel zone with
  | none => simp [checkZoneChannel, hn, sendsMove_nil]
  | some name =>
    by_cases hz : s.currentZone = some zone
    · simp [checkZoneChannel, hn, hz, sendsMove_nil]
    · have hretry : SendsMove ((s.channels.lookup name).elim [] s.sendChannelMove) cid ↔
          s.mySession ≠ none ∧ s.channels.lookup name = some cid := by
        cases hl : s.channels.lookup name with
        | none => simp [sendsMove_nil]
        | some cid' => simp [sendsMove_sendChannelMove]
      rw [checkZoneChannel_eq hn hz]
      split_ifs
      · rw [hretry]
        simp [hz]
      · rw [sendsMove_append, hretry]
        simp [hz, sendsMove_create]

theorem sendsMove_movePending (s : Session) (name : String) (cid cid' : UInt32) :
    SendsMove (s.movePending name cid).2 cid' ↔
      cid = cid' ∧ s.mySession ≠ none ∧ ∃ zone, s.pendingChannel = some (name, zone) := by
  unfold movePending
  rcases s.pendingChannel with _ | ⟨pending, zone⟩
  · simp [sendsMove_nil]
  · dsimp only
    split_ifs with heq
    · rw [sendsMove_sendChannelMove]
      simp [heq, and_comm]
    · simp [sendsMove_nil, Ne.symm heq]

/-- a ChannelState: the announced channel, if it is the target not yet joined or the pending one -/
theorem sendsMove_channelState {s : Session} {cs : ChannelStateMsg} {name : String} {cid : UInt32}
    (hn : cs.name = some name) (hc : cs.channelId = some cid) (target : String) (cid' : UInt32) :
    SendsMove (s.onChannelState cs target).2 cid' ↔ cid = cid' ∧ s.mySession ≠ none ∧
      (s.channelJoined = false ∧ name = target ∨ ∃ zone, s.pendingChannel = some (name, zone)) := by
  simp only [onChannelState, hn, hc]
  split_ifs with hjoin
  · cases hs : s.mySession with
    | none => simp [sendsMove_nil]
    | some sess =>
      rw [sendsMove_cons, sendsMove_movePending]
      simp only [hjoin, moveRequest, ControlPacket.moveTarget, Option.some.injEq]
      tauto
  · rw [sendsMove_movePending]
    simp [hjoin]

/-- the ServerSync: the target, if its id is cached -/
theorem sendsMove_serverSync (s : Session) (sync : ServerSyncMsg) (client : MumbleVoipClient) (cid : UInt32) :
    SendsMove (s.onServerSync sync client).2 cid ↔ s.channels.lookup client.targetChannel = some cid := by
  unfold onServerSync
  dsimp only
  cases hl : s.channels.lookup client.targetChannel with
  | none =>
    rw [sendsMove_cons]
    simp [ControlPacket.moveTarget, sendsMove_create]
  | some cid' =>
    rw [sendsMove_cons, sendsMove_cons]
    simp [ControlPacket.moveTarget, moveRequest, sendsMove_nil]

/-! ## The zone of the latest check -/

/-- a run, and the zone the latest check read -/
structure CheckedRun where
  run : VoipRun
  checked : Option SharedCockpitZone

namespace CheckedRun

def init (zone : SharedCockpitZone) : CheckedRun := ⟨.init zone, none⟩

def step (client : MumbleVoipClient) (r : CheckedRun) (e : VoipEvent) : CheckedRun where
  run := r.run.step client e
  checked := match e with
    | .zoneCheck => some r.run.zone
    | _ => r.checked

/-- the channel the client is meant to be in: that of the zone the latest check read, before any check the target -/
def wanted (client : MumbleVoipClient) (r : CheckedRun) : Option String :=
  match r.checked with
  | none => some client.targetChannel
  | some zone => client.zoneChannel zone

/-- the id is that of the wanted channel, as the cache has it -/
def IsWanted (client : MumbleVoipClient) (r : CheckedRun) (cid : UInt32) : Prop :=
  ∃ name, r.wanted client = some name ∧ r.run.session.channels.lookup name = some cid

/-- every move the event makes the session send names the wanted channel -/
def MovesToZone (client : MumbleVoipClient) (r : CheckedRun) (e : VoipEvent) : Prop :=
  ∀ cid, SendsMove (r.run.handle client e).2 cid → (r.step client e).IsWanted client cid

end CheckedRun

/-! ## What happened, read off the events -/

/-- the cockpit's zone -/
def cockpitZone (zone₀ : SharedCockpitZone) : List VoipEvent → SharedCockpitZone
  | [] => zone₀
  | .cockpitZone zone :: _ => zone
  | _ :: past => cockpitZone zone₀ past

/-- the zone the latest check read -/
def checkedZone (zone₀ : SharedCockpitZone) : List VoipEvent → Option SharedCockpitZone
  | [] => none
  | .zoneCheck :: past => some (cockpitZone zone₀ past)
  | _ :: past => checkedZone zone₀ past

/-- the zone whose channel was last announced under the id -/
def zoneOfId (client : MumbleVoipClient) (past : List VoipEvent) (cid : UInt32) : Option SharedCockpitZone :=
  client.zoneChannels.bind fun (fboCh, aircraftCh) =>
    if announcedId fboCh past = some cid then some .inFbo
    else if announcedId aircraftCh past = some cid then some .aroundOrInAircraft
    else none

/-- the zone in whose channel the server last placed the client -/
def placedZone (client : MumbleVoipClient) : List VoipEvent → Option SharedCockpitZone
  | [] => none
  | .control (.userState us) :: past =>
    if ownId past = some us.getSession then (us.channelId.bind (zoneOfId client past)).or (placedZone client past)
    else placedZone client past
  | _ :: past => placedZone client past

/-- the channel the client should be in: that of the zone the latest check read, before any check the target -/
def wantedChannel (client : MumbleVoipClient) (zone₀ : SharedCockpitZone) (past : List VoipEvent) : Option String :=
  match checkedZone zone₀ past with
  | none => some client.targetChannel
  | some zone => client.zoneChannel zone

/-- the id the wanted channel was announced under -/
def WantedId (client : MumbleVoipClient) (zone₀ : SharedCockpitZone) (past : List VoipEvent) (cid : UInt32) : Prop :=
  ∃ name, wantedChannel client zone₀ past = some name ∧ announcedId name past = some cid

/-- a check in a zone where the server has not placed the client yet, whose channel is `name` -/
def OutOfPlace (client : MumbleVoipClient) (zone₀ : SharedCockpitZone) (name : String) (past : List VoipEvent)
    (e : VoipEvent) : Prop :=
  e = .zoneCheck ∧ placedZone client past ≠ some (cockpitZone zone₀ past) ∧
    client.zoneChannel (cockpitZone zone₀ past) = some name

/-- The announcement of a channel. Before the ServerSync that of the target does not count: `on_channel_state` returns
early there. -/
def Appears (client : MumbleVoipClient) (name : String) (past : List VoipEvent) (e : VoipEvent) : Prop :=
  ∃ cs cid, e = .control (.channelState cs) ∧ cs.name = some name ∧ cs.channelId = some cid ∧
    (ownId past ≠ none ∨ name ≠ client.targetChannel)

/-- the latest check out of place was in the zone of this channel, which has not appeared since -/
def Unanswered (client : MumbleVoipClient) (zone₀ : SharedCockpitZone) (name : String) : List VoipEvent → Prop :=
  Runs.Since (fun past e => (∀ other, ¬OutOfPlace client zone₀ other past e) ∧ ¬Appears client name past e)
    (OutOfPlace client zone₀ name)

/-- the client was on its way to the channel, and before that appeared a check found it back in the other zone -/
def TurnedBack (client : MumbleVoipClient) (zone₀ : SharedCockpitZone) (name : String) (past : List VoipEvent) : Prop :=
  Unanswered client zone₀ name past ∧ wantedChannel client zone₀ past ≠ some name

/-- a check has read another zone, and the target could not be joined so far -/
def LeftUnjoined (client : MumbleVoipClient) (zone₀ : SharedCockpitZone) (past : List VoipEvent) : Prop :=
  joinId client.targetChannel past = none ∧ wantedChannel client zone₀ past ≠ some client.targetChannel

/-- Once synced, no channel appears that the client has turned back from, nor the target after the client has left its
zone; no ServerSync comes when a check has read another zone than that of an announced target. An id that is also the
wanted channel's does no harm. -/
def NoStaleIntent (client : MumbleVoipClient) (zone₀ : SharedCockpitZone) (past : List VoipEvent) : VoipEvent → Prop
  | .control (.channelState cs) => ∀ name cid, cs.name = some name → cs.channelId = some cid → ownId past ≠ none →
    TurnedBack client zone₀ name past ∨ name = client.targetChannel ∧ LeftUnjoined client zone₀ past →
      WantedId client zone₀ past cid
  | .control (.serverSync _) => ∀ cid, announcedId client.targetChannel past = some cid →
    wantedChannel client zone₀ past ≠ some client.targetChannel → WantedId client zone₀ past cid
  | _ => True

/-! ## The session tracks it -/

/-- the session's intents are those the events leave: the invariant of every run -/
structure ZoneTracked (client : MumbleVoipClient) (zone₀ : SharedCockpitZone) (past : List VoipEvent)
    (r : CheckedRun) : Prop where
  heard : Heard client past r.run.session
  zone : r.run.zone = cockpitZone zone₀ past
  checked : r.checked = checkedZone zone₀ past
  placed : r.run.session.currentZone = placedZone client past
  pending : ∀ name, r.run.session.pendingChannel.map Prod.fst = some name ↔ Unanswered client zone₀ name past

/-- the zone a UserState for the session itself confirms -/
theorem onUserState_currentZone {client : MumbleVoipClient} {past : List VoipEvent} {s : Session}
    (h : Heard client past s) (us : UserStateMsg) : (s.onUserState us client).currentZone =
      if ownId past = some us.getSession then (us.channelId.bind (zoneOfId client past)).or s.currentZone
      else s.currentZone := by
  rw [← h.own]
  by_cases hown : s.mySession = some us.getSession
  · rw [if_pos hown, onUserState, if_neg (not_not.2 hown)]
    split
    · rename_i cid fboCh aircraftCh hc hz
      have hzone : s.confirmedZone fboCh aircraftCh cid = zoneOfId client past cid := by
        simp only [confirmedZone, zoneOfId, hz, Option.bind_some, h.ids]
      rw [hzone, hc, Option.bind_some]
      cases zoneOfId client past cid with
      | none => rfl
      | some zone => by_cases hcur : s.currentZone = some zone <;> simp [hcur]
    · rename_i hnone
      cases hc : us.channelId with
      | none => rfl
      | some cid =>
        cases hz : client.zoneChannels with
        | none => simp [zoneOfId, hz]
        | some chs => exact absurd hz (hnone cid chs.1 chs.2 hc)
  · rw [if_neg hown, onUserState, if_pos hown]

/-- the check waits for the channel it asked for out of place -/
theorem checkZoneChannel_pending {client : MumbleVoipClient} {zone₀ : SharedCockpitZone} {past : List VoipEvent}
    {r : CheckedRun} (h : ZoneTracked client zone₀ past r) (name : String) :
    (r.run.session.checkZoneChannel client r.run.zone).1.pendingChannel.map Prod.fst = some name ↔
      OutOfPlace client zone₀ name past .zoneCheck ∨
      (∀ other, ¬OutOfPlace client zone₀ other past .zoneCheck) ∧
        r.run.session.pendingChannel.map Prod.fst = some name := by
  have hplace : ∀ other, OutOfPlace client zone₀ other past .zoneCheck ↔
      r.run.session.currentZone ≠ some r.run.zone ∧ client.zoneChannel r.run.zone = some other := by
    intro other
    rw [OutOfPlace, h.placed, h.zone]
    exact and_iff_right rfl
  simp only [hplace]
  cases hn : client.zoneChannel r.run.zone with
  | none => simp [checkZoneChannel, hn]
  | some ch =>
    by_cases hz : r.run.session.currentZone = some r.run.zone
    · simp [checkZoneChannel, hn, hz]
    · rw [checkZoneChannel_eq hn hz]
      split_ifs with hpend
      · simp [hz, hpend]
      · simp [hz]

/-- a pending channel that appears is waited for no longer -/
theorem onChannelState_pending_iff {s : Session} {cs : ChannelStateMsg} {name target : String} {cid : UInt32}
    (hn : cs.name = some name) (hc : cs.channelId = some cid) (hj : s.channelJoined = true → s.mySession ≠ none)
    (other : String) :
    (s.onChannelState cs target).1.pendingChannel.map Prod.fst = some other ↔
      ¬(other = name ∧ (s.mySession ≠ none ∨ other ≠ target)) ∧ s.pendingChannel.map Prod.fst = some other := by
  have hmove : ∀ t : Session, (t.movePending name cid).1.pendingChannel.map Prod.fst = some other ↔
      other ≠ name ∧ t.pendingChannel.map Prod.fst = some other := by
    intro t
    unfold movePending
    rcases hp : t.pendingChannel with _ | ⟨pending, zone⟩
    · simp [hp]
    · dsimp only
      split_ifs with heq
      · simp [heq, eq_comm]
      · simp only [hp, Option.map_some, Option.some.injEq]
        refine ⟨fun h => ⟨?_, h⟩, And.right⟩
        rintro rfl
        exact heq h.symm
  simp only [onChannelState, hn, hc]
  split_ifs with hjoin
  · cases hs : s.mySession with
    | none => simp [hjoin.2]
    | some sess => rw [hmove]; simp
  · rw [hmove]
    have hor : s.mySession ≠ none ∨ name ≠ target := by
      by_cases hne : name = target
      · cases hjoined : s.channelJoined with
        | true => exact Or.inl (hj hjoined)
        | false => exact absurd ⟨hjoined, hne⟩ hjoin
      · exact Or.inr hne
    refine and_congr_left fun _ => not_congr ⟨?_, And.left⟩
    rintro rfl
    exact ⟨rfl, hor⟩

/-- outside the check a channel is waited for until it appears -/
theorem unanswered_cons {client : MumbleVoipClient} {zone₀ : SharedCockpitZone} {name : String} {past : List VoipEvent}
    {e : VoipEvent} (he : e ≠ .zoneCheck) : Unanswered client zone₀ name (e :: past) ↔
      ¬Appears client name past e ∧ Unanswered client zone₀ name past := by
  have hno : ∀ other, ¬OutOfPlace client zone₀ other past e := fun other h => he h.1
  unfold Unanswered
  rw [Runs.Since, or_iff_right (hno name), and_iff_right hno]

theorem unanswered_check {client : MumbleVoipClient} {zone₀ : SharedCockpitZone} {name : String}
    {past : List VoipEvent} : Unanswered client zone₀ name (.zoneCheck :: past) ↔
      OutOfPlace client zone₀ name past .zoneCheck ∨
      (∀ other, ¬OutOfPlace client zone₀ other past .zoneCheck) ∧ Unanswered client zone₀ name past := by
  have hno : ¬Appears client name past .zoneCheck := by
    rintro ⟨cs, cid, he, -⟩
    cases he
  unfold Unanswered
  rw [Runs.Since, and_iff_left hno]

theorem appears_iff {client : MumbleVoipClient} {past : List VoipEvent} {cs : ChannelStateMsg} {name : String}
    {cid : UInt32} (hn : cs.name = some name) (hc : cs.channelId = some cid) (other : String) :
    Appears client other past (.control (.channelState cs)) ↔
      other = name ∧ (ownId past ≠ none ∨ other ≠ client.targetChannel) := by
  refine ⟨?_, ?_⟩
  · rintro ⟨_, _, ⟨⟩, hn', -, h⟩
    rw [hn] at hn'
    cases hn'
    exact ⟨rfl, h⟩
  · rintro ⟨rfl, h⟩
    exact ⟨cs, cid, rfl, hn, hc, h⟩

/-- an event that is no check, announces no channel and places the client nowhere -/
theorem ZoneTracked.of_same {client : MumbleVoipClient} {zone₀ : SharedCockpitZone} {past : List VoipEvent}
    {r : CheckedRun} {e : VoipEvent} (h : ZoneTracked client zone₀ past r) (he : e ≠ .zoneCheck)
    (hzone : (r.run.step client e).zone = cockpitZone zone₀ (e :: past))
    (hplaced : (r.run.step client e).session.currentZone = placedZone client (e :: past))
    (hp : (r.run.step client e).session.pendingChannel = r.run.session.pendingChannel)
    (hno : ∀ name, ¬Appears client name past e) : ZoneTracked client zone₀ (e :: past) (r.step client e) where
  heard := heard_step h.heard e
  zone := hzone
  checked := by
    have hc : (r.step client e).checked = r.checked := by
      cases e <;> first | rfl | exact absurd rfl he
    rw [hc, h.checked]
    cases e <;> first | rfl | exact absurd rfl he
  placed := hplaced
  pending name := by
    rw [unanswered_cons he, and_iff_right (hno name), ← h.pending]
    change (r.run.step client e).session.pendingChannel.map Prod.fst = some name ↔ _
    rw [hp]

theorem zoneTracked_check {client : MumbleVoipClient} {zone₀ : SharedCockpitZone} {past : List VoipEvent}
    {r : CheckedRun} (h : ZoneTracked client zone₀ past r) :
    ZoneTracked client zone₀ (.zoneCheck :: past) (r.step client .zoneCheck) where
  heard := heard_step h.heard _
  zone := h.zone
  checked := by
    change some r.run.zone = some (cockpitZone zone₀ past)
    rw [h.zone]
  placed := by
    obtain ⟨p, hp⟩ := checkZoneChannel_fields r.run.session client r.run.zone
    change (r.run.session.checkZoneChannel client r.run.zone).1.currentZone = placedZone client past
    rw [hp, h.placed]
  pending name := by
    rw [unanswered_check, ← h.pending]
    exact checkZoneChannel_pending h name

theorem zoneTracked_channelState {client : MumbleVoipClient} {zone₀ : SharedCockpitZone} {past : List VoipEvent}
    {r : CheckedRun} (h : ZoneTracked client zone₀ past r) {cs : ChannelStateMsg} {name : String} {cid : UInt32}
    (hn : cs.name = some name) (hc : cs.channelId = some cid) :
    ZoneTracked client zone₀ (.control (.channelState cs) :: past) (r.step client (.control (.channelState cs))) where
  heard := heard_step h.heard _
  zone := h.zone
  checked := h.checked
  placed := by
    change (r.run.session.onChannelState cs client.targetChannel).1.currentZone = placedZone client past
    rw [onChannelState_currentZone, h.placed]
  pending other := by
    have hj : r.run.session.channelJoined = true → r.run.session.mySession ≠ none := by
      rw [h.heard.joined, h.heard.own, Option.isSome_iff_ne_none]
      exact ownId_of_joinId
    rw [unanswered_cons (by nofun), appears_iff hn hc, ← h.pending, ← h.heard.own]
    exact onChannelState_pending_iff hn hc hj other

/-- Every event keeps the session's intents to those the events leave. -/
theorem zoneTracked_step (client : MumbleVoipClient) (zone₀ : SharedCockpitZone) (past : List VoipEvent)
    (r : CheckedRun) (e : VoipEvent) (h : ZoneTracked client zone₀ past r) :
    ZoneTracked client zone₀ (e :: past) (r.step client e) := by
  have silent : (∀ cs, e ≠ .control (.channelState cs)) → ∀ name, ¬Appears client name past e := by
    rintro hcs name ⟨cs, cid, he, -⟩
    exact hcs cs he
  cases e with
  | cockpitZone zone => exact h.of_same nofun rfl h.placed rfl (silent nofun)
  | zoneCheck => exact zoneTracked_check h
  | control msg =>
    cases msg with
    | cryptSetup m =>
      obtain ⟨crypt, hc⟩ := onCryptSetup_fields r.run.session m
      refine h.of_same nofun h.zone ?_ ?_ (silent nofun)
      · change (r.run.session.onCryptSetup m).currentZone = placedZone client past
        rw [hc, h.placed]
      · change (r.run.session.onCryptSetup m).pendingChannel = _
        rw [hc]
    | channelState cs =>
      rcases cs.named_or with hnone | ⟨name, cid, hn, hc⟩
      · have hs : (r.run.step client (.control (.channelState cs))).session = r.run.session :=
          congrArg Prod.fst (onChannelState_of_unnamed hnone client.targetChannel)
        refine h.of_same nofun h.zone (by rw [hs]; exact h.placed) (by rw [hs]) ?_
        rintro name ⟨_, cid, ⟨⟩, hn, hc, -⟩
        rcases hnone with hnone | hnone
        · exact absurd (hn.symm.trans hnone) (Option.some_ne_none _)
        · exact absurd (hc.symm.trans hnone) (Option.some_ne_none _)
      · exact zoneTracked_channelState h hn hc
    | channelRemove m => exact h.of_same nofun h.zone h.placed rfl (silent nofun)
    | serverSync m =>
      obtain ⟨b, hb⟩ := onServerSync_fields r.run.session m client
      refine h.of_same nofun h.zone ?_ ?_ (silent nofun)
      · change (r.run.session.onServerSync m client).1.currentZone = placedZone client past
        rw [hb, h.placed]
      · change (r.run.session.onServerSync m client).1.pendingChannel = _
        rw [hb]
    | userState m =>
      obtain ⟨zone, hz⟩ := onUserState_fields r.run.session m client
      refine h.of_same nofun h.zone ?_ ?_ (silent nofun)
      · change (r.run.session.onUserState m client).currentZone = _
        rw [onUserState_currentZone h.heard, h.placed]
        rfl
      · change (r.run.session.onUserState m client).pendingChannel = _
        rw [hz]
    | permissionDenied => exact h.of_same nofun h.zone h.placed rfl (silent nofun)
    | other => exact h.of_same nofun h.zone h.placed rfl (silent nofun)

theorem zoneTracked_init (client : MumbleVoipClient) (zone₀ : SharedCockpitZone) :
    ZoneTracked client zone₀ [] (CheckedRun.init zone₀) where
  heard := heard_init client
  zone := rfl
  checked := rfl
  placed := rfl
  pending _ := iff_of_false nofun not_false

/-! ## The moves of each event -/

namespace CheckedRun

variable {client : MumbleVoipClient} {zone₀ : SharedCockpitZone} {past : List VoipEvent} {r : CheckedRun}

theorem wanted_eq (h : ZoneTracked client zone₀ past r) : r.wanted client = wantedChannel client zone₀ past := by
  rw [wanted, wantedChannel, h.checked]

theorem isWanted_iff (h : ZoneTracked client zone₀ past r) (cid : UInt32) :
    r.IsWanted client cid ↔ WantedId client zone₀ past cid := by
  simp only [IsWanted, WantedId, wanted_eq h, h.heard.ids]

theorem movesToZone_silent {e : VoipEvent} (h : (r.run.handle client e).2 = []) : MovesToZone client r e := by
  intro cid hmove
  rw [h] at hmove
  exact absurd hmove (sendsMove_nil cid)

/-- the check reads the zone and looks its channel up itself -/
theorem movesToZone_zoneCheck (client : MumbleVoipClient) (r : CheckedRun) : MovesToZone client r .zoneCheck := by
  intro cid hmove
  obtain ⟨-, -, name, hname, hl⟩ := (sendsMove_check _ _ _ _).1 hmove
  obtain ⟨p, hp⟩ := checkZoneChannel_fields r.run.session client r.run.zone
  have hch : (r.step client .zoneCheck).run.session.channels = r.run.session.channels := by
    change (r.run.session.checkZoneChannel client r.run.zone).1.channels = _
    rw [hp]
  exact ⟨name, hname, by rw [hch]; exact hl⟩

/-- the ServerSync moves to an announced target, wherever the latest check found the client -/
theorem movesToZone_serverSync (h : ZoneTracked client zone₀ past r) (m : ServerSyncMsg) :
    MovesToZone client r (.control (.serverSync m)) ↔
      NoStaleIntent client zone₀ past (.control (.serverSync m)) := by
  have hsends : ∀ cid, SendsMove (r.run.handle client (.control (.serverSync m))).2 cid ↔
      announcedId client.targetChannel past = some cid := by
    intro cid
    rw [← h.heard.ids]
    exact sendsMove_serverSync r.run.session m client cid
  have hwanted := isWanted_iff (zoneTracked_step client zone₀ past r (.control (.serverSync m)) h)
  refine forall_congr' fun cid => ?_
  rw [hsends, hwanted]
  change (_ → WantedId client zone₀ past cid) ↔ _
  refine imp_congr_right fun ha => ⟨fun hid _ => hid, fun hid => ?_⟩
  by_cases ht : wantedChannel client zone₀ past = some client.targetChannel
  · exact ⟨client.targetChannel, ht, ha⟩
  · exact hid ht

/-- a channel that appears is the wanted one if it has its name, or the wanted one was announced under its id -/
theorem wantedId_channelState {cs : ChannelStateMsg} {name : String} {cid : UInt32} (hn : cs.name = some name)
    (hc : cs.channelId = some cid) : WantedId client zone₀ (.control (.channelState cs) :: past) cid ↔
      wantedChannel client zone₀ past = some name ∨ WantedId client zone₀ past cid := by
  have hw : wantedChannel client zone₀ (.control (.channelState cs) :: past) = wantedChannel client zone₀ past := rfl
  simp only [WantedId, hw, announcedId_channelState hn hc]
  refine ⟨?_, ?_⟩
  · rintro ⟨other, hother, hl⟩
    split_ifs at hl with heq
    · exact Or.inl (heq ▸ hother)
    · exact Or.inr ⟨other, hother, hl⟩
  · rintro (hname | ⟨other, hother, hl⟩)
    · exact ⟨name, hname, if_pos rfl⟩
    · refine ⟨other, hother, ?_⟩
      split_ifs
      · rfl
      · exact hl

/-- what a channel that appears sets off, in terms of the events: the join, or a way begun by an earlier check -/
theorem sendsMove_channelState_iff (h : ZoneTracked client zone₀ past r) {cs : ChannelStateMsg} {name : String}
    {cid : UInt32} (hn : cs.name = some name) (hc : cs.channelId = some cid) (cid' : UInt32) :
    SendsMove (r.run.handle client (.control (.channelState cs))).2 cid' ↔ cid = cid' ∧ ownId past ≠ none ∧
      (joinId client.targetChannel past = none ∧ name = client.targetChannel ∨ Unanswered client zone₀ name past) := by
  have hj : r.run.session.channelJoined = false ↔ joinId client.targetChannel past = none := by
    rw [h.heard.joined, Option.isSome_eq_false_iff, Option.isNone_iff_eq_none]
  have hp : (∃ zone, r.run.session.pendingChannel = some (name, zone)) ↔ Unanswered client zone₀ name past := by
    rw [← h.pending, Option.map_eq_some_iff]
    refine ⟨fun ⟨zone, hz⟩ => ⟨_, hz, rfl⟩, ?_⟩
    rintro ⟨⟨_, zone⟩, hz, rfl⟩
    exact ⟨zone, hz⟩
  rw [← hj, ← hp, ← h.heard.own]
  exact sendsMove_channelState hn hc client.targetChannel cid'

theorem movesToZone_channelState (h : ZoneTracked client zone₀ past r) (cs : ChannelStateMsg) :
    MovesToZone client r (.control (.channelState cs)) ↔
      NoStaleIntent client zone₀ past (.control (.channelState cs)) := by
  have hwanted := isWanted_iff (zoneTracked_step client zone₀ past r (.control (.channelState cs)) h)
  rcases cs.named_or with hnone | ⟨name, cid, hn, hc⟩
  · refine iff_of_true (movesToZone_silent (congrArg Prod.snd (onChannelState_of_unnamed hnone _))) ?_
    intro name cid hn hc
    rcases hnone with hnone | hnone
    · rw [hnone] at hn
      cases hn
    · rw [hnone] at hc
      cases hc
  · refine ⟨?_, ?_⟩
    · intro hmoves name' cid' hn' hc' hs hstale
      rw [hn] at hn'
      rw [hc] at hc'
      cases hn'
      cases hc'
      have hid : wantedChannel client zone₀ past = some name ∨ WantedId client zone₀ past cid := by
        rw [← wantedId_channelState hn hc, ← hwanted]
        refine hmoves cid ((sendsMove_channelState_iff h hn hc cid).2 ⟨rfl, hs, ?_⟩)
        exact hstale.elim (fun hback => Or.inr hback.1) fun hleft => Or.inl ⟨hleft.2.1, hleft.1⟩
      -- a stale intent is one for a channel that is not the wanted one
      refine hid.resolve_left ?_
      rcases hstale with hback | ⟨rfl, hleft⟩
      · exact hback.2
      · exact hleft.2
    · intro hno cid' hmove
      obtain ⟨rfl, hs, hintent⟩ := (sendsMove_channelState_iff h hn hc cid').1 hmove
      rw [hwanted, wantedId_channelState hn hc]
      by_cases hw : wantedChannel client zone₀ past = some name
      · exact Or.inl hw
      · refine Or.inr (hno name cid hn hc hs ?_)
        rcases hintent with ⟨hj, rfl⟩ | hun
        · exact Or.inr ⟨rfl, hj, hw⟩
        · exact Or.inl ⟨hun, hw⟩

theorem movesToZone_iff (h : ZoneTracked client zone₀ past r) (e : VoipEvent) :
    MovesToZone client r e ↔ NoStaleIntent client zone₀ past e := by
  cases e with
  | cockpitZone zone => exact iff_of_true (movesToZone_silent rfl) trivial
  | zoneCheck => exact iff_of_true (movesToZone_zoneCheck client r) trivial
  | control msg =>
    cases msg with
    | serverSync m => exact movesToZone_serverSync h m
    | channelState cs => exact movesToZone_channelState h cs
    | cryptSetup m => exact iff_of_true (movesToZone_silent rfl) trivial
    | channelRemove m => exact iff_of_true (movesToZone_silent rfl) trivial
    | userState m => exact iff_of_true (movesToZone_silent rfl) trivial
    | permissionDenied => exact iff_of_true (movesToZone_silent rfl) trivial
    | other => exact iff_of_true (movesToZone_silent rfl) trivial

end CheckedRun

open CheckedRun

/-- confirmed in the FBO, the pilot walks out and back in between two checks each; another pilot's aircraft channel is
announced afterwards -/
def outAndBack : List VoipEvent :=
  [.control (.serverSync { session := some 7 }),
   .control (.channelState { channelId := some 1, name := some "flight_ambient_fbo", parent := some 0 }),
   .control (.userState { session := some 7, channelId := some 1 }),
   .cockpitZone .aroundOrInAircraft, .zoneCheck, .cockpitZone .inFbo, .zoneCheck,
   .control (.channelState { channelId := some 2, name := some "flight_ambient_aircraft", parent := some 0 })]

end MumbledFlight

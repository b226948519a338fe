/-
Joining the target channel, for the clients that never switch zones (IC, PA, Radio).

The session joins the first time it knows both its own id and the channel's, from `on_channel_state` or from
`on_server_sync`, and latches `channel_joined` when it sends the request.

Results:
- `joinsOnce_step`: the last move names the id the target had when it could first be joined, whatever came since.
- `joined_target_iff`: after the ServerSync the last move names the id the target channel has in the cache, exactly
  along the runs whose messages never announce the target under another id once it could be joined. A channel that
  vanishes and comes back under a new id is not joined again.
-/
import MumbledFlight.Voip.History

namespace MumbledFlight

open Session

/-- once synced, the last move the session asked for names the cached id of the target channel -/
def JoinedTarget (client : MumbleVoipClient) (r : VoipRun) : Prop :=
  r.session.mySession ≠ none → ∀ cid, r.session.channels.lookup client.targetChannel = some cid →
    r.lastMove = some cid

/-- the event does not announce the target under an id other than the one it could be joined under -/
def KeepsTargetId (client : MumbleVoipClient) (past : List VoipEvent) (e : VoipEvent) : Prop :=
  ∀ cs cid id, e = .control (.channelState cs) → cs.name = some client.targetChannel → cs.channelId = some cid →
    joinId client.targetChannel past = some id → cid = id

/-! ## What the messages alone say -/

/-- once the own id is known, the target can be joined under the id it has -/
def TargetSettled (target : String) (past : List VoipEvent) : Prop :=
  ownId past ≠ none → ∀ cid, announcedId target past = some cid → joinId target past = some cid

theorem targetSettled_serverSync (target : String) (past : List VoipEvent) (m : ServerSyncMsg) :
    TargetSettled target (.control (.serverSync m) :: past) := by
  intro _ cid ha
  change announcedId target past = some cid at ha
  rw [joinId, ha, Option.some_or]

/-- an event that leaves the target at most the id it had -/
theorem TargetSettled.of_known {target : String} {past : List VoipEvent} (h : TargetSettled target past) {e : VoipEvent}
    (he : ∀ m, e ≠ .control (.serverSync m)) (hj : joinId target (e :: past) = joinId target past)
    (ha : ∀ cid, announcedId target (e :: past) = some cid → announcedId target past = some cid) :
    TargetSettled target (e :: past) := by
  intro ho cid hcid
  rw [ownId_cons he] at ho
  rw [hj]
  exact h ho cid (ha cid hcid)

/-- the target announced once more -/
theorem targetSettled_target {target : String} {past : List VoipEvent} {cs : ChannelStateMsg} {cid : UInt32}
    (hn : cs.name = some target) (hc : cs.channelId = some cid) :
    TargetSettled target (.control (.channelState cs) :: past) ↔ ∀ id, joinId target past = some id → cid = id := by
  have ha := announcedId_channelState hn hc target past
  rw [if_pos rfl] at ha
  unfold TargetSettled
  rw [ha, joinId_channelState hn hc, ownId_cons (by simp)]
  cases hj : joinId target past with
  | none => simp +contextual
  | some id =>
    have ho : ownId past ≠ none := ownId_of_joinId (by rw [hj]; exact Option.some_ne_none id)
    simp [ho, eq_comm]

theorem targetSettled_step {client : MumbleVoipClient} {past : List VoipEvent}
    (h : TargetSettled client.targetChannel past) (e : VoipEvent) :
    TargetSettled client.targetChannel (e :: past) ↔ KeepsTargetId client past e := by
  by_cases htarget : ∃ cs cid, e = .control (.channelState cs) ∧ cs.name = some client.targetChannel ∧
      cs.channelId = some cid
  · obtain ⟨cs, cid, rfl, hn, hc⟩ := htarget
    rw [targetSettled_target hn hc]
    refine ⟨?_, ?_⟩
    · rintro h _ cid' id ⟨⟩ _ hc' hj
      rw [hc] at hc'
      cases hc'
      exact h id hj
    · exact fun h id hj => h cs cid id rfl hn hc hj
  · refine iff_of_true ?_ fun cs cid id he hn hc _ => absurd ⟨cs, cid, he, hn, hc⟩ htarget
    rcases e.tellsNothing_or with hnothing | ⟨m, rfl⟩ | ⟨m, rfl⟩ | ⟨cs, name, cid, rfl, hn, hc⟩
    · refine h.of_known hnothing.sync (joinId_of_tellsNothing hnothing _ past) fun cid hcid => ?_
      rwa [announcedId_of_tellsNothing hnothing] at hcid
    · exact targetSettled_serverSync _ past m
    · refine h.of_known (by simp) (joinId_channelRemove _ m past) fun cid hcid => ?_
      rw [announcedId, Option.filter_eq_some_iff] at hcid
      exact hcid.1
    · have hne : client.targetChannel ≠ name := fun hname => htarget ⟨cs, cid, rfl, hname ▸ hn, hc⟩
      have ha := announcedId_channelState hn hc client.targetChannel past
      rw [if_neg hne] at ha
      refine h.of_known (by simp) ?_ fun cid hcid => ha ▸ hcid
      rw [joinId_channelState hn hc, if_neg fun hboth => hne hboth.1.symm, Option.or_none]

/-! ## What the session does with them -/

theorem checkZoneChannel_noZones {client : MumbleVoipClient} (hz : client.zoneChannels = none) (s : Session)
    (zone : SharedCockpitZone) : s.checkZoneChannel client zone = (s, []) := by
  simp [checkZoneChannel, MumbleVoipClient.zoneChannel, hz]

/-- the three ways a session without a pending channel takes a named ChannelState -/
theorem onChannelState_noPending {s : Session} {cs : ChannelStateMsg} {name : String} {cid : UInt32}
    (target : String) (hp : s.pendingChannel = none) (hn : cs.name = some name) (hc : cs.channelId = some cid) :
    s.onChannelState cs target =
      if s.channelJoined = false ∧ name = target then
        match s.mySession with
        | none => ({ s with channels := s.channels.insert name cid }, [])
        | some sess =>
          ({ s with channels := s.channels.insert name cid, channelJoined := true }, [moveRequest sess cid])
      else ({ s with channels := s.channels.insert name cid }, []) := by
  simp only [onChannelState, hn, hc]
  split_ifs
  · cases s.mySession <;> simp [movePending, hp]
  · simp [movePending, hp]

/-- What holds of every client without zone channels: it waits for no creation, and the last move it asked for names
the id its target had when it could first be joined. -/
structure JoinsOnce (client : MumbleVoipClient) (past : List VoipEvent) (r : VoipRun) : Prop where
  heard : Heard client past r.session
  pending : r.session.pendingChannel = none
  moved : r.lastMove = joinId client.targetChannel past

/-- an event that sends no move and leaves the join as it was -/
theorem JoinsOnce.of_silent {client : MumbleVoipClient} {past : List VoipEvent} {r : VoipRun} {e : VoipEvent}
    (h : JoinsOnce client past r) (hp : (r.handle client e).1.pendingChannel = r.session.pendingChannel)
    (hm : lastMoveIn (r.handle client e).2 = none)
    (hj : joinId client.targetChannel (e :: past) = joinId client.targetChannel past) :
    JoinsOnce client (e :: past) (r.step client e) where
  heard := heard_step h.heard e
  pending := by rw [VoipRun.step_session, hp, h.pending]
  moved := by rw [VoipRun.lastMove_step_of_none hm, h.moved, hj]

theorem lastMoveIn_join (us : UserStateMsg) (h : us.channelId = none) (sess cid : UInt32) :
    lastMoveIn [.userState us, moveRequest sess cid] = some cid := by
  simp [lastMoveIn, ControlPacket.moveTarget, h, moveRequest]

/-- the ServerSync joins a target that is announced, under the id it has -/
theorem joinsOnce_serverSync {client : MumbleVoipClient} {past : List VoipEvent} {r : VoipRun}
    (h : JoinsOnce client past r) (m : ServerSyncMsg) :
    JoinsOnce client (.control (.serverSync m) :: past) (r.step client (.control (.serverSync m))) where
  heard := heard_step h.heard _
  pending := by
    obtain ⟨b, hb⟩ := onServerSync_fields r.session m client
    simp only [VoipRun.step_session, VoipRun.handle, onControlMsg, hb, h.pending]
  moved := by
    have hl := h.heard.ids client.targetChannel
    rw [joinId, ← hl]
    cases hcid : r.session.channels.lookup client.targetChannel with
    | none =>
      rw [Option.none_or, ← h.moved]
      apply VoipRun.lastMove_step_of_none
      simp [VoipRun.handle, onControlMsg, onServerSync, hcid, lastMoveIn, ControlPacket.moveTarget, createRequest]
    | some cid =>
      apply VoipRun.lastMove_step_of_some
      simp only [VoipRun.handle, onControlMsg, onServerSync, hcid]
      exact lastMoveIn_join _ rfl _ _

theorem joinsOnce_channelState {client : MumbleVoipClient} {past : List VoipEvent} {r : VoipRun}
    (h : JoinsOnce client past r) {cs : ChannelStateMsg} {name : String} {cid : UInt32} (hn : cs.name = some name)
    (hc : cs.channelId = some cid) :
    JoinsOnce client (.control (.channelState cs) :: past) (r.step client (.control (.channelState cs))) := by
  have hh : r.handle client (.control (.channelState cs)) = _ :=
    onChannelState_noPending client.targetChannel h.pending hn hc
  have hjoin := joinId_channelState hn hc client.targetChannel past
  have hj := h.heard.joined
  by_cases hfirst : r.session.channelJoined = false ∧ name = client.targetChannel
  · rw [if_pos hfirst] at hh
    have hnone : joinId client.targetChannel past = none := by
      rwa [hfirst.1, eq_comm, Option.isSome_eq_false_iff, Option.isNone_iff_eq_none] at hj
    rw [hnone, Option.none_or, ← h.heard.own] at hjoin
    cases hs : r.session.mySession with
    | none =>
      -- not synced yet: `on_channel_state` returns early
      rw [hs] at hh hjoin
      refine h.of_silent ?_ ?_ ?_
      · rw [hh]
      · rw [hh, lastMoveIn_nil]
      · rw [hjoin, hnone, if_neg fun hboth => hboth.2 rfl]
    | some sess =>
      rw [hs] at hh hjoin
      refine ⟨heard_step h.heard _, ?_, ?_⟩
      · rw [VoipRun.step_session, hh]
        exact h.pending
      · rw [hjoin, if_pos ⟨hfirst.2, Option.some_ne_none sess⟩]
        apply VoipRun.lastMove_step_of_some
        rw [hh]
        simp [lastMoveIn, ControlPacket.moveTarget, moveRequest]
  · rw [if_neg hfirst] at hh
    refine h.of_silent ?_ ?_ ?_
    · rw [hh]
    · rw [hh, lastMoveIn_nil]
    · rw [hjoin]
      cases hid : joinId client.targetChannel past with
      | some id => rfl
      | none =>
        rw [hid] at hj
        rw [Option.none_or, if_neg fun hboth => hfirst ⟨hj, hboth.1⟩]

theorem joinsOnce_step {client : MumbleVoipClient} (hz : client.zoneChannels = none) (past : List VoipEvent)
    (r : VoipRun) (e : VoipEvent) (h : JoinsOnce client past r) : JoinsOnce client (e :: past) (r.step client e) := by
  rcases r.handle_cases client e with
    ⟨_, _, _, hs, -, ⟨rfl, hsent⟩ | rfl, hnothing⟩ | ⟨m, rfl⟩ | ⟨m, rfl⟩ | ⟨cs, name, cid, rfl, hn, hc⟩
  · refine h.of_silent ?_ ?_ (joinId_of_tellsNothing hnothing _ past)
    · rw [hs]
    · rw [hsent, lastMoveIn_nil]
  · -- without zone channels the periodic check does nothing
    have hcheck := checkZoneChannel_noZones hz r.session r.zone
    refine h.of_silent ?_ ?_ (joinId_of_tellsNothing hnothing _ past) <;> rw [VoipRun.handle, hcheck]
    exact lastMoveIn_nil
  · exact joinsOnce_serverSync h m
  · exact h.of_silent rfl rfl (joinId_channelRemove _ m past)
  · exact joinsOnce_channelState h hn hc

/-- the property of the state, in terms of the messages -/
theorem joinedTarget_iff {client : MumbleVoipClient} {past : List VoipEvent} {r : VoipRun}
    (h : JoinsOnce client past r) : JoinedTarget client r ↔ TargetSettled client.targetChannel past := by
  simp only [JoinedTarget, TargetSettled, h.heard.own, h.heard.ids, h.moved]

/-- the intercom client of a flight -/
def icClient : MumbleVoipClient := ⟨"alice_ic", "flight_ic", .ic, "flight_ic", none⟩

/-- the channel's last user leaves between the client's ServerSync and its join; another client creates it again -/
def vanishedChannel : List VoipEvent :=
  [.control (.channelState { channelId := some 1, name := some "flight_ic", parent := some 0 }),
   .control (.serverSync { session := some 7 }),
   .control (.channelRemove ⟨1⟩),
   .control (.channelState { channelId := some 2, name := some "flight_ic", parent := some 0 })]

/-- the join is honoured; afterwards the server repeats the channel's state, and removes another one -/
def joinedOnce : List VoipEvent :=
  [.control (.channelState { channelId := some 1, name := some "flight_ic", parent := some 0 }),
   .control (.serverSync { session := some 7 }),
   .control (.userState { session := some 7, channelId := some 1 }),
   .control (.channelState { channelId := some 1, name := some "flight_ic", parent := some 0 }),
   .control (.channelRemove ⟨2⟩)]

/-- the target of `joinedOnce` is only ever announced under the id 1 -/
theorem joinedOnce_keepsTargetId : Runs.MeetsPast (KeepsTargetId icClient) joinedOnce := by
  refine ⟨?_, nofun, nofun, ?_, nofun, trivial⟩
  · rintro cs cid id ⟨⟩ - - h
    cases h
  · rintro cs cid id ⟨⟩ - hc h
    exact Option.some.inj (hc.symm.trans h)

end MumbledFlight

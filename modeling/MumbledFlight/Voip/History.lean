/-
A session over time: the events that reach it, the cockpit zone it reads, and the record of everything it has handled.

`VoipRun.step` handles one event and logs it, latest first, with the session as it was before and the packets it
sent. "The last word of the server" and "the last move the session asked for" are read off that log.

What the server has told the client is a function of the events alone, latest first: its session id (`ownId`), the ids
of the channels (`announcedId`) and the id under which its target could first be joined (`joinId`).

Results:
- `VoipRun.handle_cases`: what an event can do to the session.
- `heard_step`: the session knows exactly what it was told, and has latched `channel_joined` exactly when its target
  could once be joined.
-/
import MumbledFlight.Lib.Runs
import MumbledFlight.Voip.Session

namespace MumbledFlight

/-- what `MumbleVoipClient::run` hands to its session; audio packets and pings touch none of the state below -/
inductive VoipEvent where
  | control (msg : ControlPacket)
  | cockpitZone (zone : SharedCockpitZone)
  | zoneCheck
deriving DecidableEq

/-- one handled event -/
structure VoipEntry where
  before : Session
  event : VoipEvent
  sent : List ControlPacket

structure VoipRun where
  session : Session
  zone : SharedCockpitZone
  log : List VoipEntry

namespace VoipRun

def init (zone : SharedCockpitZone) : VoipRun := ⟨.new, zone, []⟩

def handle (client : MumbleVoipClient) (r : VoipRun) : VoipEvent → Session × List ControlPacket
  | .control msg => r.session.onControlMsg msg client
  | .cockpitZone _ => (r.session, [])
  | .zoneCheck => r.session.checkZoneChannel client r.zone

def step (client : MumbleVoipClient) (r : VoipRun) (e : VoipEvent) : VoipRun where
  session := (r.handle client e).1
  zone := match e with
    | .cockpitZone zone => zone
    | _ => r.zone
  log := ⟨r.session, e, (r.handle client e).2⟩ :: r.log

end VoipRun

/-- the channel a packet asks the server to move the session into -/
def ControlPacket.moveTarget : ControlPacket → Option UInt32
  | .userState m => m.channelId
  | _ => none

/-- the last channel move among packets in the order they were sent -/
def lastMoveIn (packets : List ControlPacket) : Option UInt32 := (packets.filterMap ControlPacket.moveTarget).getLast?

/-- the last channel move the session asked for -/
def VoipRun.lastMove (r : VoipRun) : Option UInt32 := r.log.findSome? fun e => lastMoveIn e.sent

/-- a UserState for the session's own id that carries a channel, with the channel cache it was read against -/
def VoipEntry.placement (e : VoipEntry) : Option (UInt32 × HashMap String UInt32) :=
  match e.event with
  | .control (.userState us) =>
    if e.before.mySession = some us.getSession then us.channelId.map fun cid => (cid, e.before.channels) else none
  | _ => none

/-- the server's last word on the session's own channel -/
def VoipRun.lastPlacement (r : VoipRun) : Option (UInt32 × HashMap String UInt32) :=
  r.log.findSome? VoipEntry.placement

@[simp] theorem lastMoveIn_nil : lastMoveIn [] = none := rfl

@[simp] theorem VoipRun.step_log (client : MumbleVoipClient) (r : VoipRun) (e : VoipEvent) :
    (r.step client e).log = ⟨r.session, e, (r.handle client e).2⟩ :: r.log := rfl

@[simp] theorem VoipRun.step_session (client : MumbleVoipClient) (r : VoipRun) (e : VoipEvent) :
    (r.step client e).session = (r.handle client e).1 := rfl

/-- the event is no ServerSync, removes no channel and announces none -/
structure VoipEvent.TellsNothing (e : VoipEvent) : Prop where
  sync : ∀ m, e ≠ .control (.serverSync m)
  remove : ∀ m, e ≠ .control (.channelRemove m)
  announce : ∀ m, e = .control (.channelState m) → m.name = none ∨ m.channelId = none

theorem VoipEvent.tellsNothing_or (e : VoipEvent) : e.TellsNothing ∨ (∃ m, e = .control (.serverSync m)) ∨
    (∃ m, e = .control (.channelRemove m)) ∨
    ∃ m name cid, e = .control (.channelState m) ∧ m.name = some name ∧ m.channelId = some cid := by
  cases e with
  | cockpitZone zone => exact Or.inl ⟨nofun, nofun, nofun⟩
  | zoneCheck => exact Or.inl ⟨nofun, nofun, nofun⟩
  | control msg =>
    cases msg with
    | serverSync m => exact Or.inr (Or.inl ⟨m, rfl⟩)
    | channelRemove m => exact Or.inr (Or.inr (Or.inl ⟨m, rfl⟩))
    | channelState m =>
      rcases m.named_or with hunnamed | ⟨name, cid, hn, hc⟩
      · refine Or.inl ⟨nofun, nofun, ?_⟩
        rintro _ ⟨⟩
        exact hunnamed
      · exact Or.inr (Or.inr (Or.inr ⟨m, name, cid, rfl, hn, hc⟩))
    | _ => exact Or.inl ⟨nofun, nofun, nofun⟩

/-- What handling an event can do. The sync, the removal of a channel and the announcement of one are left to their own
handlers. Anything else leaves the own id, the channel cache and the latch; the believed zone changes by a UserState
only, and packets are sent, and a channel waited for, in the periodic check only. -/
theorem VoipRun.handle_cases (client : MumbleVoipClient) (r : VoipRun) (e : VoipEvent) :
    (∃ crypt zone pending, (r.handle client e).1 =
        { r.session with crypt := crypt, currentZone := zone, pendingChannel := pending } ∧
      (zone = r.session.currentZone ∨ ∃ m, e = .control (.userState m)) ∧
      (pending = r.session.pendingChannel ∧ (r.handle client e).2 = [] ∨ e = .zoneCheck) ∧ e.TellsNothing) ∨
    (∃ m, e = .control (.serverSync m)) ∨ (∃ m, e = .control (.channelRemove m)) ∨
    ∃ m name cid, e = .control (.channelState m) ∧ m.name = some name ∧ m.channelId = some cid := by
  refine e.tellsNothing_or.imp_left fun hnothing => ?_
  cases e with
  | cockpitZone zone => exact ⟨_, _, _, rfl, Or.inl rfl, Or.inl ⟨rfl, rfl⟩, hnothing⟩
  | zoneCheck =>
    obtain ⟨pending, h⟩ := Session.checkZoneChannel_fields r.session client r.zone
    exact ⟨_, _, _, h, Or.inl rfl, Or.inr rfl, hnothing⟩
  | control msg =>
    cases msg with
    | cryptSetup m =>
      obtain ⟨crypt, h⟩ := Session.onCryptSetup_fields r.session m
      exact ⟨_, _, _, h, Or.inl rfl, Or.inl ⟨rfl, rfl⟩, hnothing⟩
    | channelState m =>
      have h := Session.onChannelState_of_unnamed (s := r.session) (hnothing.announce m rfl) client.targetChannel
      exact ⟨_, _, _, congrArg Prod.fst h, Or.inl rfl, Or.inl ⟨rfl, congrArg Prod.snd h⟩, hnothing⟩
    | channelRemove m => exact absurd rfl (hnothing.remove m)
    | serverSync m => exact absurd rfl (hnothing.sync m)
    | userState m =>
      obtain ⟨zone, h⟩ := Session.onUserState_fields r.session m client
      exact ⟨_, _, _, h, Or.inr ⟨m, rfl⟩, Or.inl ⟨rfl, rfl⟩, hnothing⟩
    | permissionDenied => exact ⟨_, _, _, rfl, Or.inl rfl, Or.inl ⟨rfl, rfl⟩, hnothing⟩
    | other => exact ⟨_, _, _, rfl, Or.inl rfl, Or.inl ⟨rfl, rfl⟩, hnothing⟩

/-- a step that sends no move leaves the last move as it was -/
theorem VoipRun.lastMove_step_of_none {client : MumbleVoipClient} {r : VoipRun} {e : VoipEvent}
    (h : lastMoveIn (r.handle client e).2 = none) : (r.step client e).lastMove = r.lastMove := by
  simp [lastMove, h]

theorem VoipRun.lastMove_step_of_some {client : MumbleVoipClient} {r : VoipRun} {e : VoipEvent} {cid : UInt32}
    (h : lastMoveIn (r.handle client e).2 = some cid) : (r.step client e).lastMove = some cid := by
  simp [lastMove, h]

/-! ## What the client was told -/

/-- the session id the latest ServerSync gave -/
def ownId : List VoipEvent → Option UInt32
  | [] => none
  | .control (.serverSync sync) :: _ => some sync.getSession
  | _ :: past => ownId past

/-- the id the channel was last announced under, unless the channel of that id was removed since -/
def announcedId (name : String) : List VoipEvent → Option UInt32
  | [] => none
  | .control (.channelState cs) :: past =>
    if cs.name = some name then cs.channelId.or (announcedId name past) else announcedId name past
  | .control (.channelRemove cr) :: past => (announcedId name past).filter (· ≠ cr.channelId)
  | _ :: past => announcedId name past

/-- The id the target had when it could first be joined: announced, with the own id known. A further ServerSync that
finds it announced counts anew. -/
def joinId (target : String) : List VoipEvent → Option UInt32
  | [] => none
  | .control (.serverSync _) :: past => (announcedId target past).or (joinId target past)
  | e :: past => (joinId target past).or (if ownId past = none then none else announcedId target (e :: past))

theorem ownId_cons {e : VoipEvent} (he : ∀ m, e ≠ .control (.serverSync m)) (past : List VoipEvent) :
    ownId (e :: past) = ownId past := by
  cases e with
  | control msg => cases msg <;> first | rfl | exact absurd rfl (he _)
  | _ => rfl

theorem joinId_cons {e : VoipEvent} (he : ∀ m, e ≠ .control (.serverSync m)) (target : String) (past : List VoipEvent) :
    joinId target (e :: past) =
      (joinId target past).or (if ownId past = none then none else announcedId target (e :: past)) := by
  cases e with
  | control msg => cases msg <;> first | rfl | exact absurd rfl (he _)
  | _ => rfl

/-- a channel that is announced once the own id is known can be joined -/
theorem joinId_ne_none {target : String} {past : List VoipEvent} (ho : ownId past ≠ none)
    (ha : announcedId target past ≠ none) : joinId target past ≠ none := by
  cases past with
  | nil => exact absurd rfl ha
  | cons e past =>
    by_cases he : ∃ m, e = .control (.serverSync m)
    · obtain ⟨m, rfl⟩ := he
      intro hj
      rw [joinId, Option.or_eq_none_iff] at hj
      exact ha hj.1
    · rw [not_exists] at he
      rw [ownId_cons he] at ho
      rw [joinId_cons he, if_neg ho, ne_eq, Option.or_eq_none_iff]
      exact fun hj => ha hj.2

/-- an event after which the target has no id it did not have before leaves the join as it was -/
theorem joinId_cons_of_known {e : VoipEvent} (he : ∀ m, e ≠ .control (.serverSync m)) {target : String}
    {past : List VoipEvent} (ha : announcedId target (e :: past) ≠ none → announcedId target past ≠ none) :
    joinId target (e :: past) = joinId target past := by
  rw [joinId_cons he]
  cases hj : joinId target past with
  | some id => rfl
  | none =>
    split_ifs with ho
    · rfl
    · by_contra hsome
      exact joinId_ne_none ho (ha hsome) hj

/-- only a client that knows its id can join -/
theorem ownId_of_joinId {target : String} {past : List VoipEvent} (hj : joinId target past ≠ none) :
    ownId past ≠ none := by
  induction past with
  | nil => exact absurd rfl hj
  | cons e past ih =>
    by_cases he : ∃ m, e = .control (.serverSync m)
    · obtain ⟨m, rfl⟩ := he
      exact Option.some_ne_none _
    · rw [not_exists] at he
      rw [ownId_cons he]
      intro ho
      rw [joinId_cons he, if_pos ho, Option.or_none] at hj
      exact ih hj ho

/-- the session knows what the client was told, and is latched once its target could be joined -/
structure Heard (client : MumbleVoipClient) (past : List VoipEvent) (s : Session) : Prop where
  own : s.mySession = ownId past
  ids : ∀ name, s.channels.lookup name = announcedId name past
  joined : s.channelJoined = (joinId client.targetChannel past).isSome

theorem heard_init (client : MumbleVoipClient) : Heard client [] .new where
  own := rfl
  ids _ := rfl
  joined := rfl

theorem announcedId_channelState {cs : ChannelStateMsg} {name : String} {cid : UInt32} (hn : cs.name = some name)
    (hc : cs.channelId = some cid) (other : String) (past : List VoipEvent) :
    announcedId other (.control (.channelState cs) :: past) =
      if other = name then some cid else announcedId other past := by
  simp [announcedId, hn, hc, eq_comm]

theorem announcedId_unnamed {cs : ChannelStateMsg} (h : cs.name = none ∨ cs.channelId = none) (other : String)
    (past : List VoipEvent) : announcedId other (.control (.channelState cs) :: past) = announcedId other past := by
  rcases h with h | h <;> simp [announcedId, h]

/-- The target joins as it is announced, once the own id is known. -/
theorem joinId_channelState {cs : ChannelStateMsg} {name : String} {cid : UInt32} (hn : cs.name = some name)
    (hc : cs.channelId = some cid) (target : String) (past : List VoipEvent) :
    joinId target (.control (.channelState cs) :: past) =
      (joinId target past).or (if name = target ∧ ownId past ≠ none then some cid else none) := by
  have ha := announcedId_channelState hn hc target past
  by_cases hname : target = name
  · rw [joinId_cons (by nofun), ha, if_pos hname]
    by_cases ho : ownId past = none <;> simp [ho, hname]
  · rw [joinId_cons_of_known (by nofun) (by rw [ha, if_neg hname]; exact id), if_neg fun h => hname h.1.symm,
      Option.or_none]

/-- a removal brings no channel back -/
theorem joinId_channelRemove (target : String) (m : ChannelRemoveMsg) (past : List VoipEvent) :
    joinId target (.control (.channelRemove m) :: past) = joinId target past := by
  refine joinId_cons_of_known (by nofun) fun ha hnone => ha ?_
  rw [announcedId, hnone, Option.filter_none]

theorem announcedId_of_tellsNothing {e : VoipEvent} (he : e.TellsNothing) (name : String) (past : List VoipEvent) :
    announcedId name (e :: past) = announcedId name past := by
  cases e with
  | control msg =>
    cases msg with
    | channelState cs => exact announcedId_unnamed (he.announce cs rfl) name past
    | channelRemove m => exact absurd rfl (he.remove m)
    | _ => rfl
  | _ => rfl

theorem joinId_of_tellsNothing {e : VoipEvent} (he : e.TellsNothing) (target : String) (past : List VoipEvent) :
    joinId target (e :: past) = joinId target past := by
  refine joinId_cons_of_known he.sync ?_
  rw [announcedId_of_tellsNothing he]
  exact id

theorem heard_serverSync {client : MumbleVoipClient} {past : List VoipEvent} {s : Session} (h : Heard client past s)
    (m : ServerSyncMsg) : Heard client (.control (.serverSync m) :: past) (s.onServerSync m client).1 := by
  have hl := h.ids client.targetChannel
  unfold Session.onServerSync
  dsimp only
  split
  · rename_i cid hcid
    refine ⟨rfl, h.ids, ?_⟩
    rw [hcid] at hl
    simp [joinId, ← hl]
  · rename_i hnone
    refine ⟨rfl, h.ids, ?_⟩
    rw [hnone] at hl
    simpa [joinId, ← hl] using h.joined

theorem heard_channelRemove {client : MumbleVoipClient} {past : List VoipEvent} {s : Session} (h : Heard client past s)
    (m : ChannelRemoveMsg) : Heard client (.control (.channelRemove m) :: past) (s.onChannelRemove m) where
  own := h.own
  ids name := by simp [Session.onChannelRemove, announcedId, h.ids]
  joined := by
    rw [joinId_channelRemove]
    exact h.joined

theorem heard_channelState {client : MumbleVoipClient} {past : List VoipEvent} {s : Session} (h : Heard client past s)
    {cs : ChannelStateMsg} {name : String} {cid : UInt32} (hn : cs.name = some name) (hc : cs.channelId = some cid) :
    Heard client (.control (.channelState cs) :: past) (s.onChannelState cs client.targetChannel).1 where
  own := by rw [Session.onChannelState_mySession, h.own]; rfl
  ids other := by
    rw [Session.onChannelState_channels hn hc, HashMap.lookup_insert_of, announcedId_channelState hn hc, h.ids]
  joined := by
    rw [Bool.eq_iff_iff, Session.onChannelState_joined hn hc, h.joined, h.own, joinId_channelState hn hc]
    by_cases hfirst : name = client.targetChannel ∧ ownId past ≠ none <;> simp [hfirst]

/-- Every event keeps the session to what the client was told. -/
theorem heard_step {client : MumbleVoipClient} {past : List VoipEvent} {r : VoipRun} (h : Heard client past r.session)
    (e : VoipEvent) : Heard client (e :: past) (r.step client e).session := by
  rcases r.handle_cases client e with
    ⟨_, _, _, hs, -, -, hnothing⟩ | ⟨m, rfl⟩ | ⟨m, rfl⟩ | ⟨cs, name, cid, rfl, hn, hc⟩
  · rw [VoipRun.step_session, hs]
    exact ⟨by rw [ownId_cons hnothing.sync, ← h.own], fun name => by rw [announcedId_of_tellsNothing hnothing, ← h.ids],
      by rw [joinId_of_tellsNothing hnothing, ← h.joined]⟩
  · exact heard_serverSync h m
  · exact heard_channelRemove h m
  · exact heard_channelState h hn hc

end MumbledFlight

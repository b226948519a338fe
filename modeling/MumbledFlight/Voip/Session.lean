/-
The per-connection Mumble session: the control messages it exchanges with the server and the handlers of
`session.rs` that read and send them.

A handler returns the new session and the packets it writes to the control stream, in order. A failed write ends the
connection and drops the session, so the handlers are modelled with every write succeeding. Encoder and decoder state
is left out: no control handler touches it.

The lemmas after each handler say once what it can change; later modules cite them and do not unfold the handlers.
-/
import Mathlib
import MumbledFlight.Lib.HashMap
import MumbledFlight.State

namespace MumbledFlight

/-! ## Messages -/

/-- `msgs::ChannelState`, the fields the client reads or sets -/
structure ChannelStateMsg where
  channelId : Option UInt32 := none
  name : Option String := none
  parent : Option UInt32 := none
  temporary : Option Bool := none
deriving DecidableEq

/-- `msgs::UserState`, the fields the client reads or sets -/
structure UserStateMsg where
  session : Option UInt32 := none
  channelId : Option UInt32 := none
  pluginContext : Option ByteArray := none
  pluginIdentity : Option String := none
deriving DecidableEq

/-- `msgs::ChannelRemove`; the field is required on the wire -/
structure ChannelRemoveMsg where
  channelId : UInt32
deriving DecidableEq

structure ServerSyncMsg where
  session : Option UInt32 := none
deriving DecidableEq

structure CryptSetupMsg where
  key : Option (List UInt8) := none
  clientNonce : Option (List UInt8) := none
  serverNonce : Option (List UInt8) := none
deriving DecidableEq

/-- a ChannelState lacks its name or its id, or carries both -/
theorem ChannelStateMsg.named_or (cs : ChannelStateMsg) :
    (cs.name = none ∨ cs.channelId = none) ∨ ∃ name cid, cs.name = some name ∧ cs.channelId = some cid := by
  cases hn : cs.name <;> cases hc : cs.channelId <;> simp

/-- an absent protobuf field reads as its default -/
def UserStateMsg.getSession (us : UserStateMsg) : UInt32 := us.session.getD 0

def ServerSyncMsg.getSession (sync : ServerSyncMsg) : UInt32 := sync.session.getD 0

/-- `ControlPacket`; `other` stands for every kind that neither side of the session looks into -/
inductive ControlPacket where
  | cryptSetup (m : CryptSetupMsg)
  | channelState (m : ChannelStateMsg)
  | channelRemove (m : ChannelRemoveMsg)
  | serverSync (m : ServerSyncMsg)
  | userState (m : UserStateMsg)
  | permissionDenied
  | other
deriving DecidableEq

/-! ## The client's configuration and the session -/

inductive ClientRole where
  | voice
  | ic
  | pa
  /-- `hasSource` is false when the radio source device is disabled -/
  | radio (hasSource : Bool)
deriving DecidableEq

/-- `MumbleVoipClient`, the fields its session reads -/
structure MumbleVoipClient where
  username : String
  context : String
  role : ClientRole
  targetChannel : String
  /-- Voice client only: the FBO channel and the aircraft channel -/
  zoneChannels : Option (String × String)
deriving DecidableEq

/-- the channel the client uses in a zone, when it switches channels by zone -/
def MumbleVoipClient.zoneChannel (client : MumbleVoipClient) (zone : SharedCockpitZone) : Option String :=
  client.zoneChannels.map fun (fboCh, aircraftCh) =>
    match zone with
    | .inFbo => fboCh
    | .aroundOrInAircraft => aircraftCh

structure CryptState where
  key : Vector UInt8 16
  clientNonce : Vector UInt8 16
  serverNonce : Vector UInt8 16
deriving DecidableEq

structure Session where
  crypt : Option CryptState
  mySession : Option UInt32
  channels : HashMap String UInt32
  channelJoined : Bool
  currentZone : Option SharedCockpitZone
  pendingChannel : Option (String × SharedCockpitZone)

namespace Session

def new : Session := ⟨none, none, ∅, false, none, none⟩

/-- `try_into::<[u8; 16]>` -/
def toKey16 (bytes : List UInt8) : Option (Vector UInt8 16) :=
  if h : bytes.length = 16 then some ⟨bytes.toArray, by simpa using h⟩ else none

def onCryptSetup (s : Session) (setup : CryptSetupMsg) : Session :=
  let keyRaw := setup.key.getD []
  if keyRaw.isEmpty then s
  else
    match toKey16 keyRaw, toKey16 (setup.clientNonce.getD []), toKey16 (setup.serverNonce.getD []) with
    | some key, some cNonce, some sNonce => { s with crypt := some ⟨key, cNonce, sNonce⟩ }
    | _, _, _ => s

/-- a UserState that asks the server to move session `sess` into channel `cid` -/
def moveRequest (sess cid : UInt32) : ControlPacket := .userState { session := some sess, channelId := some cid }

/-- a ChannelState that asks the server to create the temporary channel `name` under the root -/
def createRequest (name : String) : ControlPacket :=
  .channelState { parent := some 0, name := some name, temporary := some true }

def sendChannelMove (s : Session) (cid : UInt32) : List ControlPacket :=
  match s.mySession with
  | none => []
  | some sess => [moveRequest sess cid]

/-- the second half of `on_channel_state`: the move for a zone channel that was waiting for its creation -/
def movePending (s : Session) (name : String) (cid : UInt32) : Session × List ControlPacket :=
  match s.pendingChannel with
  | some (pendingName, _) =>
    if name = pendingName then ({ s with pendingChannel := none }, s.sendChannelMove cid) else (s, [])
  | none => (s, [])

def onChannelState (s : Session) (cs : ChannelStateMsg) (target : String) : Session × List ControlPacket :=
  match cs.name, cs.channelId with
  | some name, some cid =>
    let s := { s with channels := s.channels.insert name cid }
    if s.channelJoined = false ∧ name = target then
      match s.mySession with
      | none => (s, []) -- returns before the pending move below is looked at
      | some sess =>
        let r := movePending { s with channelJoined := true } name cid
        (r.1, moveRequest sess cid :: r.2)
    else s.movePending name cid
  | _, _ => (s, [])

/-- the zone whose channel, as the cache has it, is `cid` -/
def confirmedZone (s : Session) (fboCh aircraftCh : String) (cid : UInt32) : Option SharedCockpitZone :=
  if s.channels.lookup fboCh = some cid then some .inFbo
  else if s.channels.lookup aircraftCh = some cid then some .aroundOrInAircraft
  else none

def onUserState (s : Session) (us : UserStateMsg) (client : MumbleVoipClient) : Session :=
  if s.mySession ≠ some us.getSession then s
  else
    match us.channelId, client.zoneChannels with
    | some cid, some (fboCh, aircraftCh) =>
      match s.confirmedZone fboCh aircraftCh cid with
      | some zone => if s.currentZone ≠ some zone then { s with currentZone := some zone } else s
      | none => s
    | _, _ => s

/-- `check_zone_channel`, with the cockpit's zone as read from the shared state -/
def checkZoneChannel (s : Session) (client : MumbleVoipClient) (zone : SharedCockpitZone) :
    Session × List ControlPacket :=
  match client.zoneChannel zone with
  | none => (s, [])
  | some chName =>
    if s.currentZone = some zone then (s, [])
    else
      let retry := match s.channels.lookup chName with
        | some cid => s.sendChannelMove cid
        | none => []
      let alreadyPending := s.pendingChannel.map Prod.fst = some chName
      if alreadyPending then (s, retry)
      else ({ s with pendingChannel := some (chName, zone) }, retry ++ [createRequest chName])

def onChannelRemove (s : Session) (cr : ChannelRemoveMsg) : Session :=
  { s with channels := HashMap.retain (fun _ v => v ≠ cr.channelId) s.channels }

def onServerSync (s : Session) (sync : ServerSyncMsg) (client : MumbleVoipClient) : Session × List ControlPacket :=
  let s := { s with mySession := some sync.getSession }
  let stateMsg := ControlPacket.userState
    { session := some sync.getSession
      pluginContext := some client.context.toUTF8
      pluginIdentity := some client.username }
  match s.channels.lookup client.targetChannel with
  | some cid => ({ s with channelJoined := true }, [stateMsg, moveRequest sync.getSession cid])
  | none => (s, [stateMsg, createRequest client.targetChannel])

def onControlMsg (s : Session) (msg : ControlPacket) (client : MumbleVoipClient) : Session × List ControlPacket :=
  match msg with
  | .cryptSetup m => (s.onCryptSetup m, [])
  | .channelState m => s.onChannelState m client.targetChannel
  | .channelRemove m => (s.onChannelRemove m, [])
  | .serverSync m => s.onServerSync m client
  | .userState m => (s.onUserState m client, [])
  | .permissionDenied => (s, [])
  | .other => (s, [])

/-! ## What each handler can change -/

theorem movePending_fields (s : Session) (name : String) (cid : UInt32) :
    (s.movePending name cid).1.mySession = s.mySession ∧ (s.movePending name cid).1.channels = s.channels ∧
    (s.movePending name cid).1.channelJoined = s.channelJoined ∧
    (s.movePending name cid).1.currentZone = s.currentZone := by
  unfold movePending
  split
  · split_ifs <;> exact ⟨rfl, rfl, rfl, rfl⟩
  · exact ⟨rfl, rfl, rfl, rfl⟩

@[simp] theorem onChannelState_mySession (s : Session) (cs : ChannelStateMsg) (target : String) :
    (s.onChannelState cs target).1.mySession = s.mySession := by
  unfold onChannelState
  split
  · dsimp only
    split_ifs
    · split
      · rfl
      · exact (movePending_fields _ _ _).1
    · exact (movePending_fields _ _ _).1
  · rfl

@[simp] theorem onChannelState_currentZone (s : Session) (cs : ChannelStateMsg) (target : String) :
    (s.onChannelState cs target).1.currentZone = s.currentZone := by
  unfold onChannelState
  split
  · dsimp only
    split_ifs
    · split
      · rfl
      · exact (movePending_fields _ _ _).2.2.2
    · exact (movePending_fields _ _ _).2.2.2
  · rfl

/-- a named channel with an id enters the cache, whatever else the handler does -/
theorem onChannelState_channels {s : Session} {cs : ChannelStateMsg} {name : String} {cid : UInt32}
    (hn : cs.name = some name) (hc : cs.channelId = some cid) (target : String) :
    (s.onChannelState cs target).1.channels = s.channels.insert name cid := by
  simp only [onChannelState, hn, hc]
  split_ifs
  · split
    · rfl
    · exact (movePending_fields _ _ _).2.1
  · exact (movePending_fields _ _ _).2.1

theorem onChannelState_of_unnamed {s : Session} {cs : ChannelStateMsg} (h : cs.name = none ∨ cs.channelId = none)
    (target : String) : s.onChannelState cs target = (s, []) := by
  unfold onChannelState
  split
  · rename_i hn hc
    rcases h with h | h
    · rw [h] at hn; cases hn
    · rw [h] at hc; cases hc
  · rfl

/-- the latch is set by the ChannelState of the target, once the session is known -/
theorem onChannelState_joined {s : Session} {cs : ChannelStateMsg} {name : String} {cid : UInt32}
    (hn : cs.name = some name) (hc : cs.channelId = some cid) (target : String) :
    (s.onChannelState cs target).1.channelJoined = true ↔
      s.channelJoined = true ∨ name = target ∧ s.mySession ≠ none := by
  simp only [onChannelState, hn, hc]
  split_ifs with h
  · cases hs : s.mySession with
    | none => simp
    | some sess => simp [(movePending_fields _ _ _).2.2.1, h.2]
  · rw [(movePending_fields _ _ _).2.2.1]
    by_cases hj : s.channelJoined = true
    · simp [hj]
    · have hne : name ≠ target := fun hne => h ⟨by simpa using hj, hne⟩
      simp [hne]

/-- setting the latch sends the move -/
theorem onChannelState_sends {s : Session} {cs : ChannelStateMsg} {cid sess : UInt32} {target : String}
    (hn : cs.name = some target) (hc : cs.channelId = some cid) (hj : s.channelJoined = false)
    (hs : s.mySession = some sess) : moveRequest sess cid ∈ (s.onChannelState cs target).2 := by
  simp [onChannelState, hn, hc, hj, hs]

theorem onUserState_fields (s : Session) (us : UserStateMsg) (client : MumbleVoipClient) :
    ∃ z, s.onUserState us client = { s with currentZone := z } := by
  unfold onUserState
  split_ifs
  · exact ⟨_, rfl⟩
  · split
    · split
      · split_ifs <;> exact ⟨_, rfl⟩
      · exact ⟨_, rfl⟩
    · exact ⟨_, rfl⟩

theorem checkZoneChannel_fields (s : Session) (client : MumbleVoipClient) (zone : SharedCockpitZone) :
    ∃ p, (s.checkZoneChannel client zone).1 = { s with pendingChannel := p } := by
  unfold checkZoneChannel
  split
  · exact ⟨_, rfl⟩
  · dsimp only
    split_ifs <;> exact ⟨_, rfl⟩

theorem onServerSync_fields (s : Session) (sync : ServerSyncMsg) (client : MumbleVoipClient) :
    ∃ b, (s.onServerSync sync client).1 = { s with mySession := some sync.getSession, channelJoined := b } := by
  unfold onServerSync
  dsimp only
  split
  · exact ⟨_, rfl⟩
  · exact ⟨_, rfl⟩

/-- the target is in the cache: the sync joins it -/
theorem onServerSync_of_some {s : Session} {client : MumbleVoipClient} {cid : UInt32}
    (h : s.channels.lookup client.targetChannel = some cid) (sync : ServerSyncMsg) :
    (s.onServerSync sync client).1.channelJoined = true ∧
    moveRequest sync.getSession cid ∈ (s.onServerSync sync client).2 := by
  simp [onServerSync, h]

/-- the target is not in the cache: the sync asks for its creation -/
theorem onServerSync_of_none {s : Session} {client : MumbleVoipClient}
    (h : s.channels.lookup client.targetChannel = none) (sync : ServerSyncMsg) :
    (s.onServerSync sync client).1.channelJoined = s.channelJoined ∧
    createRequest client.targetChannel ∈ (s.onServerSync sync client).2 := by
  simp [onServerSync, h]

theorem onCryptSetup_fields (s : Session) (setup : CryptSetupMsg) :
    ∃ c, s.onCryptSetup setup = { s with crypt := c } := by
  unfold onCryptSetup
  dsimp only
  split_ifs
  · exact ⟨_, rfl⟩
  · split <;> exact ⟨_, rfl⟩

end Session

end MumbledFlight

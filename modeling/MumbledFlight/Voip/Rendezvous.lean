/-
Rendezvous: any number of clients with one target channel, and the server, exchanging messages over FIFO connections.

The server is an assumption and stands here as one: it delivers in order on each connection; it sends a connecting
client a ChannelState for each channel there is and then the ServerSync; it answers a creation request by creating the
channel and announcing it to every client it has begun to sync when no channel has that name, and by PermissionDenied
otherwise; it removes and renames nothing. Between its messages it may send anything else. Every client runs the
session of `session.rs`, with any zone channels and any zone ticks, also before its ServerSync.

Results, for every interleaving:
- `rendezvous`: at most one channel of the target's name is ever created; every client that has handled its ServerSync
  and a ChannelState with that name has joined it; and with nothing in flight every synced client has.
-/
import Mathlib.Logic.Function.Basic
import MumbledFlight.Voip.History

namespace MumbledFlight

open Session

/-! ## Server, connections, steps -/

structure Channel where
  id : UInt32
  name : String
  parent : UInt32
deriving DecidableEq

/-- the ChannelState by which the server announces a channel -/
def Channel.announce (c : Channel) : ChannelStateMsg :=
  { channelId := some c.id, name := some c.name, parent := some c.parent }

theorem Channel.announce_inj {c d : Channel} (h : c.announce = d.announce) : c = d := by
  cases c; cases d
  simpa [announce] using h

/-- how far the server has come in syncing a client: the channels still to be sent -/
inductive Phase where
  | unconnected
  | dumping (rest : List Channel)
  | synced
deriving DecidableEq

/-- a client and its connection; inbox and outbox are the messages in flight, oldest first -/
structure Peer where
  run : VoipRun
  phase : Phase
  inbox : List ControlPacket
  outbox : List ControlPacket

structure Net (ι : Type) where
  channels : List Channel
  /-- the channels created so far -/
  created : List Channel
  peers : ι → Peer

inductive NetEvent (ι : Type) where
  /-- the server begins to sync client i -/
  | connect (i : ι)
  /-- it sends client i the next channel of the dump -/
  | sendChannel (i : ι)
  /-- the dump is done: it sends client i its ServerSync -/
  | sendSync (i : ι) (session : UInt32)
  /-- it sends client i some other message -/
  | notify (i : ι) (msg : ControlPacket)
  /-- it handles the oldest request of client i; a channel it creates gets the free id -/
  | serve (i : ι) (id : UInt32)
  /-- client i handles the oldest message sent to it -/
  | deliver (i : ι)
  | zoneCheck (i : ι)
  | cockpitZone (i : ι) (zone : SharedCockpitZone)

/-- the channel a packet asks the server to create -/
def ControlPacket.creates : ControlPacket → Option (String × UInt32)
  | .channelState m => if m.channelId = none then m.name.map fun name => (name, m.parent.getD 0) else none
  | _ => none

/-- messages that name no channel, remove none and are not the sync -/
def ControlPacket.quiet : ControlPacket → Bool
  | .channelState m => m.name.isNone
  | .channelRemove _ | .serverSync _ => false
  | _ => true

namespace Peer

def init (zone : SharedCockpitZone) : Peer := ⟨.init zone, .unconnected, [], []⟩

def push (p : Peer) (msg : ControlPacket) : Peer := { p with inbox := p.inbox ++ [msg] }

/-- the session takes an event and what it sends goes into flight -/
def take (client : MumbleVoipClient) (p : Peer) (e : VoipEvent) : Peer :=
  { p with run := p.run.step client e, outbox := p.outbox ++ (p.run.handle client e).2 }

/-- a new channel is announced to the clients the server has begun to sync -/
def hear (p : Peer) (c : Channel) : Peer :=
  match p.phase with
  | .unconnected => p
  | _ => p.push (.channelState c.announce)

end Peer

namespace Net

variable {ι : Type} [DecidableEq ι]

def init (channels : List Channel) (zone : ι → SharedCockpitZone) : Net ι :=
  ⟨channels, [], fun i => .init (zone i)⟩

def setPeer (n : Net ι) (i : ι) (p : Peer) : Net ι := { n with peers := Function.update n.peers i p }

/-- the server creates a channel and announces it -/
def create (n : Net ι) (c : Channel) : Net ι where
  channels := n.channels ++ [c]
  created := n.created ++ [c]
  peers := fun i => (n.peers i).hear c

def step (client : ι → MumbleVoipClient) (n : Net ι) : NetEvent ι → Net ι
  | .connect i =>
    match (n.peers i).phase with
    | .unconnected => n.setPeer i { n.peers i with phase := .dumping n.channels }
    | _ => n
  | .sendChannel i =>
    match (n.peers i).phase with
    | .dumping (c :: rest) =>
      n.setPeer i { (n.peers i).push (.channelState c.announce) with phase := .dumping rest }
    | _ => n
  | .sendSync i session =>
    match (n.peers i).phase with
    | .dumping [] => n.setPeer i { (n.peers i).push (.serverSync { session := some session }) with phase := .synced }
    | _ => n
  | .notify i msg => if msg.quiet then n.setPeer i ((n.peers i).push msg) else n
  | .serve i id =>
    match (n.peers i).outbox with
    | [] => n
    | request :: rest =>
      if ∃ c ∈ n.channels, c.id = id then n
      else
        let served := n.setPeer i { n.peers i with outbox := rest }
        match request.creates with
        | none => served
        | some (name, parent) =>
          if ∃ c ∈ n.channels, c.name = name then served.setPeer i ((served.peers i).push .permissionDenied)
          else served.create ⟨id, name, parent⟩
  | .deliver i =>
    match (n.peers i).inbox with
    | [] => n
    | msg :: rest => n.setPeer i (Peer.take (client i) { n.peers i with inbox := rest } (.control msg))
  | .zoneCheck i => n.setPeer i ((n.peers i).take (client i) .zoneCheck)
  | .cockpitZone i zone => n.setPeer i ((n.peers i).take (client i) (.cockpitZone zone))

end Net

/-! ## What a rendezvous is read off -/

namespace VoipRun

def HandledSync (r : VoipRun) : Prop := ∃ e ∈ r.log, ∃ m, e.event = .control (.serverSync m)

def HandledChannel (r : VoipRun) (name : String) : Prop :=
  ∃ e ∈ r.log, ∃ m, e.event = .control (.channelState m) ∧ m.name = some name

def SentMove (r : VoipRun) (cid : UInt32) : Prop := ∃ e ∈ r.log, ∃ sess, moveRequest sess cid ∈ e.sent

end VoipRun

/-- the client has joined the channel: the latch is set, and the move it sent names the one channel of that name -/
def MetIn (channels : List Channel) (target : String) (r : VoipRun) : Prop :=
  r.session.channelJoined = true ∧ ∃ c ∈ channels, c.name = target ∧ r.SentMove c.id ∧
    ∀ c' ∈ channels, c'.name = target → c' = c

/-! ## The invariant of one connection -/

/-- what holds between the server's channels, the messages in flight to and from a client, and its session -/
structure Conn (target : String) (channels : List Channel) (p : Peer) : Prop where
  cached : ∀ name id, p.run.session.channels.lookup name = some id → ∃ c ∈ channels, c.name = name ∧ c.id = id
  queued : ∀ m, .channelState m ∈ p.inbox → m.name = none ∨ ∃ c ∈ channels, m = c.announce
  dumped : ∀ rest, p.phase = .dumping rest → ∀ c ∈ rest, c ∈ channels
  noRemove : ∀ m, .channelRemove m ∉ p.inbox
  /-- the target is in the cache, in flight, or still to be sent -/
  covered : p.phase ≠ .unconnected → ∀ c ∈ channels, c.name = target →
    p.run.session.channels.lookup target ≠ none ∨ .channelState c.announce ∈ p.inbox ∨
      ∃ rest, p.phase = .dumping rest ∧ c ∈ rest
  syncing : p.run.session.mySession ≠ none ∨ (∃ m, .serverSync m ∈ p.inbox) → p.phase = .synced
  /-- the sync is handled or on its way -/
  sync : p.phase = .synced → p.run.session.mySession ≠ none ∨ ∃ m, .serverSync m ∈ p.inbox
  joins : p.run.session.mySession ≠ none → p.run.session.channels.lookup target ≠ none →
    p.run.session.channelJoined = true
  moved : p.run.session.channelJoined = true → ∃ c ∈ channels, c.name = target ∧ p.run.SentMove c.id
  asked : p.run.session.mySession ≠ none → p.run.session.channels.lookup target = none →
    createRequest target ∈ p.outbox ∨ ∃ c ∈ channels, c.name = target
  seen : p.run.HandledChannel target → p.run.session.channels.lookup target ≠ none
  known : p.run.HandledSync → p.run.session.mySession ≠ none

theorem conn_init (target : String) (channels : List Channel) (zone : SharedCockpitZone) :
    Conn target channels (Peer.init zone) where
  cached := by simp [Peer.init, VoipRun.init, Session.new]
  queued := by simp [Peer.init]
  dumped := by simp [Peer.init]
  noRemove := by simp [Peer.init]
  covered h := absurd rfl h
  syncing h := by rcases h with h | ⟨m, h⟩ <;> simp [Peer.init, VoipRun.init, Session.new] at h
  sync h := by simp [Peer.init] at h
  joins h := absurd rfl h
  moved h := by cases h
  asked h := absurd rfl h
  seen h := by obtain ⟨e, he, -⟩ := h; simp [Peer.init, VoipRun.init] at he
  known h := by obtain ⟨e, he, -⟩ := h; simp [Peer.init, VoipRun.init] at he

section Messages

variable {target : String} {channels : List Channel} {p : Peer}

/-! A message enters the inbox: what the invariant says of the messages that are there. -/

theorem Conn.noRemove_push (h : Conn target channels p) {inbox : List ControlPacket} {msg : ControlPacket}
    (hmem : ∀ x, x ∈ inbox → x ∈ p.inbox ∨ x = msg) (hmsg : ∀ m, msg ≠ .channelRemove m) (m : ChannelRemoveMsg) :
    .channelRemove m ∉ inbox := by
  intro hm
  rcases hmem _ hm with hm | hm
  · exact h.noRemove m hm
  · exact hmsg m hm.symm

theorem Conn.syncing_push (h : Conn target channels p) {inbox : List ControlPacket} {msg : ControlPacket}
    (hmem : ∀ x, x ∈ inbox → x ∈ p.inbox ∨ x = msg) (hmsg : ∀ m, msg ≠ .serverSync m)
    (hs : p.run.session.mySession ≠ none ∨ ∃ m, .serverSync m ∈ inbox) : p.phase = .synced := by
  rcases hs with hs | ⟨m, hm⟩
  · exact h.syncing (Or.inl hs)
  · rcases hmem _ hm with hm | hm
    · exact h.syncing (Or.inr ⟨m, hm⟩)
    · exact absurd hm.symm (hmsg m)

/-! The oldest message leaves the inbox: what it carried is still there, or it was the message itself. -/

theorem Conn.covered_pop (h : Conn target channels p) {msg : ControlPacket} {rest : List ControlPacket}
    (hi : p.inbox = msg :: rest) (hp : p.phase ≠ .unconnected) {c : Channel} (hc : c ∈ channels)
    (hn : c.name = target) :
    (p.run.session.channels.lookup target ≠ none ∨ .channelState c.announce ∈ rest ∨
      ∃ rest, p.phase = .dumping rest ∧ c ∈ rest) ∨ msg = .channelState c.announce := by
  rcases h.covered hp c hc hn with h1 | h1 | h1
  · exact Or.inl (Or.inl h1)
  · rw [hi] at h1
    rcases List.mem_cons.1 h1 with h1 | h1
    · exact Or.inr h1.symm
    · exact Or.inl (Or.inr (Or.inl h1))
  · exact Or.inl (Or.inr (Or.inr h1))

theorem Conn.sync_pop (h : Conn target channels p) {msg : ControlPacket} {rest : List ControlPacket}
    (hi : p.inbox = msg :: rest) (hp : p.phase = .synced) :
    (p.run.session.mySession ≠ none ∨ ∃ m, .serverSync m ∈ rest) ∨ ∃ m, msg = .serverSync m := by
  rcases h.sync hp with hs | ⟨m, hm⟩
  · exact Or.inl (Or.inl hs)
  · rw [hi] at hm
    rcases List.mem_cons.1 hm with hm | hm
    · exact Or.inr ⟨m, hm.symm⟩
    · exact Or.inl (Or.inr ⟨m, hm⟩)

/-- a quiet message in the inbox changes nothing the invariant looks at -/
theorem conn_push_quiet (h : Conn target channels p) {msg : ControlPacket} (hq : msg.quiet = true) :
    Conn target channels (p.push msg) := by
  have hmem : ∀ x, x ∈ (p.push msg).inbox → x ∈ p.inbox ∨ x = msg := by
    intro x hx
    simpa [Peer.push] using hx
  refine { h with queued := ?_, noRemove := ?_, covered := ?_, syncing := ?_, sync := ?_ }
  · intro m hm
    rcases hmem _ hm with hm | rfl
    · exact h.queued m hm
    · exact Or.inl (Option.isNone_iff_eq_none.1 hq)
  · exact h.noRemove_push hmem fun m hm => by rw [hm] at hq; cases hq
  · intro hp c hc hn
    rcases h.covered hp c hc hn with h1 | h1 | h1
    · exact Or.inl h1
    · exact Or.inr (Or.inl (List.mem_append_left _ h1))
    · exact Or.inr (Or.inr h1)
  · exact h.syncing_push hmem fun m hm => by rw [hm] at hq; cases hq
  · intro hp
    exact (h.sync hp).imp_right fun ⟨m, hm⟩ => ⟨m, List.mem_append_left _ hm⟩

theorem conn_connect (h : Conn target channels p) (hp : p.phase = .unconnected) :
    Conn target channels { p with phase := .dumping channels } := by
  refine { h with dumped := ?_, covered := ?_, syncing := ?_, sync := ?_ }
  · intro rest hr c hc
    cases hr; exact hc
  · intro _ c hc _
    exact Or.inr (Or.inr ⟨_, rfl, hc⟩)
  · intro hs
    have := h.syncing hs
    rw [hp] at this; cases this
  · intro hs; cases hs

theorem conn_sendChannel (h : Conn target channels p) {c : Channel} {rest : List Channel}
    (hp : p.phase = .dumping (c :: rest)) :
    Conn target channels { p.push (.channelState c.announce) with phase := .dumping rest } := by
  have hmem : ∀ x, x ∈ (p.push (.channelState c.announce)).inbox → x ∈ p.inbox ∨ x = .channelState c.announce := by
    intro x hx
    simpa [Peer.push] using hx
  refine { h with queued := ?_, dumped := ?_, noRemove := ?_, covered := ?_, syncing := ?_, sync := ?_ }
  · intro m hm
    rcases hmem _ hm with hm | hm
    · exact h.queued m hm
    · cases hm; exact Or.inr ⟨c, h.dumped _ hp c List.mem_cons_self, rfl⟩
  · intro rest' hr d hd
    cases hr; exact h.dumped _ hp d (List.mem_cons_of_mem _ hd)
  · exact h.noRemove_push hmem fun _ hm => by cases hm
  · intro _ d hd hn
    rcases h.covered (by rw [hp]; simp) d hd hn with h1 | h1 | ⟨rest', hr, hdr⟩
    · exact Or.inl h1
    · exact Or.inr (Or.inl (List.mem_append_left _ h1))
    · rw [hp] at hr; cases hr
      rcases List.mem_cons.1 hdr with rfl | hdr
      · exact Or.inr (Or.inl (by simp [Peer.push]))
      · exact Or.inr (Or.inr ⟨rest, rfl, hdr⟩)
  · intro hs
    have hsynced : p.phase = .synced := h.syncing_push hmem (fun _ hm => by cases hm) hs
    rw [hp] at hsynced; cases hsynced
  · intro hs; cases hs

theorem conn_sendSync (h : Conn target channels p) (hp : p.phase = .dumping []) (session : UInt32) :
    Conn target channels { p.push (.serverSync { session := some session }) with phase := .synced } := by
  have hmem : ∀ x, x ∈ (p.push (.serverSync { session := some session })).inbox →
      x ∈ p.inbox ∨ x = .serverSync { session := some session } := by
    intro x hx
    simpa [Peer.push] using hx
  refine { h with
    queued := ?_, dumped := ?_, noRemove := ?_, covered := ?_, syncing := fun _ => rfl
    sync := fun _ => Or.inr ⟨_, List.mem_append_right _ List.mem_cons_self⟩ }
  · intro m hm
    rcases hmem _ hm with hm | hm
    · exact h.queued m hm
    · cases hm
  · intro rest hr; cases hr
  · exact h.noRemove_push hmem fun _ hm => by cases hm
  · intro _ d hd hn
    rcases h.covered (by rw [hp]; simp) d hd hn with h1 | h1 | ⟨rest, hr, hdr⟩
    · exact Or.inl h1
    · exact Or.inr (Or.inl (List.mem_append_left _ h1))
    · rw [hp] at hr; cases hr; cases hdr

/-- the server drops a request it has handled: a creation of the target must have left the channel there -/
theorem conn_served (h : Conn target channels p) {request : ControlPacket} {rest : List ControlPacket}
    (ho : p.outbox = request :: rest) (hr : request = createRequest target → ∃ c ∈ channels, c.name = target) :
    Conn target channels { p with outbox := rest } := by
  refine { h with asked := ?_ }
  intro hs hl
  rcases h.asked hs hl with h1 | h1
  · rw [ho] at h1
    rcases List.mem_cons.1 h1 with h1 | h1
    · exact Or.inr (hr h1.symm)
    · exact Or.inl h1
  · exact Or.inr h1

/-- a channel is created: the client hears of it when the server has begun to sync it -/
theorem conn_hear (h : Conn target channels p) (c : Channel) : Conn target (channels ++ [c]) (p.hear c) := by
  have hrun : (p.hear c).run = p.run := by unfold Peer.hear Peer.push; split <;> rfl
  have hphase : (p.hear c).phase = p.phase := by unfold Peer.hear Peer.push; split <;> rfl
  have hout : (p.hear c).outbox = p.outbox := by unfold Peer.hear Peer.push; split <;> rfl
  have hsub : ∀ x, x ∈ p.inbox → x ∈ (p.hear c).inbox := by
    intro x hx
    unfold Peer.hear Peer.push; split
    · exact hx
    · exact List.mem_append_left _ hx
  have hmem : ∀ x, x ∈ (p.hear c).inbox → x ∈ p.inbox ∨ x = .channelState c.announce := by
    intro x hx
    unfold Peer.hear Peer.push at hx; split at hx
    · exact Or.inl hx
    · simpa using hx
  have hnew : p.phase ≠ .unconnected → .channelState c.announce ∈ (p.hear c).inbox := by
    intro hp
    unfold Peer.hear Peer.push
    split
    · contradiction
    · simp
  have lift : ∀ {P : Channel → Prop}, (∃ d ∈ channels, P d) → ∃ d ∈ channels ++ [c], P d :=
    fun ⟨d, hd, hP⟩ => ⟨d, List.mem_append_left _ hd, hP⟩
  refine
    { cached := ?cached, queued := ?queued, dumped := ?dumped, noRemove := ?noRemove, covered := ?covered
      syncing := ?syncing, sync := ?sync, joins := ?joins, moved := ?moved, asked := ?asked, seen := ?seen
      known := ?known }
  case cached =>
    intro name id hl
    rw [hrun] at hl
    exact lift (h.cached name id hl)
  case queued =>
    intro m hm
    rcases hmem _ hm with hm | hm
    · exact (h.queued m hm).imp_right lift
    · cases hm; exact Or.inr ⟨c, by simp, rfl⟩
  case dumped =>
    intro rest hr d hd
    rw [hphase] at hr
    exact List.mem_append_left _ (h.dumped rest hr d hd)
  case noRemove => exact h.noRemove_push hmem fun _ hm => by cases hm
  case covered =>
    intro hp d hd hn
    rw [hphase] at hp ⊢
    rw [hrun]
    rcases List.mem_append.1 hd with hd | hd
    · rcases h.covered hp d hd hn with h1 | h1 | h1
      · exact Or.inl h1
      · exact Or.inr (Or.inl (hsub _ h1))
      · exact Or.inr (Or.inr h1)
    · rw [List.mem_singleton.1 hd]
      exact Or.inr (Or.inl (hnew hp))
  case syncing =>
    intro hs
    rw [hphase]; rw [hrun] at hs
    exact h.syncing_push hmem (fun _ hm => by cases hm) hs
  case sync =>
    intro hp
    rw [hphase] at hp; rw [hrun]
    exact (h.sync hp).imp_right fun ⟨m, hm⟩ => ⟨m, hsub _ hm⟩
  case joins => rw [hrun]; exact h.joins
  case moved => rw [hrun]; exact fun hj => lift (h.moved hj)
  case asked =>
    rw [hrun, hout]
    intro hs hl
    exact (h.asked hs hl).imp_right lift
  case seen => rw [hrun]; exact h.seen
  case known => rw [hrun]; exact h.known

end Messages

/-! ## The client takes an event -/

section Events

variable {client : MumbleVoipClient} {channels : List Channel} {p : Peer}

theorem sentMove_step {r : VoipRun} {cid : UInt32} (h : r.SentMove cid) (e : VoipEvent) :
    (r.step client e).SentMove cid := by
  obtain ⟨x, hx, sess, hs⟩ := h
  exact ⟨x, List.mem_cons_of_mem _ hx, sess, hs⟩

theorem handledSync_step {r : VoipRun} {e : VoipEvent} (h : (r.step client e).HandledSync) :
    r.HandledSync ∨ ∃ m, e = .control (.serverSync m) := by
  obtain ⟨x, hx, m, hm⟩ := h
  rcases List.mem_cons.1 hx with rfl | hx
  · exact Or.inr ⟨m, hm⟩
  · exact Or.inl ⟨x, hx, m, hm⟩

theorem handledChannel_step {r : VoipRun} {e : VoipEvent} {name : String}
    (h : (r.step client e).HandledChannel name) :
    r.HandledChannel name ∨ ∃ m, e = .control (.channelState m) ∧ m.name = some name := by
  obtain ⟨x, hx, m, hm⟩ := h
  rcases List.mem_cons.1 hx with rfl | hx
  · exact Or.inr ⟨m, hm⟩
  · exact Or.inl ⟨x, hx, m, hm⟩

/-- events by which the session learns of no channel and of no sync -/
def VoipEvent.quiet : VoipEvent → Bool
  | .control msg => msg.quiet
  | _ => true

theorem handle_quiet (client : MumbleVoipClient) (r : VoipRun) {e : VoipEvent} (hq : e.quiet = true) :
    (r.handle client e).1.mySession = r.session.mySession ∧ (r.handle client e).1.channels = r.session.channels ∧
    (r.handle client e).1.channelJoined = r.session.channelJoined := by
  rcases r.handle_cases client e with
    ⟨_, _, _, hs, -⟩ | ⟨sync, rfl⟩ | ⟨m, rfl⟩ | ⟨m, name, cid, rfl, hn, -⟩
  · rw [hs]
    exact ⟨rfl, rfl, rfl⟩
  · cases hq
  · cases hq
  · have hnone : m.name = none := Option.isNone_iff_eq_none.1 hq
    exact absurd (hn.symm.trans hnone) (Option.some_ne_none _)

theorem conn_take_quiet {target : String} (h : Conn target channels p) {e : VoipEvent} (hq : e.quiet = true) :
    Conn target channels (p.take client e) := by
  obtain ⟨hsess, hch, hj⟩ := handle_quiet client p.run hq
  have hrun : (p.take client e).run = p.run.step client e := rfl
  refine { h with
    cached := ?_, covered := ?_, syncing := ?_, sync := ?_, joins := ?_, moved := ?_, asked := ?_, seen := ?_
    known := ?_ } <;>
    simp only [hrun, VoipRun.step_session, hsess, hch, hj]
  · exact h.cached
  · exact h.covered
  · exact h.syncing
  · exact h.sync
  · exact h.joins
  · intro hjoined
    obtain ⟨c, hc, hn, hm⟩ := h.moved hjoined
    exact ⟨c, hc, hn, sentMove_step hm e⟩
  · intro hs hl
    exact (h.asked hs hl).imp_left (List.mem_append_left _)
  · intro hh
    rcases handledChannel_step hh with hh | ⟨m, rfl, hn⟩
    · exact h.seen hh
    · have hn' : m.name = none := Option.isNone_iff_eq_none.1 hq
      rw [hn'] at hn; cases hn
  · intro hh
    rcases handledSync_step hh with hh | ⟨m, rfl⟩
    · exact h.known hh
    · cases hq

/-- a quiet message leaves the inbox -/
theorem conn_pop_quiet {target : String} (h : Conn target channels p) {msg : ControlPacket}
    {rest : List ControlPacket} (hi : p.inbox = msg :: rest) (hq : msg.quiet = true) :
    Conn target channels { p with inbox := rest } := by
  have hsub : ∀ x, x ∈ rest → x ∈ p.inbox := by
    intro x hx
    rw [hi]; exact List.mem_cons_of_mem _ hx
  refine { h with queued := ?_, noRemove := ?_, covered := ?_, syncing := ?_, sync := ?_ }
  · exact fun m hm => h.queued m (hsub _ hm)
  · exact fun m hm => h.noRemove m (hsub _ hm)
  · intro hp c hc hn
    apply (h.covered_pop hi hp hc hn).resolve_right
    intro hmsg
    rw [hmsg] at hq; cases hq
  · intro hs
    exact h.syncing (hs.imp_right fun ⟨m, hm⟩ => ⟨m, hsub _ hm⟩)
  · intro hp
    apply (h.sync_pop hi hp).resolve_right
    intro ⟨m, hmsg⟩
    rw [hmsg] at hq; cases hq

/-- a channel's ChannelState is handled: it enters the cache, and the target's is joined when the session is known -/
theorem conn_take_announce {target : String} (htarget : client.targetChannel = target) (h : Conn target channels p)
    {c : Channel} {rest : List ControlPacket} (hi : p.inbox = .channelState c.announce :: rest) :
    Conn target channels (Peer.take client { p with inbox := rest } (.control (.channelState c.announce))) := by
  have hsub : ∀ x, x ∈ rest → x ∈ p.inbox := by
    intro x hx
    rw [hi]; exact List.mem_cons_of_mem _ hx
  have hc : c ∈ channels := by
    rcases h.queued c.announce (by rw [hi]; exact List.mem_cons_self) with hn | ⟨d, hd, hcd⟩
    · cases hn
    · rw [Channel.announce_inj hcd]; exact hd
  set p' := Peer.take client { p with inbox := rest } (.control (.channelState c.announce)) with hp'
  have hrun : p'.run = p.run.step client (.control (.channelState c.announce)) := rfl
  have hsess : p'.run.session.mySession = p.run.session.mySession :=
    onChannelState_mySession p.run.session c.announce _
  have hch : p'.run.session.channels = p.run.session.channels.insert c.name c.id :=
    onChannelState_channels rfl rfl _
  have hj : p'.run.session.channelJoined = true ↔
      p.run.session.channelJoined = true ∨ c.name = target ∧ p.run.session.mySession ≠ none := by
    rw [← htarget]
    exact onChannelState_joined rfl rfl _
  have hkeep : p.run.session.channels.lookup target ≠ none → p'.run.session.channels.lookup target ≠ none := by
    intro hl
    rw [hch, HashMap.lookup_insert_of]
    split_ifs
    · simp
    · exact hl
  have hself : c.name = target → p'.run.session.channels.lookup target ≠ none := by
    intro hn
    rw [hch, HashMap.lookup_insert_of, if_pos hn.symm]
    simp
  refine
    { cached := ?cached, queued := fun m hm => h.queued m (hsub _ hm), dumped := h.dumped
      noRemove := fun m hm => h.noRemove m (hsub _ hm), covered := ?covered, syncing := ?syncing, sync := ?sync
      joins := ?joins, moved := ?moved, asked := ?asked, seen := ?seen, known := ?known }
  case cached =>
    intro name id hl
    rw [hch, HashMap.lookup_insert_of] at hl
    split_ifs at hl with hn
    · exact ⟨c, hc, hn.symm, by simpa using hl⟩
    · exact h.cached name id hl
  case covered =>
    intro hp d hd hn
    rcases h.covered_pop hi hp hd hn with h1 | h1
    · exact h1.imp_left hkeep
    · have hdc : d = c := Channel.announce_inj (ControlPacket.channelState.inj h1).symm
      exact Or.inl (hself (hdc ▸ hn))
  case syncing =>
    intro hs
    rw [hsess] at hs
    exact h.syncing (hs.imp_right fun ⟨m, hm⟩ => ⟨m, hsub _ hm⟩)
  case sync =>
    intro hp
    rw [hsess]
    exact (h.sync_pop hi hp).resolve_right fun ⟨_, hmsg⟩ => by cases hmsg
  case joins =>
    intro hs hl
    rw [hsess] at hs
    rw [hj]
    by_cases hn : c.name = target
    · exact Or.inr ⟨hn, hs⟩
    · rw [hch, HashMap.lookup_insert_of, if_neg (Ne.symm hn)] at hl
      exact Or.inl (h.joins hs hl)
  case moved =>
    intro hjoined
    by_cases hold : p.run.session.channelJoined = true
    · obtain ⟨d, hd, hn, hm⟩ := h.moved hold
      exact ⟨d, hd, hn, sentMove_step hm _⟩
    · obtain ⟨hn, hs⟩ := (hj.1 hjoined).resolve_left hold
      obtain ⟨sess, hsess'⟩ := Option.ne_none_iff_exists'.1 hs
      have hsent : moveRequest sess c.id ∈ (p.run.session.onChannelState c.announce client.targetChannel).2 :=
        onChannelState_sends (by rw [htarget, ← hn]; rfl) rfl (by simpa using hold) hsess'
      exact ⟨c, hc, hn, _, List.mem_cons_self, sess, hsent⟩
  case asked =>
    intro hs hl
    rw [hsess] at hs
    by_cases hn : c.name = target
    · exact absurd hl (hself hn)
    · rw [hch, HashMap.lookup_insert_of, if_neg (Ne.symm hn)] at hl
      exact (h.asked hs hl).imp_left (List.mem_append_left _)
  case seen =>
    intro hh
    rcases handledChannel_step hh with hh | ⟨m, hm, hn⟩
    · exact hkeep (h.seen hh)
    · cases hm
      exact hself (Option.some.inj hn)
  case known =>
    intro hh
    rcases handledSync_step hh with hh | ⟨m, hm⟩
    · rw [hsess]; exact h.known hh
    · cases hm

/-- the ServerSync is handled: the session joins the target from the cache or asks for its creation -/
theorem conn_take_sync {target : String} (htarget : client.targetChannel = target) (h : Conn target channels p)
    {sync : ServerSyncMsg} {rest : List ControlPacket} (hi : p.inbox = .serverSync sync :: rest) :
    Conn target channels (Peer.take client { p with inbox := rest } (.control (.serverSync sync))) := by
  have hsub : ∀ x, x ∈ rest → x ∈ p.inbox := by
    intro x hx
    rw [hi]; exact List.mem_cons_of_mem _ hx
  have hphase : p.phase = .synced := h.syncing (Or.inr ⟨sync, by rw [hi]; exact List.mem_cons_self⟩)
  set p' := Peer.take client { p with inbox := rest } (.control (.serverSync sync)) with hp'
  obtain ⟨b, hfields⟩ := onServerSync_fields p.run.session sync client
  have hrun : p'.run.session = (p.run.session.onServerSync sync client).1 := rfl
  have hch : p'.run.session.channels = p.run.session.channels := by rw [hrun, hfields]
  have hsess : p'.run.session.mySession ≠ none := by rw [hrun, hfields]; simp
  have hsent : ∀ x, x ∈ (p.run.session.onServerSync sync client).2 → x ∈ p'.outbox := by
    intro x hx
    exact List.mem_append_right _ hx
  refine
    { cached := ?cached, queued := fun m hm => h.queued m (hsub _ hm), dumped := h.dumped
      noRemove := fun m hm => h.noRemove m (hsub _ hm), covered := ?covered, syncing := fun _ => hphase
      sync := fun _ => Or.inl hsess, joins := ?joins, moved := ?moved, asked := ?asked, seen := ?seen
      known := fun _ => hsess }
  case cached => rw [hch]; exact h.cached
  case covered =>
    intro hp c hc hn
    rw [hch]
    exact (h.covered_pop hi hp hc hn).resolve_right fun hmsg => by cases hmsg
  case joins =>
    intro _ hl
    rw [hch] at hl
    obtain ⟨cid, hcid⟩ := Option.ne_none_iff_exists'.1 hl
    rw [hrun]
    exact (onServerSync_of_some (htarget ▸ hcid) sync).1
  case moved =>
    intro hjoined
    cases hl : p.run.session.channels.lookup target with
    | some cid =>
      obtain ⟨c, hc, hn, rfl⟩ := h.cached target cid hl
      exact ⟨c, hc, hn, _, List.mem_cons_self, sync.getSession, (onServerSync_of_some (htarget ▸ hl) sync).2⟩
    | none =>
      have hold : p.run.session.channelJoined = true := by
        rw [← (onServerSync_of_none (htarget ▸ hl) sync).1, ← hrun]
        exact hjoined
      obtain ⟨c, hc, hn, hm⟩ := h.moved hold
      exact ⟨c, hc, hn, sentMove_step hm _⟩
  case asked =>
    intro _ hl
    rw [hch] at hl
    refine Or.inl (hsent _ ?_)
    rw [← htarget]
    exact (onServerSync_of_none (htarget ▸ hl) sync).2
  case seen =>
    intro hh
    rw [hch]
    rcases handledChannel_step hh with hh | ⟨m, hm, -⟩
    · exact h.seen hh
    · cases hm

/-- the client handles the oldest message sent to it -/
theorem conn_deliver {target : String} (htarget : client.targetChannel = target) (h : Conn target channels p)
    {msg : ControlPacket} {rest : List ControlPacket} (hi : p.inbox = msg :: rest) :
    Conn target channels (Peer.take client { p with inbox := rest } (.control msg)) := by
  by_cases hq : msg.quiet = true
  · exact conn_take_quiet (conn_pop_quiet h hi hq) hq
  · have hmem : msg ∈ p.inbox := by rw [hi]; exact List.mem_cons_self
    cases msg with
    | channelState m =>
      rcases h.queued m hmem with hn | ⟨c, -, rfl⟩
      · exact absurd (Option.isNone_iff_eq_none.2 hn) hq
      · exact conn_take_announce htarget h hi
    | serverSync m => exact conn_take_sync htarget h hi
    | channelRemove m => exact absurd hmem (h.noRemove m)
    | cryptSetup m => exact absurd rfl hq
    | userState m => exact absurd rfl hq
    | permissionDenied => exact absurd rfl hq
    | other => exact absurd rfl hq

end Events

/-! ## The whole net -/

/-- the channels of one name -/
def named (target : String) (channels : List Channel) : List Channel := channels.filter fun c => c.name = target

namespace Net

variable {ι : Type}

structure Inv (target : String) (initial : List Channel) (n : Net ι) : Prop where
  links : ∀ i, Conn target n.channels (n.peers i)
  grown : n.channels = initial ++ n.created
  unique : (named target n.channels).length ≤ 1

theorem inv_init {target : String} {initial : List Channel} (h : (named target initial).length ≤ 1)
    (zone : ι → SharedCockpitZone) : Inv target initial (Net.init initial zone) where
  links i := conn_init target initial (zone i)
  grown := by simp [Net.init]
  unique := h

/-- the client's session has met the others, whatever its connection still carries -/
theorem Inv.metIn {target : String} {initial : List Channel} {n : Net ι} (h : Inv target initial n) {i : ι}
    (hj : (n.peers i).run.session.channelJoined = true) : MetIn n.channels target (n.peers i).run := by
  obtain ⟨c, hc, hn, hm⟩ := (h.links i).moved hj
  refine ⟨hj, c, hc, hn, hm, ?_⟩
  intro c' hc' hn'
  have hin : ∀ d ∈ n.channels, d.name = target → d ∈ named target n.channels := by
    intro d hd hdn
    exact List.mem_filter.2 ⟨hd, by simpa using hdn⟩
  have hlen := h.unique
  cases hl : named target n.channels with
  | nil => rw [hl] at hin; exact absurd (hin c hc hn) List.not_mem_nil
  | cons d rest =>
    rw [hl] at hin hlen
    have hrest : rest = [] := List.length_eq_zero_iff.1 (by simpa using hlen)
    subst hrest
    rw [List.mem_singleton.1 (hin c hc hn), List.mem_singleton.1 (hin c' hc' hn')]

variable [DecidableEq ι] {target : String} {initial : List Channel} {n : Net ι}

theorem inv_setPeer (h : Inv target initial n) {i : ι} {p : Peer} (hp : Conn target n.channels p) :
    Inv target initial (n.setPeer i p) where
  links j := by
    by_cases hj : j = i
    · subst hj; simpa [setPeer] using hp
    · simpa [setPeer, Function.update_of_ne hj] using h.links j
  grown := h.grown
  unique := h.unique

/-- the server creates a channel on request: at the latest now there is one of the name that was asked for -/
theorem inv_create (h : Inv target initial n) {i : ι} {request : ControlPacket} {rest : List ControlPacket}
    {name : String} {parent : UInt32} (ho : (n.peers i).outbox = request :: rest)
    (hreq : request.creates = some (name, parent)) (hfree : ¬∃ c ∈ n.channels, c.name = name) (id : UInt32) :
    Inv target initial ((n.setPeer i { n.peers i with outbox := rest }).create ⟨id, name, parent⟩) where
  links j := by
    by_cases hj : j = i
    · subst hj
      have hout : ((n.peers j).hear ⟨id, name, parent⟩).outbox = request :: rest := by
        rw [← ho]; unfold Peer.hear Peer.push; split <;> rfl
      have hheard : ({ n.peers j with outbox := rest } : Peer).hear ⟨id, name, parent⟩ =
          { (n.peers j).hear ⟨id, name, parent⟩ with outbox := rest } := by
        unfold Peer.hear Peer.push; dsimp only; split <;> rfl
      have hthere : request = createRequest target → ∃ c ∈ n.channels ++ [⟨id, name, parent⟩], c.name = target := by
        rintro rfl
        have hname : name = target := by
          have := congrArg Prod.fst (Option.some.inj hreq)
          exact this.symm
        exact ⟨⟨id, name, parent⟩, by simp, hname⟩
      simpa [create, setPeer, hheard] using conn_served (conn_hear (h.links j) ⟨id, name, parent⟩) hout hthere
    · simpa [create, setPeer, Function.update_of_ne hj] using conn_hear (h.links j) ⟨id, name, parent⟩
  grown := by simp [create, setPeer, h.grown]
  unique := by
    by_cases hn : name = target
    · have hnone : named target n.channels = [] := by
        refine List.filter_eq_nil_iff.2 fun c hc hct => hfree ⟨c, hc, ?_⟩
        rw [hn]; simpa using hct
      have : named target (n.channels ++ [⟨id, name, parent⟩]) = [⟨id, name, parent⟩] := by
        unfold named at hnone ⊢
        rw [List.filter_append, hnone]
        simp [hn]
      simp [create, setPeer, this]
    · have : named target (n.channels ++ [⟨id, name, parent⟩]) = named target n.channels := by
        unfold named
        rw [List.filter_append]
        simp [hn]
      simp only [create, setPeer, this]
      exact h.unique

theorem inv_step {client : ι → MumbleVoipClient} (hclient : ∀ i, (client i).targetChannel = target)
    (h : Inv target initial n) (e : NetEvent ι) : Inv target initial (n.step client e) := by
  cases e with
  | connect i =>
    unfold step; dsimp only
    split
    · next hp => exact inv_setPeer h (conn_connect (h.links i) hp)
    · exact h
  | sendChannel i =>
    unfold step; dsimp only
    split
    · next hp => exact inv_setPeer h (conn_sendChannel (h.links i) hp)
    · exact h
  | sendSync i session =>
    unfold step; dsimp only
    split
    · next hp => exact inv_setPeer h (conn_sendSync (h.links i) hp session)
    · exact h
  | notify i msg =>
    unfold step; dsimp only
    split_ifs with hq
    · exact inv_setPeer h (conn_push_quiet (h.links i) hq)
    · exact h
  | serve i id =>
    unfold step; dsimp only
    split
    · exact h
    · next request rest ho =>
      split_ifs with hid
      · exact h
      · split
        · next hnone =>
          refine inv_setPeer h (conn_served (h.links i) ho ?_)
          rintro rfl
          cases hnone
        · next name parent hreq =>
          split_ifs with hname
          · have hserved : Inv target initial (n.setPeer i { n.peers i with outbox := rest }) := by
              refine inv_setPeer h (conn_served (h.links i) ho ?_)
              rintro rfl
              obtain ⟨c, hc, hcn⟩ := hname
              have : target = name := congrArg Prod.fst (Option.some.inj hreq)
              exact ⟨c, hc, hcn.trans this.symm⟩
            exact inv_setPeer hserved (conn_push_quiet (hserved.links i) rfl)
          · exact inv_create h ho hreq hname id
  | deliver i =>
    unfold step; dsimp only
    split
    · exact h
    · next hi => exact inv_setPeer h (conn_deliver (hclient i) (h.links i) hi)
  | zoneCheck i => exact inv_setPeer h (conn_take_quiet (h.links i) rfl)
  | cockpitZone i zone => exact inv_setPeer h (conn_take_quiet (h.links i) rfl)

end Net

/-! ## Rendezvous -/

/-- clients with one target channel meet in one channel of that name, whatever the interleaving -/
theorem rendezvous {ι : Type} [DecidableEq ι] (client : ι → MumbleVoipClient) (target : String)
    (hclient : ∀ i, (client i).targetChannel = target) (initial : List Channel)
    (hinitial : (named target initial).length ≤ 1) (zone : ι → SharedCockpitZone) (es : List (NetEvent ι)) :
    let n := Runs.run (Net.step client) (Net.init initial zone) es
    n.channels = initial ++ n.created ∧ (named target n.channels).length ≤ 1 ∧
    (∀ i, (n.peers i).run.HandledSync → (n.peers i).run.HandledChannel target →
      MetIn n.channels target (n.peers i).run) ∧
    (∀ i, (n.peers i).inbox = [] → (n.peers i).outbox = [] →
      (n.peers i).phase = .synced ∨ (n.peers i).run.HandledSync → MetIn n.channels target (n.peers i).run) := by
  intro n
  have h : Net.Inv target initial n :=
    Runs.run_inv (P := Net.Inv target initial) (fun _ e hn => Net.inv_step hclient hn e)
      (Net.inv_init hinitial zone) es
  refine ⟨h.grown, h.unique, ?_, ?_⟩
  · intro i hsync hchannel
    have hi := h.links i
    exact h.metIn (hi.joins (hi.known hsync) (hi.seen hchannel))
  · intro i hin hout hsynced
    have hi := h.links i
    have hphase : (n.peers i).phase = .synced := by
      rcases hsynced with hp | hs
      · exact hp
      · exact hi.syncing (Or.inl (hi.known hs))
    have hknown : (n.peers i).run.session.mySession ≠ none := by
      rcases hi.sync hphase with hs | ⟨m, hm⟩
      · exact hs
      · rw [hin] at hm; cases hm
    -- with nothing in flight the creation it asked for has been answered and announced
    have hcached : (n.peers i).run.session.channels.lookup target ≠ none := by
      intro hl
      rcases hi.asked hknown hl with ha | ⟨c, hc, hn⟩
      · rw [hout] at ha; cases ha
      · rcases hi.covered (by rw [hphase]; simp) c hc hn with h1 | h1 | ⟨rest, hr, -⟩
        · exact h1 hl
        · rw [hin] at h1; cases h1
        · rw [hphase] at hr; cases hr
    exact h.metIn (hi.joins hknown hcached)

/-- two IC clients and an empty server: both ask for the channel, one request is denied, both join it -/
theorem rendezvous_two :
    let client : Bool → MumbleVoipClient := fun b => ⟨if b then "A" else "B", "ctx", .ic, "Crew", none⟩
    let n := Runs.run (Net.step client) (Net.init [] fun _ => .inFbo)
      [.connect true, .connect false, .sendSync true 1, .sendSync false 2, .deliver true, .deliver false,
        .serve true 7, .serve false 8, .serve true 7, .serve false 8, .deliver true, .deliver false,
        .serve true 8, .serve false 8, .deliver false]
    named "Crew" n.channels = [⟨7, "Crew", 0⟩] ∧ MetIn n.channels "Crew" (n.peers true).run ∧
      MetIn n.channels "Crew" (n.peers false).run := by
  have h := rendezvous (fun b : Bool => (⟨if b then "A" else "B", "ctx", .ic, "Crew", none⟩ : MumbleVoipClient)) "Crew"
    (fun _ => rfl) [] (by decide) (fun _ => .inFbo)
    [.connect true, .connect false, .sendSync true 1, .sendSync false 2, .deliver true, .deliver false,
      .serve true 7, .serve false 8, .serve true 7, .serve false 8, .deliver true, .deliver false,
      .serve true 8, .serve false 8, .deliver false]
  refine ⟨by decide, ?_, ?_⟩
  · exact h.2.2.2 true (by decide) (by decide) (Or.inl (by decide))
  · exact h.2.2.2 false (by decide) (by decide) (Or.inl (by decide))

end MumbledFlight

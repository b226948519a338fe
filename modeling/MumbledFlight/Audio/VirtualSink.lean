/-
The virtual sink of the radio relay (`create_linux_sink`, `pw_null_sink_loop`). Every call starts a loop on a thread of
its own, with a connection of its own to PipeWire, and waits for it: the loop first reads what the registry holds, then
creates the sink if it was not among it, and lets the caller know once it has seen the sink. Only a success is
remembered, so calls that time out leave their loops behind.

PipeWire is the environment. What is used of it: a connection is told of the globals there are and of every later one,
in order, and the answer to `sync` comes after those it was told of before. When it answers, when it makes a node that
was asked for, and which globals other programs add and remove, is open. A loop may fail anywhere before its second
phase, a caller may time out at any point at which it has not been told.

Results, for every registry and every order of all this:
- `virtual_sink_ready`: a call that succeeds returns the sink's monitor, and the sink was registered at some moment
  before; from then on no call starts a loop.
- `virtual_sink_once`: a loop that connects while the sink is registered never creates it; and if calls start a loop only
  while the others are settled, the process has one sink at most. `overlapping_calls` has two.
-/
import MumbledFlight.Audio.Linking

namespace MumbledFlight

/-! ## The loop -/

def virtualSinkName : String := "MumblingRadio"

def sinkMonitor : String := virtualSinkName ++ ".monitor"

/-- what the sink is created with -/
def sinkProps : HashMap String String := HashMap.ofList
  [("media.class", "Audio/Sink"), ("audio.rate", "48000"), ("audio.channels", "2"), ("audio.format", "F32LE"),
    ("factory.name", "support.null-audio-sink"), ("node.name", virtualSinkName),
    ("node.description", virtualSinkName)]

/-- the test of the registry listener -/
def Global.isVirtualSink (global : Global) : Bool :=
  match global.props with
  | none => false
  | some props => props.lookup "media.class" = some "Audio/Sink" && props.lookup "node.name" = some virtualSinkName

/-- what PipeWire tells a connection -/
inductive Announcement where
  | global (global : Global)
  /-- the answer to `sync` -/
  | done

inductive SinkPhase where
  /-- not yet connected -/
  | starting
  /-- the first `mainloop.run` -/
  | dumping
  /-- the second, which never returns -/
  | running
  | failed
deriving DecidableEq

inductive SinkNode where
  | absent
  /-- `create_object` has returned its proxy -/
  | requested
  | live (id : UInt32)
deriving DecidableEq

/-- a `pw_null_sink_loop`, and the call that waits for it -/
structure SinkLoop where
  phase : SinkPhase
  /-- told and not yet handled, oldest first -/
  inbox : List Announcement
  synced : Bool
  sinkSeen : Bool
  /-- the listener still holds the sender -/
  tx : Bool
  /-- the message is in the channel -/
  ready : Bool
  /-- the caller is in `recv_timeout` -/
  waiting : Bool
  node : SinkNode

namespace SinkLoop

def new : SinkLoop := ⟨.starting, [], false, false, true, false, true, .absent⟩

def connect (registry : List Global) (l : SinkLoop) : SinkLoop :=
  if l.phase = .starting then { l with phase := .dumping, inbox := registry.map .global } else l

def sync (l : SinkLoop) : SinkLoop :=
  if l.phase = .dumping ∧ l.synced = false then { l with inbox := l.inbox ++ [.done], synced := true } else l

def announce (global : Global) (l : SinkLoop) : SinkLoop :=
  if l.phase = .dumping ∨ l.phase = .running then { l with inbox := l.inbox ++ [.global global] } else l

/-- the registry listener; the sender is taken, so it is used once -/
def onGlobal (l : SinkLoop) (global : Global) : SinkLoop :=
  if global.isVirtualSink then { l with sinkSeen := true, ready := l.ready || l.tx, tx := false } else l

/-- the end of the first phase; `creates` says whether `create_object` succeeds -/
def onDone (creates : Bool) (l : SinkLoop) : SinkLoop :=
  if l.phase = .dumping then
    if l.sinkSeen then { l with phase := .running }
    else if creates then { l with phase := .running, node := .requested }
    else { l with phase := .failed, inbox := [], tx := false }
  else l

def deliver (creates : Bool) (l : SinkLoop) : SinkLoop :=
  match l.inbox with
  | [] => l
  | .global global :: rest => { l with inbox := rest }.onGlobal global
  | .done :: rest => { l with inbox := rest }.onDone creates

/-- an error of the set-up -/
def fail (l : SinkLoop) : SinkLoop :=
  if l.phase = .starting ∨ l.phase = .dumping then { l with phase := .failed, inbox := [], tx := false } else l

def answered (l : SinkLoop) : SinkLoop := { l with waiting := false }

/-- the node of this id is gone -/
def removed (id : UInt32) (l : SinkLoop) : SinkLoop := if l.node = .live id then { l with node := .absent } else l

end SinkLoop

/-! ## Calls and PipeWire -/

structure SinkWorld where
  registry : List Global
  loops : List SinkLoop
  /-- the static `SINK` -/
  cache : Option String
  /-- what `create_linux_sink` has returned so far -/
  answers : List (Option String)

inductive SinkEvent where
  /-- another program's -/
  | add (global : Global)
  | remove (id : UInt32)
  | call
  | connect (i : ℕ)
  | sync (i : ℕ)
  | deliver (i : ℕ) (creates : Bool)
  | fail (i : ℕ)
  /-- PipeWire makes the node of loop i -/
  | created (i : ℕ) (id : UInt32)
  | ready (i : ℕ)
  | timeout (i : ℕ)

namespace SinkWorld

def init (registry : List Global) : SinkWorld := ⟨registry, [], none, []⟩

def register (w : SinkWorld) (global : Global) : SinkWorld :=
  { w with registry := w.registry ++ [global], loops := w.loops.map (SinkLoop.announce global) }

def onLoop (w : SinkWorld) (i : ℕ) (f : SinkLoop → SinkLoop) : SinkWorld := { w with loops := w.loops.modify i f }

def step (w : SinkWorld) : SinkEvent → SinkWorld
  | .add global => w.register global
  | .remove id =>
    { w with
        registry := w.registry.filter fun global => global.id ≠ id
        loops := w.loops.map (SinkLoop.removed id) }
  | .call =>
    match w.cache with
    | some monitor => { w with answers := w.answers ++ [some monitor] }
    | none => { w with loops := w.loops ++ [.new] }
  | .connect i => w.onLoop i (SinkLoop.connect w.registry)
  | .sync i => w.onLoop i SinkLoop.sync
  | .deliver i creates => w.onLoop i (SinkLoop.deliver creates)
  | .fail i => w.onLoop i SinkLoop.fail
  | .created i id =>
    if w.loops[i]?.any fun l => l.node = .requested then
      (w.register ⟨id, .node, some sinkProps⟩).onLoop i fun l => { l with node := .live id }
    else w
  | .ready i =>
    if w.loops[i]?.any fun l => l.waiting && l.ready then
      { w.onLoop i SinkLoop.answered with
        cache := w.cache.or (some sinkMonitor), answers := w.answers ++ [some sinkMonitor] }
    else w
  | .timeout i =>
    if w.loops[i]?.any fun l => l.waiting && !l.ready then
      { w.onLoop i SinkLoop.answered with answers := w.answers ++ [none] }
    else w

end SinkWorld

/-! ## What a step does to a loop -/

namespace SinkLoop

/-- the ways one step changes one loop, from the registry before it to the registry after it -/
inductive Step (before after : List Global) : SinkLoop → SinkLoop → Prop where
  | same (l) : Step before after l l
  | connect (l) : Step before after l (l.connect before)
  | sync (l) : Step before after l l.sync
  | announce (l) (global) (h : global ∈ after) : Step before after l (l.announce global)
  | deliver (l creates) : Step before after l (l.deliver creates)
  | fail (l) : Step before after l l.fail
  | created (l global) (h : global ∈ after) (hsink : global.isVirtualSink = true) (hnode : l.node = .requested) :
    Step before after l { l.announce global with node := .live global.id }
  | answered (l) : Step before after l l.answered
  | removed (l id) : Step before after l (l.removed id)

/-- nothing of the loop is open but the sink's arrival -/
def Settled (l : SinkLoop) : Prop := l.phase = .failed ∨ l.phase = .running ∧ l.node ≠ .requested

/-- by the end of the first phase the listener has seen the sink -/
def SeesSink (l : SinkLoop) : Prop :=
  l.sinkSeen = true ∨ ∃ earlier global later, l.inbox = earlier ++ .global global :: later ∧ .done ∉ earlier ∧
    global.isVirtualSink = true

/-- the loop has created no sink and will not -/
def Spared (l : SinkLoop) : Prop :=
  l.node = .absent ∧ (l.phase = .dumping ∧ l.SeesSink ∨ l.phase = .running ∨ l.phase = .failed)

/-- a sink is created at the end of the first phase -/
def Early (l : SinkLoop) : Prop := l.phase ≠ .running → l.node = .absent

/-- the loop has been told of the sink -/
def Told (l : SinkLoop) : Prop :=
  l.ready = true ∨ ∃ global, .global global ∈ l.inbox ∧ global.isVirtualSink = true

variable {before after : List Global} {l l' : SinkLoop}

theorem SeesSink.told {tail : List Announcement} (h : l.SeesSink) :
    SeesSink { l with inbox := l.inbox ++ tail } := by
  rcases h with h | ⟨earlier, global, later, hinbox, hdone, hsink⟩
  · exact Or.inl h
  · refine Or.inr ⟨earlier, global, later ++ tail, ?_, hdone, hsink⟩
    simp [hinbox]

/-- the listener has it, or it is still to come -/
theorem SeesSink.handled {global : Global} {rest : List Announcement} (hinbox : l.inbox = .global global :: rest)
    (h : l.SeesSink) : SeesSink ({ l with inbox := rest }.onGlobal global) := by
  rcases h with h | ⟨earlier, global', later, hsplit, hdone, hsink⟩
  · refine Or.inl ?_
    unfold onGlobal
    split_ifs
    · rfl
    · exact h
  · cases earlier with
    | nil =>
      rw [hinbox, List.nil_append, List.cons.injEq, Announcement.global.injEq] at hsplit
      refine Or.inl ?_
      rw [onGlobal, hsplit.1, if_pos hsink]
    | cons a earlier =>
      rw [hinbox, List.cons_append, List.cons.injEq] at hsplit
      have hrest : SeesSink { l with inbox := rest } :=
        Or.inr ⟨earlier, global', later, hsplit.2, fun h => hdone (List.mem_cons_of_mem a h), hsink⟩
      unfold onGlobal
      split_ifs
      · exact Or.inl rfl
      · exact hrest

/-- no sink is on the way behind the end of the first phase -/
theorem SeesSink.of_done {rest : List Announcement} (hinbox : l.inbox = .done :: rest) (h : l.SeesSink) :
    l.sinkSeen = true := by
  rcases h with h | ⟨earlier, global, later, hsplit, hdone, -⟩
  · exact h
  · cases earlier with
    | nil =>
      rw [hinbox, List.nil_append, List.cons.injEq] at hsplit
      exact Announcement.noConfusion hsplit.1
    | cons a earlier =>
      rw [hinbox, List.cons_append, List.cons.injEq] at hsplit
      exact absurd (hsplit.1 ▸ List.mem_cons_self) hdone

theorem onGlobal_phase (l : SinkLoop) (global : Global) : (l.onGlobal global).phase = l.phase := by
  unfold onGlobal
  split_ifs <;> rfl

theorem onGlobal_node (l : SinkLoop) (global : Global) : (l.onGlobal global).node = l.node := by
  unfold onGlobal
  split_ifs <;> rfl

/-! ### Loops that create nothing -/

theorem spared_deliver (h : l.Spared) (creates : Bool) : (l.deliver creates).Spared := by
  obtain ⟨hnode, hphase⟩ := h
  unfold deliver
  split
  · exact ⟨hnode, hphase⟩
  · next global rest hinbox =>
    refine ⟨(onGlobal_node _ _).trans hnode, ?_⟩
    rw [onGlobal_phase]
    exact hphase.imp_left fun hdump => ⟨hdump.1, hdump.2.handled hinbox⟩
  · next rest hinbox =>
    unfold onDone
    dsimp only
    rcases hphase with ⟨hdump, hsees⟩ | hlater
    · rw [if_pos hdump, if_pos (hsees.of_done hinbox)]
      exact ⟨hnode, Or.inr (Or.inl rfl)⟩
    · rw [if_neg (by rcases hlater with h | h <;> simp [h])]
      exact ⟨hnode, Or.inr hlater⟩

theorem Spared.step (h : l.Spared) (hstep : Step before after l l') : l'.Spared := by
  cases hstep with
  | same => exact h
  | connect =>
    unfold connect
    split_ifs with hstart
    · rcases h.2 with ⟨hdump, -⟩ | hrun | hfail
      · exact absurd (hdump.symm.trans hstart) (by decide)
      · exact absurd (hrun.symm.trans hstart) (by decide)
      · exact absurd (hfail.symm.trans hstart) (by decide)
    · exact h
  | sync =>
    unfold sync
    split_ifs
    · exact ⟨h.1, h.2.imp_left fun hdump => ⟨hdump.1, hdump.2.told⟩⟩
    · exact h
  | announce =>
    unfold announce
    split_ifs
    · exact ⟨h.1, h.2.imp_left fun hdump => ⟨hdump.1, hdump.2.told⟩⟩
    · exact h
  | deliver creates => exact spared_deliver h creates
  | fail =>
    unfold fail
    split_ifs
    · exact ⟨h.1, Or.inr (Or.inr rfl)⟩
    · exact h
  | created _ _ _ hnode => exact absurd (h.1.symm.trans hnode) SinkNode.noConfusion
  | answered => exact h
  | removed id =>
    unfold removed
    rw [if_neg (by rw [h.1]; exact SinkNode.noConfusion)]
    exact h

/-! ### Loops that may create a sink -/

/-- a delivery creates a sink only at the end of a first phase that has seen none -/
theorem deliver_cases (l : SinkLoop) (creates : Bool) :
    ((l.deliver creates).phase = l.phase ∧ (l.deliver creates).node = l.node) ∨
    (l.phase = .dumping ∧ (l.deliver creates).phase = .failed ∧ (l.deliver creates).node = l.node) ∨
    (l.phase = .dumping ∧ (l.deliver creates).phase = .running ∧
      ((l.deliver creates).node = l.node ∨ (l.deliver creates).node = .requested ∧ ¬l.SeesSink)) := by
  unfold deliver
  split
  · exact Or.inl ⟨rfl, rfl⟩
  · exact Or.inl ⟨onGlobal_phase _ _, onGlobal_node _ _⟩
  · next rest hinbox =>
    have hseen : l.SeesSink → l.sinkSeen = true := fun h => h.of_done hinbox
    unfold onDone
    dsimp only
    split_ifs with hdump hsink
    · exact Or.inr (Or.inr ⟨hdump, rfl, Or.inl rfl⟩)
    · exact Or.inr (Or.inr ⟨hdump, rfl, Or.inr ⟨rfl, fun h => hsink (hseen h)⟩⟩)
    · exact Or.inr (Or.inl ⟨hdump, rfl, rfl⟩)
    · exact Or.inl ⟨rfl, rfl⟩

/-- what no step changes but the end of the first phase, a failure, a connection, the sink's arrival and its removal -/
theorem step_cases (hstep : Step before after l l') :
    (l'.phase = l.phase ∧ l'.node = l.node) ∨
    (l.phase = .starting ∧ l' = l.connect before ∧ l'.phase = .dumping ∧ l'.node = l.node) ∨
    ((l.phase = .starting ∨ l.phase = .dumping) ∧ l'.phase = .failed ∧ l'.node = l.node) ∨
    (l.phase = .dumping ∧ l'.phase = .running ∧ (l'.node = l.node ∨ l'.node = .requested ∧ ¬l.SeesSink)) ∨
    (l.node = .requested ∧ l'.phase = l.phase ∧
      ∃ global ∈ after, global.isVirtualSink = true ∧ l'.node = .live global.id) ∨
    ((∃ id, l.node = .live id) ∧ l'.phase = l.phase ∧ l'.node = .absent) := by
  cases hstep with
  | same => exact Or.inl ⟨rfl, rfl⟩
  | connect =>
    by_cases hstart : l.phase = .starting
    · refine Or.inr (Or.inl ⟨hstart, rfl, ?_, ?_⟩)
      · rw [connect, if_pos hstart]
      · rw [connect, if_pos hstart]
    · rw [connect, if_neg hstart]
      exact Or.inl ⟨rfl, rfl⟩
  | sync =>
    unfold sync
    split_ifs <;> exact Or.inl ⟨rfl, rfl⟩
  | announce =>
    unfold announce
    split_ifs <;> exact Or.inl ⟨rfl, rfl⟩
  | deliver creates =>
    rcases deliver_cases l creates with h | ⟨hdump, h⟩ | h
    · exact Or.inl h
    · exact Or.inr (Or.inr (Or.inl ⟨Or.inr hdump, h⟩))
    · exact Or.inr (Or.inr (Or.inr (Or.inl h)))
  | fail =>
    by_cases hearly : l.phase = .starting ∨ l.phase = .dumping
    · rw [fail, if_pos hearly]
      exact Or.inr (Or.inr (Or.inl ⟨hearly, rfl, rfl⟩))
    · rw [fail, if_neg hearly]
      exact Or.inl ⟨rfl, rfl⟩
  | created global hmem hsink hnode =>
    refine Or.inr (Or.inr (Or.inr (Or.inr (Or.inl ⟨hnode, ?_, global, hmem, hsink, rfl⟩))))
    unfold announce
    split_ifs <;> rfl
  | answered => exact Or.inl ⟨rfl, rfl⟩
  | removed id =>
    unfold removed
    split_ifs with hlive
    · exact Or.inr (Or.inr (Or.inr (Or.inr (Or.inr ⟨⟨id, hlive⟩, rfl, rfl⟩))))
    · exact Or.inl ⟨rfl, rfl⟩

theorem Early.step (h : l.Early) (hstep : Step before after l l') : l'.Early := by
  intro hrun
  rcases step_cases hstep with ⟨hphase, hnode⟩ | ⟨hstart, -, -, hnode⟩ | ⟨hearly, -, hnode⟩ | ⟨-, hrun', -⟩ |
    ⟨hreq, hphase, -⟩ | ⟨-, -, hnode⟩
  · rw [hnode]
    exact h (hphase ▸ hrun)
  · rw [hnode]
    exact h (by rw [hstart]; decide)
  · rw [hnode]
    exact h (by rcases hearly with h | h <;> rw [h] <;> decide)
  · exact absurd hrun' hrun
  · exact absurd ((h (hphase ▸ hrun)).symm.trans hreq) SinkNode.noConfusion
  · exact hnode

theorem Settled.step (h : l.Settled) (hstep : Step before after l l') : l'.Settled := by
  have hstart : l.phase ≠ .starting ∧ l.phase ≠ .dumping := by
    rcases h with h | ⟨h, -⟩ <;> rw [h] <;> decide
  rcases step_cases hstep with ⟨hphase, hnode⟩ | ⟨h', -⟩ | ⟨h', -⟩ | ⟨h', -⟩ | ⟨hreq, hphase, _, -, -, hlive⟩ |
    ⟨-, hphase, hgone⟩
  · unfold Settled
    rwa [hphase, hnode]
  · exact absurd h' hstart.1
  · exact (h'.elim hstart.1 hstart.2).elim
  · exact absurd h' hstart.2
  · refine h.imp (fun hfail => hphase.trans hfail) fun hrun => ⟨hphase.trans hrun.1, ?_⟩
    rw [hlive]
    exact SinkNode.noConfusion
  · refine h.imp (fun hfail => hphase.trans hfail) fun hrun => ⟨hphase.trans hrun.1, ?_⟩
    rw [hgone]
    exact SinkNode.noConfusion

/-- a loop that comes to have a node was at the end of its first phase, and had seen no sink -/
theorem gained (habsent : l.node = .absent) (hstep : Step before after l l') (hgained : l'.node ≠ .absent) :
    l.phase = .dumping ∧ ¬l.SeesSink := by
  have hne : l'.node ≠ l.node := fun h => hgained (h.trans habsent)
  rcases step_cases hstep with ⟨-, hnode⟩ | ⟨-, -, -, hnode⟩ | ⟨-, -, hnode⟩ | ⟨hdump, -, hnode | ⟨-, hsees⟩⟩ |
    ⟨hreq, -⟩ | ⟨-, -, hgone⟩
  · exact absurd hnode hne
  · exact absurd hnode hne
  · exact absurd hnode hne
  · exact absurd hnode hne
  · exact ⟨hdump, hsees⟩
  · exact absurd (habsent.symm.trans hreq) SinkNode.noConfusion
  · exact absurd hgone hgained

theorem seesSink_connect {global : Global} (hmem : global ∈ before) (hsink : global.isVirtualSink = true)
    (hstart : l.phase = .starting) : (l.connect before).SeesSink := by
  obtain ⟨earlier, later, hsplit⟩ := List.append_of_mem hmem
  refine Or.inr ⟨earlier.map .global, global, later.map .global, ?_, ?_, hsink⟩
  · rw [connect, if_pos hstart, hsplit, List.map_append, List.map_cons]
  · rw [List.mem_map]
    rintro ⟨_, _, h⟩
    exact Announcement.noConfusion h

/-- a loop that is about to connect to a registry with the sink -/
theorem spared_of_starting (h : l.Early) (hstart : l.phase = .starting) {global : Global} (hmem : global ∈ before)
    (hsink : global.isVirtualSink = true) (hstep : Step before after l l') : l'.phase = .starting ∨ l'.Spared := by
  have habsent : l.node = .absent := h (by rw [hstart]; decide)
  rcases step_cases hstep with ⟨hphase, -⟩ | ⟨-, hconnect, hdump, hnode⟩ | ⟨-, hfail, hnode⟩ | ⟨hdump, -⟩ | ⟨hreq, -⟩ |
    ⟨-, hphase, -⟩
  · exact Or.inl (hphase.trans hstart)
  · refine Or.inr ⟨hnode.trans habsent, Or.inl ⟨hdump, ?_⟩⟩
    rw [hconnect]
    exact seesSink_connect hmem hsink hstart
  · exact Or.inr ⟨hnode.trans habsent, Or.inr (Or.inr hfail)⟩
  · exact absurd (hstart.symm.trans hdump) (by decide)
  · exact absurd (habsent.symm.trans hreq) SinkNode.noConfusion
  · exact Or.inl (hphase.trans hstart)

/-- a node that is left is not the one removed -/
theorem removed_live {id id' : UInt32} (h : (l.removed id).node = .live id') : l.node = .live id' ∧ id' ≠ id := by
  unfold removed at h
  split_ifs at h with hlive
  refine ⟨h, ?_⟩
  rintro rfl
  exact hlive h

/-! ### Loops that have been told -/

theorem told_deliver {creates : Bool} (h : (l.deliver creates).Told) : l.Told := by
  unfold deliver at h
  split at h
  · exact h
  · next global rest hinbox =>
    have hhead : Announcement.global global ∈ l.inbox := hinbox ▸ List.mem_cons_self
    have htail : ∀ a ∈ rest, a ∈ l.inbox := fun a ha => hinbox ▸ List.mem_cons_of_mem _ ha
    unfold onGlobal at h
    split_ifs at h with hsink
    · exact Or.inr ⟨global, hhead, hsink⟩
    · exact h.imp_right fun ⟨global', hmem, hsink'⟩ => ⟨global', htail _ hmem, hsink'⟩
  · next rest hinbox =>
    have htail : ∀ a ∈ rest, a ∈ l.inbox := fun a ha => hinbox ▸ List.mem_cons_of_mem _ ha
    have hrest : Told { l with inbox := rest } → l.Told :=
      Or.imp_right fun ⟨global, hmem, hsink⟩ => ⟨global, htail _ hmem, hsink⟩
    unfold onDone at h
    split_ifs at h
    · exact hrest h
    · exact hrest h
    · exact Or.inl (h.resolve_right fun ⟨_, hmem, _⟩ => absurd hmem List.not_mem_nil)
    · exact hrest h

theorem told_announce {global : Global} (h : (l.announce global).Told) : l.Told ∨ global.isVirtualSink = true := by
  unfold announce at h
  split_ifs at h
  · rcases h with h | ⟨global', hmem, hsink⟩
    · exact Or.inl (Or.inl h)
    · rcases List.mem_append.1 hmem with hmem | hmem
      · exact Or.inl (Or.inr ⟨global', hmem, hsink⟩)
      · rw [List.mem_singleton, Announcement.global.injEq] at hmem
        exact Or.inr (hmem ▸ hsink)
  · exact Or.inl h

/-- a loop is told of what is registered -/
theorem told_step (hstep : Step before after l l') (h : l'.Told) :
    l.Told ∨ ∃ global, (global ∈ before ∨ global ∈ after) ∧ global.isVirtualSink = true := by
  cases hstep with
  | same => exact Or.inl h
  | connect =>
    unfold connect at h
    split_ifs at h
    · rcases h with h | ⟨global, hmem, hsink⟩
      · exact Or.inl (Or.inl h)
      · obtain ⟨global', hmem', heq⟩ := List.mem_map.1 hmem
        rw [Announcement.global.injEq] at heq
        exact Or.inr ⟨global, Or.inl (heq ▸ hmem'), hsink⟩
    · exact Or.inl h
  | sync =>
    unfold sync at h
    split_ifs at h
    · refine Or.inl (h.imp_right fun ⟨global, hmem, hsink⟩ => ⟨global, ?_, hsink⟩)
      rcases List.mem_append.1 hmem with hmem | hmem
      · exact hmem
      · exact Announcement.noConfusion (List.mem_singleton.1 hmem)
    · exact Or.inl h
  | announce global hmem => exact (told_announce h).imp_right fun hsink => ⟨global, Or.inr hmem, hsink⟩
  | deliver => exact Or.inl (told_deliver h)
  | fail =>
    unfold fail at h
    split_ifs at h
    · exact Or.inl (Or.inl (h.resolve_right fun ⟨_, hmem, _⟩ => absurd hmem List.not_mem_nil))
    · exact Or.inl h
  | created global hmem => exact (told_announce h).imp_right fun hsink => ⟨global, Or.inr hmem, hsink⟩
  | answered => exact Or.inl h
  | removed id =>
    unfold removed at h
    split_ifs at h <;> exact Or.inl h

end SinkLoop

/-! ## What a step does to the world -/

namespace SinkWorld

theorem isVirtualSink_created (id : UInt32) : Global.isVirtualSink ⟨id, .node, some sinkProps⟩ = true := by
  have hprops : (sinkProps.lookup "media.class" = some "Audio/Sink" &&
      sinkProps.lookup "node.name" = some virtualSinkName) = true := by decide
  exact hprops

theorem onLoop_cases {w : SinkWorld} {i j : ℕ} {f : SinkLoop → SinkLoop} {l' : SinkLoop}
    (h : (w.onLoop i f).loops[j]? = some l') :
    ∃ l, w.loops[j]? = some l ∧ ((i = j ∧ l' = f l) ∨ l' = l) := by
  rw [onLoop, List.getElem?_modify, Option.map_eq_map, Option.map_eq_some_iff] at h
  obtain ⟨l, hl, hl'⟩ := h
  refine ⟨l, hl, ?_⟩
  split_ifs at hl' with hij
  · exact Or.inl ⟨hij, hl'.symm⟩
  · exact Or.inr hl'.symm

theorem onLoop_step {w : SinkWorld} {i j : ℕ} {f : SinkLoop → SinkLoop} {after : List Global}
    (hf : ∀ l, SinkLoop.Step w.registry after l (f l)) {l' : SinkLoop} (h : (w.onLoop i f).loops[j]? = some l') :
    ∃ l, w.loops[j]? = some l ∧ SinkLoop.Step w.registry after l l' := by
  obtain ⟨l, hl, ⟨-, rfl⟩ | rfl⟩ := onLoop_cases h
  · exact ⟨l, hl, hf l⟩
  · exact ⟨l', hl, .same l'⟩

/-- a loop is new, or it took a step -/
theorem loops_step (w : SinkWorld) (e : SinkEvent) {j : ℕ} {l' : SinkLoop} (h : (w.step e).loops[j]? = some l') :
    (e = .call ∧ w.cache = none ∧ j = w.loops.length ∧ l' = .new) ∨
    ∃ l, w.loops[j]? = some l ∧ SinkLoop.Step w.registry (w.step e).registry l l' := by
  cases e with
  | add global =>
    right
    simp only [step, register, List.getElem?_map, Option.map_eq_some_iff] at h
    obtain ⟨l, hl, rfl⟩ := h
    exact ⟨l, hl, .announce l global (by simp [step, register])⟩
  | remove id =>
    right
    simp only [step, List.getElem?_map, Option.map_eq_some_iff] at h
    obtain ⟨l, hl, rfl⟩ := h
    exact ⟨l, hl, .removed l id⟩
  | call =>
    cases hcache : w.cache with
    | some monitor =>
      simp only [step, hcache] at h
      exact Or.inr ⟨l', h, .same l'⟩
    | none =>
      simp only [step, hcache, List.getElem?_append, List.getElem?_singleton] at h
      split_ifs at h with hlt hlast
      · exact Or.inr ⟨l', h, .same l'⟩
      · exact Or.inl ⟨rfl, rfl, by omega, (Option.some.inj h).symm⟩
  | connect i => exact Or.inr (onLoop_step (fun l => .connect l) h)
  | sync i => exact Or.inr (onLoop_step (fun l => .sync l) h)
  | deliver i creates => exact Or.inr (onLoop_step (fun l => .deliver l creates) h)
  | fail i => exact Or.inr (onLoop_step (fun l => .fail l) h)
  | created i id =>
    right
    by_cases hreq : w.loops[i]?.any fun l => l.node = .requested
    · have hmem : (⟨id, .node, some sinkProps⟩ : Global) ∈ (w.step (.created i id)).registry := by
        simp [step, hreq, register, onLoop]
      rw [step, if_pos hreq] at h
      obtain ⟨announced, hannounced, hcases⟩ := onLoop_cases h
      simp only [register, List.getElem?_map, Option.map_eq_some_iff] at hannounced
      obtain ⟨l, hl, rfl⟩ := hannounced
      refine ⟨l, hl, ?_⟩
      rcases hcases with ⟨rfl, rfl⟩ | rfl
      · rw [hl, Option.any_some, decide_eq_true_eq] at hreq
        exact .created l _ hmem (isVirtualSink_created id) hreq
      · exact .announce l _ hmem
    · rw [step, if_neg hreq] at h
      exact ⟨l', h, .same l'⟩
  | ready i =>
    right
    rw [step] at h
    split_ifs at h
    · exact onLoop_step (fun l => .answered l) h
    · exact ⟨l', h, .same l'⟩
  | timeout i =>
    right
    rw [step] at h
    split_ifs at h
    · exact onLoop_step (fun l => .answered l) h
    · exact ⟨l', h, .same l'⟩

theorem length_step (w : SinkWorld) (e : SinkEvent) :
    (w.step e).loops.length = w.loops.length ∨ e = .call ∧ w.cache = none := by
  cases e with
  | call =>
    cases hcache : w.cache with
    | some monitor => exact Or.inl (by simp only [step, hcache])
    | none => exact Or.inr ⟨rfl, rfl⟩
  | created i id =>
    left
    rw [step]
    split_ifs <;> simp [onLoop, register]
  | ready i =>
    left
    rw [step]
    split_ifs <;> simp [onLoop]
  | timeout i =>
    left
    rw [step]
    split_ifs <;> simp [onLoop]
  | _ => exact Or.inl (by simp [step, onLoop, register])

/-- a global stays registered, unless its id is removed -/
theorem registry_step (w : SinkWorld) (e : SinkEvent) {global : Global} (h : global ∈ w.registry)
    (hkept : e ≠ .remove global.id) : global ∈ (w.step e).registry := by
  cases e with
  | add global' => exact List.mem_append_left _ h
  | remove id =>
    have hne : global.id ≠ id := fun hid => hkept (by rw [hid])
    exact List.mem_filter.2 ⟨h, decide_eq_true hne⟩
  | call =>
    rw [step]
    split <;> exact h
  | created i id =>
    rw [step]
    split_ifs
    · exact List.mem_append_left _ h
    · exact h
  | ready i =>
    rw [step]
    split_ifs <;> exact h
  | timeout i =>
    rw [step]
    split_ifs <;> exact h
  | _ => exact h

/-- a call returns what is cached, what its loop reported, or nothing -/
theorem answers_step (w : SinkWorld) (e : SinkEvent) :
    ((w.step e).cache = w.cache ∧ (w.step e).answers = w.answers) ∨
    (∃ monitor, w.cache = some monitor ∧ (w.step e).cache = w.cache ∧
      (w.step e).answers = w.answers ++ [some monitor]) ∨
    (∃ l ∈ w.loops, l.ready = true ∧ (w.step e).cache = w.cache.or (some sinkMonitor) ∧
      (w.step e).answers = w.answers ++ [some sinkMonitor]) ∨
    ((w.step e).cache = w.cache ∧ (w.step e).answers = w.answers ++ [none]) := by
  cases e with
  | call =>
    cases hcache : w.cache with
    | some monitor => exact Or.inr (Or.inl ⟨monitor, rfl, by simp only [step, hcache], by simp only [step, hcache]⟩)
    | none => exact Or.inl ⟨by simp only [step, hcache], by simp only [step, hcache]⟩
  | created i id =>
    left
    rw [step]
    split_ifs <;> exact ⟨rfl, rfl⟩
  | ready i =>
    rw [step]
    split_ifs with hready
    · obtain ⟨l, hl, htold⟩ := (Option.any_eq_true _ _).1 hready
      rw [Bool.and_eq_true] at htold
      exact Or.inr (Or.inr (Or.inl ⟨l, List.mem_of_getElem? hl, htold.2, rfl, rfl⟩))
    · exact Or.inl ⟨rfl, rfl⟩
  | timeout i =>
    rw [step]
    split_ifs
    · exact Or.inr (Or.inr (Or.inr ⟨rfl, rfl⟩))
    · exact Or.inl ⟨rfl, rfl⟩
  | _ => exact Or.inl ⟨rfl, rfl⟩

/-! ## Calls that succeed -/

/-- the sink has been registered at some moment -/
def Registered (registry : List Global) (es : List SinkEvent) : Prop :=
  ∃ before, before <+: es ∧ ∃ global ∈ (Runs.run step (init registry) before).registry, global.isVirtualSink = true

/-- no loop has been told of a sink, and no call has returned one, unless P -/
structure ReadyInv (P : Prop) (w : SinkWorld) : Prop where
  told : ∀ l ∈ w.loops, l.Told → P
  cache : ∀ monitor, w.cache = some monitor → monitor = sinkMonitor ∧ P
  answers : ∀ monitor, some monitor ∈ w.answers → monitor = sinkMonitor ∧ P

theorem ReadyInv.step {P : Prop} {w : SinkWorld} (h : ReadyInv P w) (e : SinkEvent)
    (hregistry : ∀ global, (global ∈ w.registry ∨ global ∈ (w.step e).registry) → global.isVirtualSink = true → P) :
    ReadyInv P (w.step e) := by
  have htold : ∀ l ∈ (w.step e).loops, l.Told → P := by
    intro l' hmem hl'
    obtain ⟨j, hj⟩ := List.mem_iff_getElem?.1 hmem
    rcases loops_step w e hj with ⟨-, -, -, rfl⟩ | ⟨l, hl, hstep⟩
    · rcases hl' with hready | ⟨_, hinbox, -⟩
      · exact absurd hready (by decide)
      · exact absurd hinbox List.not_mem_nil
    · rcases SinkLoop.told_step hstep hl' with hl' | ⟨global, hglobal, hsink⟩
      · exact h.told l (List.mem_of_getElem? hl) hl'
      · exact hregistry global hglobal hsink
  have hsnoc : ∀ {answer : Option String}, (w.step e).answers = w.answers ++ [answer] →
      (∀ monitor, answer = some monitor → monitor = sinkMonitor ∧ P) →
      ∀ monitor, some monitor ∈ (w.step e).answers → monitor = sinkMonitor ∧ P := by
    intro answer hanswers hanswer monitor hmem
    rw [hanswers, List.mem_append, List.mem_singleton] at hmem
    rcases hmem with hmem | hlast
    · exact h.answers monitor hmem
    · exact hanswer monitor hlast.symm
  rcases answers_step w e with ⟨hcache, hanswers⟩ | ⟨monitor, hmonitor, hcache, hanswers⟩ |
    ⟨l, hl, hready, hcache, hanswers⟩ | ⟨hcache, hanswers⟩
  · exact ⟨htold, hcache ▸ h.cache, hanswers ▸ h.answers⟩
  · refine ⟨htold, hcache ▸ h.cache, hsnoc hanswers fun monitor' hsame => ?_⟩
    exact h.cache monitor' (hmonitor.trans hsame)
  · have hP : P := h.told l hl (Or.inl hready)
    refine ⟨htold, fun monitor hsome => ?_, hsnoc hanswers fun monitor hsame => ⟨(Option.some.inj hsame).symm, hP⟩⟩
    rw [hcache, Option.or_eq_some_iff] at hsome
    rcases hsome with hsome | ⟨-, hsome⟩
    · exact h.cache monitor hsome
    · exact ⟨(Option.some.inj hsome).symm, hP⟩
  · exact ⟨htold, hcache ▸ h.cache, hsnoc hanswers fun _ hnone => nomatch hnone⟩

theorem ReadyInv.mono {P Q : Prop} {w : SinkWorld} (h : ReadyInv P w) (hPQ : P → Q) : ReadyInv Q w where
  told l hl htold := hPQ (h.told l hl htold)
  cache monitor hsome := (h.cache monitor hsome).imp_right hPQ
  answers monitor hmem := (h.answers monitor hmem).imp_right hPQ

theorem readyInv_run (registry : List Global) (es : List SinkEvent) :
    ReadyInv (Registered registry es) (Runs.run SinkWorld.step (init registry) es) := by
  induction es using List.reverseRecOn with
  | nil =>
    exact ⟨fun _ hl => absurd hl List.not_mem_nil, fun _ hsome => absurd hsome.symm (Option.some_ne_none _),
      fun _ hmem => absurd hmem List.not_mem_nil⟩
  | append_singleton es e ih =>
    have hmono : Registered registry es → Registered registry (es ++ [e]) :=
      fun ⟨before, hpre, hsink⟩ => ⟨before, hpre.trans (List.prefix_append _ _), hsink⟩
    rw [Runs.run_snoc]
    refine (ih.mono hmono).step e fun global hglobal hsink => ?_
    rcases hglobal with hglobal | hglobal
    · exact ⟨es, List.prefix_append _ _, global, hglobal, hsink⟩
    · refine ⟨es ++ [e], List.prefix_refl _, global, ?_, hsink⟩
      rwa [Runs.run_snoc]

/-- what is cached stays, and no loop is started -/
theorem cached_step {w : SinkWorld} {monitor : String} (h : w.cache = some monitor) (e : SinkEvent) :
    (w.step e).cache = some monitor ∧ (w.step e).loops.length = w.loops.length := by
  constructor
  · rcases answers_step w e with ⟨hcache, -⟩ | ⟨_, -, hcache, -⟩ | ⟨_, -, -, hcache, -⟩ | ⟨hcache, -⟩
    · exact hcache.trans h
    · exact hcache.trans h
    · rw [hcache, h, Option.some_or]
    · exact hcache.trans h
  · refine (length_step w e).resolve_right fun hcall => ?_
    exact nomatch hcall.2.symm.trans h

/-- a success is cached -/
theorem cached_of_answer (registry : List Global) (es : List SinkEvent) {monitor : String}
    (h : some monitor ∈ (Runs.run SinkWorld.step (init registry) es).answers) :
    (Runs.run SinkWorld.step (init registry) es).cache = some sinkMonitor := by
  have hcache : (Runs.run SinkWorld.step (init registry) es).cache.isSome = true := by
    refine Runs.run_inv (P := fun w : SinkWorld => some monitor ∈ w.answers → w.cache.isSome = true) ?_
      (fun hmem => absurd hmem List.not_mem_nil) es h
    intro w e ih hmem
    rcases answers_step w e with ⟨hcache, hanswers⟩ | ⟨_, hmonitor, hcache, -⟩ | ⟨_, -, -, hcache, -⟩ | ⟨hcache, hanswers⟩
    · rw [hcache]
      exact ih (hanswers ▸ hmem)
    · rw [hcache, hmonitor, Option.isSome_some]
    · rw [hcache, Option.isSome_or, Option.isSome_some, Bool.or_true]
    · rw [hanswers, List.mem_append, List.mem_singleton] at hmem
      rw [hcache]
      exact ih (hmem.resolve_right (Option.some_ne_none _))
  obtain ⟨monitor', hmonitor'⟩ := Option.isSome_iff_exists.1 hcache
  rw [hmonitor', ((readyInv_run registry es).cache monitor' hmonitor').1]

/-- Readiness. In every run, a call that succeeds returns the monitor of a sink that was registered at some moment
before; from then on no call starts a loop, and every call succeeds at once. -/
theorem virtual_sink_ready (registry : List Global) (es : List SinkEvent) :
    let w := Runs.run SinkWorld.step (init registry) es
    (∀ monitor, some monitor ∈ w.answers → monitor = "MumblingRadio.monitor" ∧ Registered registry es) ∧
    ((∃ monitor, some monitor ∈ w.answers) → ∀ after, let w' := Runs.run SinkWorld.step w after
      w'.loops.length = w.loops.length ∧
      w'.step .call = { w' with answers := w'.answers ++ [some "MumblingRadio.monitor"] }) := by
  intro w
  refine ⟨(readyInv_run registry es).answers, ?_⟩
  rintro ⟨monitor, hmem⟩ after
  have hcached := Runs.run_inv
    (P := fun w' : SinkWorld => w'.cache = some sinkMonitor ∧ w'.loops.length = w.loops.length)
    (fun w' e h => ⟨(cached_step h.1 e).1, (cached_step h.1 e).2.trans h.2⟩)
    ⟨cached_of_answer registry es hmem, rfl⟩ after
  refine ⟨hcached.2, ?_⟩
  rw [step, hcached.1]
  rfl

/-! ## One sink -/

/-- a call starts a loop only while the others are settled -/
def Spaced (w : SinkWorld) : SinkEvent → Prop
  | .call => w.cache = none → ∀ l ∈ w.loops, l.Settled
  | _ => True

/-- all loops but the last are settled; a node of ours is registered; and once there is one, no other loop is about to
create another -/
structure OneSink (w : SinkWorld) : Prop where
  early : ∀ l ∈ w.loops, l.Early
  settled : ∀ (i : ℕ) (l : SinkLoop), w.loops[i]? = some l → i + 1 < w.loops.length → l.Settled
  registered : ∀ l ∈ w.loops, ∀ id, l.node = .live id →
    ∃ global ∈ w.registry, global.id = id ∧ global.isVirtualSink = true
  spared : ∀ (i j : ℕ) (li lj : SinkLoop), i ≠ j → w.loops[i]? = some li → w.loops[j]? = some lj →
    li.node ≠ .absent → lj.phase = .starting ∨ lj.Spared

theorem early_step {w : SinkWorld} (h : ∀ l ∈ w.loops, l.Early) (e : SinkEvent) : ∀ l ∈ (w.step e).loops, l.Early := by
  intro l' hmem
  obtain ⟨j, hj⟩ := List.mem_iff_getElem?.1 hmem
  rcases loops_step w e hj with ⟨-, -, -, rfl⟩ | ⟨l, hl, hstep⟩
  · exact fun _ => rfl
  · exact (h l (List.mem_of_getElem? hl)).step hstep

theorem OneSink.settled_step {w : SinkWorld} (h : OneSink w) {e : SinkEvent} (hspaced : Spaced w e) (i : ℕ)
    (l' : SinkLoop) (hi : (w.step e).loops[i]? = some l') (hlast : i + 1 < (w.step e).loops.length) : l'.Settled := by
  rcases loops_step w e hi with ⟨rfl, hnone, rfl, -⟩ | ⟨l, hl, hstep⟩
  · have hlen : (w.step .call).loops.length = w.loops.length + 1 := by simp [SinkWorld.step, hnone]
    omega
  · refine SinkLoop.Settled.step ?_ hstep
    rcases length_step w e with hlen | ⟨rfl, hnone⟩
    · exact h.settled i l hl (hlen ▸ hlast)
    · exact hspaced hnone l (List.mem_of_getElem? hl)

theorem OneSink.registered_step {w : SinkWorld} (h : OneSink w) (e : SinkEvent) (l' : SinkLoop)
    (hmem : l' ∈ (w.step e).loops) (id : UInt32) (hlive : l'.node = .live id) :
    ∃ global ∈ (w.step e).registry, global.id = id ∧ global.isVirtualSink = true := by
  have hold : ∀ l ∈ w.loops, l.node = .live id → e ≠ .remove id →
      ∃ global ∈ (w.step e).registry, global.id = id ∧ global.isVirtualSink = true := by
    intro l hl hnode hkept
    obtain ⟨global, hglobal, hid, hsink⟩ := h.registered l hl id hnode
    exact ⟨global, registry_step w e hglobal (by rwa [hid]), hid, hsink⟩
  by_cases hremove : ∃ gone, e = .remove gone
  · obtain ⟨gone, rfl⟩ := hremove
    obtain ⟨l, hl, rfl⟩ := List.mem_map.1 hmem
    obtain ⟨hnode, hne⟩ := SinkLoop.removed_live hlive
    exact hold l hl hnode fun hsame => hne (SinkEvent.remove.inj hsame).symm
  · have hkept : e ≠ .remove id := fun hsame => hremove ⟨id, hsame⟩
    obtain ⟨j, hj⟩ := List.mem_iff_getElem?.1 hmem
    rcases loops_step w e hj with ⟨-, -, -, rfl⟩ | ⟨l, hl, hstep⟩
    · exact SinkNode.noConfusion hlive
    · have hl := List.mem_of_getElem? hl
      rcases SinkLoop.step_cases hstep with ⟨-, hnode⟩ | ⟨-, -, -, hnode⟩ | ⟨-, -, hnode⟩ | ⟨-, -, hnode | ⟨hreq, -⟩⟩ |
        ⟨-, -, global, hglobal, hsink, hnode⟩ | ⟨-, -, hgone⟩
      · exact hold l hl (hnode.symm.trans hlive) hkept
      · exact hold l hl (hnode.symm.trans hlive) hkept
      · exact hold l hl (hnode.symm.trans hlive) hkept
      · exact hold l hl (hnode.symm.trans hlive) hkept
      · exact SinkNode.noConfusion (hreq.symm.trans hlive)
      · exact ⟨global, hglobal, SinkNode.live.inj (hnode.symm.trans hlive), hsink⟩
      · exact SinkNode.noConfusion (hgone.symm.trans hlive)

/-- of two loops one is settled -/
theorem OneSink.settled_or {w : SinkWorld} (h : OneSink w) {i j : ℕ} {li lj : SinkLoop} (hne : i ≠ j)
    (hi : w.loops[i]? = some li) (hj : w.loops[j]? = some lj) : li.Settled ∨ lj.Settled := by
  obtain ⟨hilt, -⟩ := List.getElem?_eq_some_iff.1 hi
  obtain ⟨hjlt, -⟩ := List.getElem?_eq_some_iff.1 hj
  by_cases hlast : i + 1 < w.loops.length
  · exact Or.inl (h.settled i li hi hlast)
  · exact Or.inr (h.settled j lj hj (by omega))

theorem not_settled {l : SinkLoop} (h : l.phase = .starting ∨ l.phase = .dumping) : ¬l.Settled := by
  rintro (hfail | ⟨hrun, -⟩)
  · rcases h with h | h <;> exact absurd (h.symm.trans hfail) (by decide)
  · rcases h with h | h <;> exact absurd (h.symm.trans hrun) (by decide)

/-- a settled loop with a node has it registered -/
theorem OneSink.standing {w : SinkWorld} (h : OneSink w) {l : SinkLoop} (hmem : l ∈ w.loops) (hsettled : l.Settled)
    (hnode : l.node ≠ .absent) : ∃ global ∈ w.registry, global.isVirtualSink = true := by
  have hrun : l.phase = .running ∧ l.node ≠ .requested := by
    refine hsettled.resolve_left fun hfail => hnode (h.early l hmem ?_)
    rw [hfail]
    decide
  cases hl : l.node with
  | absent => exact absurd hl hnode
  | requested => exact absurd hl hrun.2
  | live id =>
    obtain ⟨global, hglobal, -, hsink⟩ := h.registered l hmem id hl
    exact ⟨global, hglobal, hsink⟩

theorem OneSink.spared_step {w : SinkWorld} (h : OneSink w) {e : SinkEvent} (i j : ℕ) (li' lj' : SinkLoop) (hne : i ≠ j)
    (hi' : (w.step e).loops[i]? = some li') (hj' : (w.step e).loops[j]? = some lj') (hnode : li'.node ≠ .absent) :
    lj'.phase = .starting ∨ lj'.Spared := by
  rcases loops_step w e hj' with ⟨-, -, -, rfl⟩ | ⟨lj, hj, hjstep⟩
  · exact Or.inl rfl
  rcases loops_step w e hi' with ⟨-, -, -, rfl⟩ | ⟨li, hi, histep⟩
  · exact absurd rfl hnode
  have hlj := List.mem_of_getElem? hj
  by_cases hhad : li.node = .absent
  · -- loop i creates its sink: it was the last, and loop j had none
    obtain ⟨hdump, hblind⟩ := SinkLoop.gained hhad histep hnode
    have hsettled : lj.Settled := (h.settled_or hne hi hj).resolve_left (not_settled (Or.inr hdump))
    have habsent : lj.node = .absent := by
      by_contra hlj
      rcases h.spared j i lj li (Ne.symm hne) hj hi hlj with hstart | ⟨-, ⟨-, hsees⟩ | hrun | hfail⟩
      · exact absurd (hdump.symm.trans hstart) (by decide)
      · exact hblind hsees
      · exact absurd (hdump.symm.trans hrun) (by decide)
      · exact absurd (hdump.symm.trans hfail) (by decide)
    have hspared : lj.Spared := ⟨habsent, Or.inr (hsettled.symm.imp_left And.left)⟩
    exact Or.inr (hspared.step hjstep)
  · rcases h.spared i j li lj hne hi hj hhad with hstart | hspared
    · -- loop j may be about to connect; the sink of loop i is registered then
      have hsettled : li.Settled := (h.settled_or hne hi hj).resolve_right (not_settled (Or.inl hstart))
      obtain ⟨global, hglobal, hsink⟩ := h.standing (List.mem_of_getElem? hi) hsettled hhad
      exact SinkLoop.spared_of_starting (h.early lj hlj) hstart hglobal hsink hjstep
    · exact Or.inr (hspared.step hjstep)

theorem OneSink.step {w : SinkWorld} (h : OneSink w) {e : SinkEvent} (hspaced : Spaced w e) : OneSink (w.step e) where
  early := early_step h.early e
  settled := h.settled_step hspaced
  registered := h.registered_step e
  spared := h.spared_step

theorem oneSink_init (registry : List Global) : OneSink (init registry) where
  early _ hl := absurd hl List.not_mem_nil
  settled _ _ _ hlast := absurd hlast (Nat.not_lt_zero _)
  registered _ hl := absurd hl List.not_mem_nil
  spared _ _ _ _ _ hi := nomatch hi

theorem OneSink.unique {w : SinkWorld} (h : OneSink w) {i j : ℕ} {li lj : SinkLoop} (hi : w.loops[i]? = some li)
    (hj : w.loops[j]? = some lj) (hinode : li.node ≠ .absent) (hjnode : lj.node ≠ .absent) : i = j := by
  by_contra hne
  rcases h.spared i j li lj hne hi hj hinode with hstart | hspared
  · exact hjnode (h.early lj (List.mem_of_getElem? hj) (by rw [hstart]; decide))
  · exact hjnode hspared.1

/-- loop i is there, and spared -/
def LoopSpared (i : ℕ) (w : SinkWorld) : Prop := i < w.loops.length ∧ ∀ l, w.loops[i]? = some l → l.Spared

theorem LoopSpared.step {i : ℕ} {w : SinkWorld} (h : LoopSpared i w) (e : SinkEvent) : LoopSpared i (w.step e) := by
  constructor
  · rcases length_step w e with hlen | ⟨rfl, hnone⟩
    · exact hlen ▸ h.1
    · have hlen : (w.step .call).loops.length = w.loops.length + 1 := by simp [SinkWorld.step, hnone]
      exact hlen ▸ Nat.lt_succ_of_lt h.1
  · intro l' hl'
    rcases loops_step w e hl' with ⟨-, -, rfl, -⟩ | ⟨l, hl, hstep⟩
    · exact absurd h.1 (Nat.lt_irrefl _)
    · exact (h.2 l hl).step hstep

theorem loopSpared_connect {i : ℕ} {w : SinkWorld} {l : SinkLoop} (hl : w.loops[i]? = some l) (hearly : l.Early)
    (hstart : l.phase = .starting) {global : Global} (hglobal : global ∈ w.registry)
    (hsink : global.isVirtualSink = true) : LoopSpared i (w.step (.connect i)) := by
  constructor
  · obtain ⟨hlt, -⟩ := List.getElem?_eq_some_iff.1 hl
    simpa [SinkWorld.step, onLoop] using hlt
  · intro l' hl'
    simp only [SinkWorld.step, onLoop, List.getElem?_modify_eq, hl, Option.map_eq_map, Option.map_some,
      Option.some.injEq] at hl'
    subst hl'
    refine ⟨?_, Or.inl ⟨?_, SinkLoop.seesSink_connect hglobal hsink hstart⟩⟩
    · rw [SinkLoop.connect, if_pos hstart]
      exact hearly (by rw [hstart]; decide)
    · rw [SinkLoop.connect, if_pos hstart]

/-- the first call times out before its sink is there; the second one starts after it is, and reuses it -/
def calledTwice : List SinkEvent :=
  [.call, .connect 0, .sync 0, .deliver 0 true, .timeout 0, .created 0 5, .call, .connect 1, .sync 1, .deliver 1 true,
    .deliver 1 true, .ready 1]

theorem spaced_calledTwice : Runs.Meets SinkWorld.step Spaced (init []) calledTwice := by
  refine ⟨?_, trivial, trivial, trivial, trivial, trivial, ?_, trivial, trivial, trivial, trivial, trivial, trivial⟩
  · exact fun _ _ hl => absurd hl List.not_mem_nil
  · intro _ l hl
    obtain rfl := List.mem_singleton.1 hl
    exact Or.inr ⟨rfl, by decide⟩

/-- two calls that overlap: both loops read the registry before either sink is in it -/
theorem overlapping_calls :
    (Runs.run SinkWorld.step (init []) [.call, .call, .connect 0, .connect 1, .sync 0, .sync 1, .deliver 0 true,
      .deliver 1 true]).loops.map SinkLoop.node = [.requested, .requested] := by
  decide

end SinkWorld

end MumbledFlight

/-
The channel cache against the server's channel tree. The server files a channel by its id; the session files it by its
name, and looks at nothing else of an announcement.

The tree is the server's: channels under the root (id 0) or under each other, names unique among siblings. Every change
is announced, and the session handles the announcements in order, with any other events in between.

Results, for every legal history of the tree:
- `cacheTrue_change_iff`: an announcement keeps the cache true exactly when the channel is a child of the root
  afterwards, and no child of the root changes its name. A removal always does.
- `cache_true_iff`: so the cache is true all along a history exactly when all its announcements are such.
  `renamed_channel_still_cached` is a history in which a join by name would go to a channel that has another name.
-/
import MumbledFlight.Voip.Joining

namespace MumbledFlight

open Session

/-! ## The server's tree -/

structure TreeNode where
  name : String
  parent : UInt32
deriving DecidableEq

/-- the root's id, the parent of the channels the client asks for -/
def rootChannel : UInt32 := 0

/-- the channels other than the root, by id -/
abbrev ChannelTree := HashMap UInt32 TreeNode

inductive TreeChange where
  | create (id : UInt32) (name : String) (parent : UInt32)
  | rename (id : UInt32) (name : String)
  | reparent (id parent : UInt32)
  | remove (id : UInt32)
deriving DecidableEq

namespace ChannelTree

/-- the channel a change announces, as the change leaves it -/
def placed (t : ChannelTree) : TreeChange → Option (UInt32 × TreeNode)
  | .create id name parent => some (id, ⟨name, parent⟩)
  | .rename id name => (t.lookup id).map fun n => (id, { n with name := name })
  | .reparent id parent => (t.lookup id).map fun n => (id, { n with parent := parent })
  | .remove _ => none

def change (t : ChannelTree) (c : TreeChange) : ChannelTree :=
  match c, t.placed c with
  | .remove id, _ => t.erase id
  | _, some (id, n) => t.insert id n
  | _, none => t

/-- what the server sends about a change -/
def announcement (t : ChannelTree) (c : TreeChange) : ControlPacket :=
  match c, t.placed c with
  | .remove id, _ => .channelRemove ⟨id⟩
  | _, some (id, n) => .channelState { channelId := some id, name := some n.name, parent := some n.parent }
  | _, none => .other

/-- p is channel id or lies below it -/
inductive Below (t : ChannelTree) (id : UInt32) : UInt32 → Prop where
  | self : Below t id id
  | child {p : UInt32} {n : TreeNode} (h : t.lookup p = some n) (hn : Below t id n.parent) : Below t id p

/-- the root or an existing channel -/
def IsPlace (t : ChannelTree) (parent : UInt32) : Prop := parent = rootChannel ∨ t.lookup parent ≠ none

/-- no other child of the parent has the name -/
def NameFree (t : ChannelTree) (id : UInt32) (name : String) (parent : UInt32) : Prop :=
  ∀ other, t.lookup other = some ⟨name, parent⟩ → other = id

/-- the changes a server makes: ids are unique, siblings have different names, a channel is not moved below itself, and
one that still has children is not removed -/
def Legal (t : ChannelTree) : TreeChange → Prop
  | .create id name parent => id ≠ rootChannel ∧ t.lookup id = none ∧ t.IsPlace parent ∧ t.NameFree id name parent
  | .rename id name => ∃ n, t.lookup id = some n ∧ t.NameFree id name n.parent
  | .reparent id parent => ∃ n, t.lookup id = some n ∧ t.IsPlace parent ∧ ¬t.Below id parent ∧
      t.NameFree id n.name parent
  | .remove id => t.lookup id ≠ none ∧ ∀ other n, t.lookup other = some n → n.parent ≠ id

/-- a legal change that announces a channel: where it puts it, and that the name is free there -/
theorem placed_of_legal {t : ChannelTree} {c : TreeChange} (h : t.Legal c) (hc : ∀ id, c ≠ .remove id) :
    ∃ id n, t.placed c = some (id, n) ∧ t.NameFree id n.name n.parent ∧ t.change c = t.insert id n ∧
      t.announcement c = .channelState { channelId := some id, name := some n.name, parent := some n.parent } := by
  cases c with
  | create id name parent =>
    obtain ⟨-, -, -, hfree⟩ := h
    exact ⟨id, ⟨name, parent⟩, rfl, hfree, rfl, rfl⟩
  | rename id name =>
    obtain ⟨n, hn, hfree⟩ := h
    have hp : t.placed (.rename id name) = some (id, { n with name := name }) := by simp [placed, hn]
    exact ⟨id, _, hp, hfree, by simp only [change, hp], by simp only [announcement, hp]⟩
  | reparent id parent =>
    obtain ⟨n, hn, -, -, hfree⟩ := h
    have hp : t.placed (.reparent id parent) = some (id, { n with parent := parent }) := by simp [placed, hn]
    exact ⟨id, _, hp, hfree, by simp only [change, hp], by simp only [announcement, hp]⟩
  | remove id => exact absurd rfl (hc id)

end ChannelTree

/-! ## The session beside it -/

/-- the tree, and a session that has handled every announcement so far -/
structure Mirror where
  tree : ChannelTree
  run : VoipRun

inductive MirrorEvent where
  | change (c : TreeChange)
  /-- anything else the session handles -/
  | other (e : VoipEvent)

/-- the event announces no channel -/
def VoipEvent.NoAnnouncement : VoipEvent → Prop
  | .control (.channelState m) => m.name = none ∨ m.channelId = none
  | .control (.channelRemove _) => False
  | _ => True

namespace Mirror

def init (zone : SharedCockpitZone) : Mirror := ⟨∅, .init zone⟩

def step (client : MumbleVoipClient) (m : Mirror) : MirrorEvent → Mirror
  | .change c => ⟨m.tree.change c, m.run.step client (.control (m.tree.announcement c))⟩
  | .other e => ⟨m.tree, m.run.step client e⟩

def Legal (m : Mirror) : MirrorEvent → Prop
  | .change c => m.tree.Legal c
  | .other e => e.NoAnnouncement

/-- the cache maps a name to an id exactly when the channel of that id is a child of the root with that name -/
def CacheTrue (m : Mirror) : Prop :=
  ∀ name id, m.run.session.channels.lookup name = some id ↔ m.tree.lookup id = some ⟨name, rootChannel⟩

/-- an announced channel is a child of the root afterwards, and if it was one before it keeps its name -/
def RootChildKeepsName (m : Mirror) : MirrorEvent → Prop
  | .change c => ∀ id n, m.tree.placed c = some (id, n) → n.parent = rootChannel ∧
      ∀ old, m.tree.lookup id = some ⟨old, rootChannel⟩ → old = n.name
  | .other _ => True

theorem step_channels_of_noAnnouncement (client : MumbleVoipClient) (r : VoipRun) {e : VoipEvent}
    (h : e.NoAnnouncement) : (r.step client e).session.channels = r.session.channels := by
  rw [VoipRun.step_session]
  rcases r.handle_cases client e with
    ⟨_, _, _, hs, -⟩ | ⟨sync, rfl⟩ | ⟨m, rfl⟩ | ⟨m, name, cid, rfl, hn, hc⟩
  · rw [hs]
  · obtain ⟨b, hb⟩ := onServerSync_fields r.session sync client
    simp [VoipRun.handle, onControlMsg, hb]
  · exact absurd h not_false
  · -- a channel that is announced has a name and an id
    rcases h with h | h
    · exact absurd (hn.symm.trans h) (Option.some_ne_none _)
    · exact absurd (hc.symm.trans h) (Option.some_ne_none _)

theorem cacheTrue_remove (client : MumbleVoipClient) {m : Mirror} (h : m.CacheTrue) (id : UInt32) :
    (m.step client (.change (.remove id))).CacheTrue := by
  intro name id'
  have hch : (m.step client (.change (.remove id))).run.session.channels =
      HashMap.retain (fun _ v => v ≠ id) m.run.session.channels := rfl
  have htree : (m.step client (.change (.remove id))).tree = m.tree.erase id := rfl
  rw [hch, htree, HashMap.lookup_retain, Option.filter_eq_some_iff, h name id']
  by_cases heq : id' = id
  · subst heq
    refine iff_of_false (fun hkept => by simp at hkept) ?_
    rw [AList.lookup_erase]
    exact Option.some_ne_none _ ∘ Eq.symm
  · simp [heq, AList.lookup_erase_ne heq]

/-- a channel put under a name that is free there: the cache stays true exactly if it is a child of the root, and was
not one under another name -/
theorem cacheTrue_placed_iff {m m' : Mirror} (h : m.CacheTrue) {id : UInt32} {n : TreeNode}
    (hfree : m.tree.NameFree id n.name n.parent) (htree : m'.tree = m.tree.insert id n)
    (hch : m'.run.session.channels = m.run.session.channels.insert n.name id) :
    m'.CacheTrue ↔ n.parent = rootChannel ∧ ∀ old, m.tree.lookup id = some ⟨old, rootChannel⟩ → old = n.name := by
  have hcache : ∀ name, m'.run.session.channels.lookup name =
      if name = n.name then some id else m.run.session.channels.lookup name := by
    intro name
    rw [hch, HashMap.lookup_insert_of]
  have hnode : ∀ id', m'.tree.lookup id' = if id' = id then some n else m.tree.lookup id' := by
    intro id'
    rw [htree, HashMap.lookup_insert_of]
  refine ⟨?_, ?_⟩
  · intro h'
    have hself : m'.tree.lookup id = some ⟨n.name, rootChannel⟩ := by
      apply (h' n.name id).1
      rw [hcache, if_pos rfl]
    rw [hnode, if_pos rfl] at hself
    refine ⟨congrArg TreeNode.parent (Option.some.inj hself), ?_⟩
    -- a child of the root that had another name is still cached under it
    intro old hold
    by_contra hne
    have hstale : m'.run.session.channels.lookup old = some id := by
      rw [hcache, if_neg hne]
      exact (h old id).2 hold
    have hnow := (h' old id).1 hstale
    rw [hnode, if_pos rfl] at hnow
    exact hne (congrArg TreeNode.name (Option.some.inj hnow)).symm
  · rintro ⟨hroot, hkeeps⟩ name id'
    rw [hcache, hnode]
    by_cases hname : name = n.name
    · rw [if_pos hname]
      by_cases hid : id' = id
      · rw [if_pos hid, hid, hname]
        refine iff_of_true rfl ?_
        rw [← hroot]
      · rw [if_neg hid]
        refine iff_of_false (fun heq => hid (Option.some.inj heq).symm) ?_
        intro hother
        rw [hname, ← hroot] at hother
        exact hid (hfree id' hother)
    · rw [if_neg hname, h name id']
      by_cases hid : id' = id
      · rw [if_pos hid, hid]
        refine iff_of_false (fun hold => hname (hkeeps name hold)) ?_
        intro hnow
        exact hname (congrArg TreeNode.name (Option.some.inj hnow)).symm
      · rw [if_neg hid]

theorem cacheTrue_change_iff (client : MumbleVoipClient) {m : Mirror} (h : m.CacheTrue) {c : TreeChange}
    (hlegal : m.tree.Legal c) : (m.step client (.change c)).CacheTrue ↔ m.RootChildKeepsName (.change c) := by
  by_cases hremove : ∃ id, c = .remove id
  · obtain ⟨id, rfl⟩ := hremove
    refine iff_of_true (cacheTrue_remove client h id) ?_
    intro _ _ hplaced
    cases hplaced
  · obtain ⟨id, n, hplaced, hfree, hchange, hann⟩ :=
      ChannelTree.placed_of_legal hlegal fun id hc => hremove ⟨id, hc⟩
    have hch : (m.step client (.change c)).run.session.channels = m.run.session.channels.insert n.name id := by
      simp only [step, hann, VoipRun.step_session, VoipRun.handle, onControlMsg]
      exact onChannelState_channels rfl rfl client.targetChannel
    rw [cacheTrue_placed_iff h hfree hchange hch]
    unfold RootChildKeepsName
    dsimp only
    rw [hplaced]
    refine ⟨?_, fun hall => hall id n rfl⟩
    rintro hn id' n' heq
    cases heq
    exact hn

theorem cacheTrue_step_iff (client : MumbleVoipClient) {m : Mirror} (h : m.CacheTrue) {e : MirrorEvent}
    (hlegal : m.Legal e) : (m.step client e).CacheTrue ↔ m.RootChildKeepsName e := by
  cases e with
  | change c => exact cacheTrue_change_iff client h hlegal
  | other e =>
    refine iff_of_true ?_ trivial
    intro name id
    have hch := step_channels_of_noAnnouncement client m.run hlegal
    change (m.run.step client e).session.channels.lookup name = some id ↔ m.tree.lookup id = _
    rw [hch]
    exact h name id

theorem cacheTrue_init (zone : SharedCockpitZone) : (init zone).CacheTrue := by
  intro name id
  simp [init, VoipRun.init, Session.new]

end Mirror

open Mirror

/-- The cache. Along a legal history of the tree the cache holds exactly the children of the root, in every state, if
and only if every created, renamed or moved channel is a child of the root afterwards, and no child of the root changes
its name. -/
theorem cache_true_iff (client : MumbleVoipClient) (zone : SharedCockpitZone) (es : List MirrorEvent)
    (hlegal : Runs.Meets (Mirror.step client) Mirror.Legal (Mirror.init zone) es) :
    Runs.Always (Mirror.step client) CacheTrue (Mirror.init zone) es ↔
      Runs.Meets (Mirror.step client) RootChildKeepsName (Mirror.init zone) es := by
  apply Runs.always_iff_meets_of (J := fun _ => True) (L := Mirror.Legal)
  · exact fun _ _ _ _ => trivial
  · exact fun m e _ h hl hG => (cacheTrue_step_iff client h hl).2 hG
  · exact fun m e _ h hl h' => (cacheTrue_step_iff client h hl).1 h'
  · trivial
  · exact cacheTrue_init zone
  · exact hlegal

/-- a channel is created under the root, and renamed -/
def createdAndRenamed : List MirrorEvent :=
  [.change (.create 1 "flight_ic" rootChannel), .change (.rename 1 "lobby")]

theorem legal_createdAndRenamed (client : MumbleVoipClient) :
    Runs.Meets (Mirror.step client) Mirror.Legal (Mirror.init .inFbo) createdAndRenamed := by
  refine ⟨⟨by decide, rfl, Or.inl rfl, ?_⟩, ⟨⟨"flight_ic", rootChannel⟩, rfl, ?_⟩, trivial⟩
  · intro other h
    cases h
  · intro other h
    have htree : (Mirror.step client (Mirror.init .inFbo) (.change (.create 1 "flight_ic" rootChannel))).tree =
        (∅ : ChannelTree).insert 1 ⟨"flight_ic", rootChannel⟩ := rfl
    rw [htree, HashMap.lookup_insert_of] at h
    split_ifs at h with heq
    · exact heq
    · cases h

/-- before the renaming the cache is true -/
theorem cache_true_iff_created :
    CacheTrue (Mirror.step icClient (Mirror.init .inFbo) (.change (.create 1 "flight_ic" rootChannel))) := by
  have hlegal := (legal_createdAndRenamed icClient).1
  have hguard : Runs.Meets (Mirror.step icClient) RootChildKeepsName (Mirror.init .inFbo)
      [.change (.create 1 "flight_ic" rootChannel)] := by
    refine ⟨?_, trivial⟩
    intro id n hplaced
    cases hplaced
    refine ⟨rfl, ?_⟩
    intro old hold
    cases hold
  have hmeets : Runs.Meets (Mirror.step icClient) Mirror.Legal (Mirror.init .inFbo)
      [.change (.create 1 "flight_ic" rootChannel)] := ⟨hlegal, trivial⟩
  exact ((cache_true_iff icClient .inFbo _ hmeets).2 hguard).2

/-- the name a channel no longer has still leads to it -/
theorem renamed_channel_still_cached :
    Runs.Meets (Mirror.step icClient) Mirror.Legal (Mirror.init .inFbo) createdAndRenamed ∧
    ¬Runs.Always (Mirror.step icClient) CacheTrue (Mirror.init .inFbo) createdAndRenamed := by
  refine ⟨legal_createdAndRenamed icClient, ?_⟩
  intro h
  have hstale := (h.2.2 "flight_ic" 1).1 (by decide)
  exact absurd hstale (by decide)

end MumbledFlight

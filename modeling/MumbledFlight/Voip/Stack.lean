/-
The wiring of a stack (`run_mumble_stack`): which of the four clients a configuration spawns, under which names, in which
channels, with which microphone and mixer, and what the stack of one user makes of the packets of another's.

The server is not part of the repository. What is used of it: a voice packet goes to the sessions in the channel of its
sender, and it has placed each client in one of the channels that client asks to join (`Placement`).

Results, for every configuration, every such placement and every cockpit:
- `ChannelKind.name_inj`, `ClientKind.username_inj`: the names of channels and clients tell flights, users and kinds
  apart.
- `stack_routing`: a packet is played at most once by a stack, in its own flight only, on the interphone exactly if it is
  the interphone's, and as the public address exactly if it is the public address's.
-/
import MumbledFlight.Plugin.Devices
import MumbledFlight.Voip.Position

namespace MumbledFlight

/-! ## Names -/

/-- the channels of a flight -/
inductive ChannelKind where
  | fbo
  | aircraft
  | ic
deriving DecidableEq

def ChannelKind.suffix : ChannelKind → String
  | .fbo => "_ambient_fbo"
  | .aircraft => "_ambient_aircraft"
  | .ic => "_ic"

def ChannelKind.name (kind : ChannelKind) (sessionId : String) : String := sessionId ++ kind.suffix

/-- the clients of a user -/
inductive ClientKind where
  | voice
  | ic
  | pa
  | radio
deriving DecidableEq

def ClientKind.suffix : ClientKind → String
  | .voice => "_voice"
  | .ic => "_ic"
  | .pa => "_PA"
  | .radio => "_radio"

def ClientKind.username (kind : ClientKind) (userName : String) : String := userName ++ kind.suffix

/-! ## The configuration -/

inductive VoipClient where
  | all
  | voice
  | ic
  | pa
  | radio
deriving DecidableEq

inductive InputType where
  | real
  | sine
  | file (path : String)
deriving DecidableEq

/-- `MumbleStackConfig`, as far as the clients are made from it -/
structure MumbleStackConfig where
  userName : String
  sessionId : String
  serverPassword : String
  hasClientCert : Bool
  serverTrust : Option ServerTrust
  radioSource : RadioSource
  voipClient : VoipClient
  inputType : InputType
  testPos : Option (Vec3 F32)
  serverHost : String
  serverPort : UInt16
deriving DecidableEq

inductive Mixer where
  | ambient
  | ic
deriving DecidableEq

/-- what the radio client sends -/
inductive RadioFeed where
  | loopback (source : String)
  /-- the synthetic input of a test -/
  | mic
deriving DecidableEq

inductive AudioInput where
  | mic
  | radio (feed : RadioFeed)
deriving DecidableEq

/-- a `MumbleVoipClient` as it is spawned, with its kind and its two ends -/
structure SpawnedClient extends AudioClient where
  kind : ClientKind
  password : String
  hasClientCert : Bool
  serverTrust : Option ServerTrust
  input : AudioInput
  output : Mixer
deriving DecidableEq

namespace MumbleStackConfig

variable (cfg : MumbleStackConfig)

def channel (kind : ChannelKind) : String := kind.name cfg.sessionId

def ambientCtx : String := cfg.sessionId ++ "_ambient"

/-- what all clients have of the configuration, and what each has of its own -/
def client (kind : ClientKind) (context : String) (role : ClientRole) (targetChannel : String)
    (zoneChannels : Option (String × String)) (testPos : Option (Vec3 F32)) (input : AudioInput) (output : Mixer) :
    SpawnedClient where
  username := kind.username cfg.userName
  context
  role
  targetChannel
  zoneChannels
  testPos
  kind
  password := cfg.serverPassword
  hasClientCert := cfg.hasClientCert
  serverTrust := cfg.serverTrust
  input
  output

/-- starts in the channel of the zone the cockpit is in -/
def voiceClient (zone : SharedCockpitZone) : SpawnedClient :=
  let initialCh := match zone with
    | .inFbo => cfg.channel .fbo
    | .aroundOrInAircraft => cfg.channel .aircraft
  cfg.client .voice cfg.ambientCtx .voice initialCh (some (cfg.channel .fbo, cfg.channel .aircraft)) cfg.testPos .mic
    .ambient

def icClient : SpawnedClient :=
  cfg.client .ic (cfg.sessionId ++ "_ic") .ic (cfg.channel .ic) none cfg.testPos .mic .ic

def paClient : SpawnedClient := cfg.client .pa cfg.ambientCtx .pa (cfg.channel .aircraft) none none .mic .ambient

/-- the cockpit speaker, (0, 0.9, -6.8) in X-Plane's coordinates -/
def radioSpeakerPosition : Vec3 F32 := Wire.xplaneToMumble (⟨0⟩, ⟨0x3F666666⟩, ⟨0xC0D9999A⟩)

def radioClient (feed : RadioFeed) : SpawnedClient :=
  cfg.client .radio cfg.ambientCtx (.radio true) (cfg.channel .aircraft) none
    (cfg.testPos.or (some radioSpeakerPosition)) (.radio feed) .ambient

/-- `autoSink` is the monitor of the sink that could be created, if one could -/
def radioFeed (autoSink : Option String) : Option RadioFeed :=
  let wanted := cfg.voipClient = .all ∨ cfg.voipClient = .radio
  match cfg.radioSource with
  | .autoSink => if wanted then autoSink.map .loopback else none
  | .device src => if wanted then some (.loopback src) else none
  | .disabled => if cfg.voipClient = .radio ∧ cfg.inputType ≠ .real then some .mic else none

/-- `run_mumble_stack`, the clients it spawns -/
def runMumbleStack (zone : SharedCockpitZone) (autoSink : Option String) : List SpawnedClient :=
  let voice := if cfg.voipClient = .all ∨ cfg.voipClient = .voice then [cfg.voiceClient zone] else []
  if cfg.voipClient = .voice then voice
  else
    voice ++
    (if cfg.voipClient ≠ .pa ∧ cfg.voipClient ≠ .radio then [cfg.icClient] else []) ++
    (if cfg.voipClient ≠ .ic ∧ cfg.voipClient ≠ .radio then [cfg.paClient] else []) ++
    (cfg.radioFeed autoSink).toList.map cfg.radioClient

end MumbleStackConfig

/-! ## Names tell apart -/

/-- suffixes that end in different characters keep the names they are put to apart -/
theorem append_suffix_inj {K : Type} {suffix : K → String} (hne : ∀ k, (suffix k).toList ≠ [])
    (hlast : Function.Injective fun k => (suffix k).toList.getLast?) {k k' : K} {s s' : String} :
    s ++ suffix k = s' ++ suffix k' ↔ k = k' ∧ s = s' := by
  refine ⟨?_, by rintro ⟨rfl, rfl⟩; rfl⟩
  intro h
  have hlists : s.toList ++ (suffix k).toList = s'.toList ++ (suffix k').toList := by
    rw [← String.toList_append, h, String.toList_append]
  have hk : k = k' := by
    apply hlast
    dsimp only
    rw [← List.getLast?_append_of_ne_nil s.toList (hne k), hlists, List.getLast?_append_of_ne_nil s'.toList (hne k')]
  subst hk
  exact ⟨rfl, (String.append_left_inj _).1 h⟩

theorem ChannelKind.name_inj {kind kind' : ChannelKind} {sessionId sessionId' : String} :
    kind.name sessionId = kind'.name sessionId' ↔ kind = kind' ∧ sessionId = sessionId' := by
  refine append_suffix_inj (fun kind => by cases kind <;> decide) fun kind kind' h => ?_
  cases kind <;> cases kind' <;> first | rfl | exact absurd h (by decide)

theorem ClientKind.username_inj {kind kind' : ClientKind} {userName userName' : String} :
    kind.username userName = kind'.username userName' ↔ kind = kind' ∧ userName = userName' := by
  refine append_suffix_inj (fun kind => by cases kind <;> decide) fun kind kind' h => ?_
  cases kind <;> cases kind' <;> first | rfl | exact absurd h (by decide)

/-! ## Who hears whom -/

/-- the channels a client ever asks to join -/
def SpawnedClient.ownChannels (k : SpawnedClient) : List String :=
  match k.zoneChannels with
  | some (fboCh, aircraftCh) => [fboCh, aircraftCh]
  | none => [k.targetChannel]

/-- where the clients of a stack are at some moment, each in a channel it asks for -/
structure Placement (clients : List SpawnedClient) where
  channel : SpawnedClient → String
  own : ∀ k ∈ clients, channel k ∈ k.ownChannels

/-- everyone where it asked to be, the voice client in the channel of a zone -/
def Placement.inZone (clients : List SpawnedClient) (zone : SharedCockpitZone) : Placement clients where
  channel k := (k.zoneChannel zone).getD k.targetChannel
  own := by
    intro k _
    unfold SpawnedClient.ownChannels MumbleVoipClient.zoneChannel
    cases hz : k.zoneChannels with
    | none => exact List.mem_singleton.2 rfl
    | some chs =>
      cases zone with
      | inFbo => exact List.mem_pair.2 (Or.inl rfl)
      | aroundOrInAircraft => exact List.mem_pair.2 (Or.inr rfl)

/-- the kinds of channel a client can be in -/
def ClientKind.channels : ClientKind → List ChannelKind
  | .voice => [.fbo, .aircraft]
  | .ic => [.ic]
  | .pa => [.aircraft]
  | .radio => [.aircraft]

def ClientKind.role : ClientKind → ClientRole
  | .voice => .voice
  | .ic => .ic
  | .pa => .pa
  | .radio => .radio true

def ClientKind.output : ClientKind → Mixer
  | .ic => .ic
  | _ => .ambient

namespace MumbleStackConfig

variable {cfg : MumbleStackConfig} {zone : SharedCockpitZone} {autoSink : Option String} {k : SpawnedClient}

/-- a spawned client is one of the four -/
theorem spawned_cases (h : k ∈ cfg.runMumbleStack zone autoSink) :
    k = cfg.voiceClient zone ∨ k = cfg.icClient ∨ k = cfg.paClient ∨ ∃ feed, k = cfg.radioClient feed := by
  unfold runMumbleStack at h
  dsimp only at h
  split_ifs at h <;> simp only [List.mem_append, List.mem_cons, List.not_mem_nil, or_false, false_or, List.mem_map] at h
  all_goals grind

/-- no kind is spawned twice -/
theorem spawned_kinds_nodup (cfg : MumbleStackConfig) (zone : SharedCockpitZone) (autoSink : Option String) :
    ((cfg.runMumbleStack zone autoSink).map SpawnedClient.kind).Nodup := by
  unfold runMumbleStack
  dsimp only
  cases cfg.radioFeed autoSink <;> split_ifs <;> simp [voiceClient, icClient, paClient, radioClient, client]

theorem spawned_role (h : k ∈ cfg.runMumbleStack zone autoSink) : k.role = k.kind.role := by
  rcases spawned_cases h with rfl | rfl | rfl | ⟨feed, rfl⟩ <;> rfl

theorem spawned_output (h : k ∈ cfg.runMumbleStack zone autoSink) : k.output = k.kind.output := by
  rcases spawned_cases h with rfl | rfl | rfl | ⟨feed, rfl⟩ <;> rfl

theorem spawned_channels (h : k ∈ cfg.runMumbleStack zone autoSink) {ch : String} (hch : ch ∈ k.ownChannels) :
    ∃ kind ∈ k.kind.channels, ch = kind.name cfg.sessionId := by
  rcases spawned_cases h with rfl | rfl | rfl | ⟨feed, rfl⟩
  · rcases List.mem_pair.1 hch with rfl | rfl
    · exact ⟨.fbo, List.mem_cons_self, rfl⟩
    · exact ⟨.aircraft, List.mem_cons_of_mem _ List.mem_cons_self, rfl⟩
  · exact ⟨.ic, List.mem_cons_self, List.mem_singleton.1 hch⟩
  · exact ⟨.aircraft, List.mem_cons_self, List.mem_singleton.1 hch⟩
  · exact ⟨.aircraft, List.mem_cons_self, List.mem_singleton.1 hch⟩

end MumbleStackConfig

/-- what client b makes of a packet client a sends, given where the two are: its path, if it plays it -/
def relayed (a b : SpawnedClient) (channelA channelB : String) (mySession : Option UInt32)
    (speaker listener : CockpitState F32) (sessionId : UInt32) : Option RenderPath :=
  if channelA = channelB then
    renderPath b.toAudioClient mySession listener sessionId (Wire.positionBytes a.toAudioClient speaker)
  else none

/-- a client plays exactly if it is not the sender, and is the voice client, or the interphone while it is on -/
theorem renderPath_kinds {b : AudioClient} {kind : ClientKind} (hrole : b.role = kind.role) {mySession : Option UInt32}
    {listener : CockpitState F32} {sessionId : UInt32} {positionInfo : Option (List UInt8)} {path : RenderPath}
    (h : renderPath b mySession listener sessionId positionInfo = some path) :
    kind = .ic ∧ path = .flat ∨ kind = .voice ∧
      ∃ p, path = .spatial p ∧ (p = .pa ↔ Wire.parsePosition positionInfo = none) := by
  unfold renderPath at h
  rw [hrole] at h
  cases kind with
  | voice =>
    simp only [ClientKind.role, Option.ite_none_left_eq_some, Option.some.injEq] at h
    exact Or.inr ⟨rfl, _, h.2.symm, spatialPath_eq_pa_iff _ _ _⟩
  | ic =>
    simp only [ClientKind.role, Option.ite_none_left_eq_some, Option.some.injEq] at h
    exact Or.inl ⟨rfl, h.2.2.symm⟩
  | pa => simp [ClientKind.role] at h
  | radio => simp [ClientKind.role] at h

/-- in a list with at most one element of each kind, elements of one kind are at most one -/
theorem length_filter_le_one {ι κ : Type} {f : ι → κ} {xs : List ι} (hnodup : (xs.map f).Nodup) {p : ι → Bool}
    (h : ∀ x ∈ xs, ∀ y ∈ xs, p x = true → p y = true → f x = f y) : (xs.filter p).length ≤ 1 := by
  have hnodup' : ((xs.filter p).map f).Nodup := hnodup.sublist (List.filter_sublist.map f)
  have hsame : ∀ x ∈ xs.filter p, ∀ y ∈ xs.filter p, f x = f y := by
    intro x hx y hy
    obtain ⟨hx, hpx⟩ := List.mem_filter.1 hx
    obtain ⟨hy, hpy⟩ := List.mem_filter.1 hy
    exact h x hx y hy hpx hpy
  generalize xs.filter p = ys at hnodup' hsame
  match ys with
  | [] => exact Nat.zero_le 1
  | [_] => exact le_rfl
  | x :: y :: ys =>
    have hxy := hsame x List.mem_cons_self y (List.mem_cons_of_mem x List.mem_cons_self)
    simp [hxy] at hnodup'

section

variable {cfgA cfgB : MumbleStackConfig} {zoneA zoneB : SharedCockpitZone} {sinkA sinkB : Option String}
  {a b : SpawnedClient} {channelA channelB : String} {mySession : Option UInt32} {speaker listener : CockpitState F32}
  {sessionId : UInt32} {path : RenderPath}

/-- who plays a packet, and how -/
theorem relayed_some (ha : a ∈ cfgA.runMumbleStack zoneA sinkA) (hb : b ∈ cfgB.runMumbleStack zoneB sinkB)
    (hchA : channelA ∈ a.ownChannels) (hchB : channelB ∈ b.ownChannels)
    (h : relayed a b channelA channelB mySession speaker listener sessionId = some path) :
    cfgA.sessionId = cfgB.sessionId ∧ (path = .flat ↔ a.kind = .ic) ∧ (path = .spatial .pa ↔ a.kind = .pa) ∧
    b.kind = if a.kind = .ic then .ic else .voice := by
  unfold relayed at h
  split_ifs at h with hch
  obtain ⟨kindA, hkindA, hnameA⟩ := MumbleStackConfig.spawned_channels ha hchA
  obtain ⟨kindB, hkindB, hnameB⟩ := MumbleStackConfig.spawned_channels hb hchB
  obtain ⟨rfl, hflight⟩ : kindA = kindB ∧ cfgA.sessionId = cfgB.sessionId := by
    rw [← ChannelKind.name_inj, ← hnameA, hch, hnameB]
  have hroleA := MumbleStackConfig.spawned_role ha
  have hnone : Wire.parsePosition (Wire.positionBytes a.toAudioClient speaker) = none ↔ a.kind = .ic ∨ a.kind = .pa := by
    rw [Wire.parsePosition_positionBytes, hroleA]
    cases a.kind <;> simp [ClientKind.role]
  refine ⟨hflight, ?_⟩
  rcases renderPath_kinds (MumbleStackConfig.spawned_role hb) h with ⟨hic, rfl⟩ | ⟨hvoice, p, rfl, hp⟩
  · rw [hic] at hkindB
    have hic' : a.kind = .ic := by
      cases hk : a.kind <;> rw [hk] at hkindA <;> revert hkindA hkindB <;> cases kindA <;> decide
    simp [hic, hic']
  · rw [hvoice] at hkindB
    have hne : a.kind ≠ .ic := by
      intro hk
      rw [hk] at hkindA
      revert hkindA hkindB
      cases kindA <;> decide
    rw [hnone] at hp
    simp [hvoice, hne, hp]

end

/-- Routing. Wherever the clients of two stacks are among the channels they ask for, a packet of one is played at most
once by the other; only in its own flight; on the interphone, as headphones and into the interphone's mixer, exactly if
the interphone sent it; and as the public address exactly if the public address did. A voice client in the sender's
channel plays it unless it is its own. -/
theorem stack_routing (cfgA cfgB : MumbleStackConfig) (zoneA zoneB : SharedCockpitZone) (sinkA sinkB : Option String)
    (placedA : Placement (cfgA.runMumbleStack zoneA sinkA)) (placedB : Placement (cfgB.runMumbleStack zoneB sinkB))
    (mySession : SpawnedClient → Option UInt32) (speaker listener : CockpitState F32) (sessionId : UInt32) :
    let A := cfgA.runMumbleStack zoneA sinkA
    let B := cfgB.runMumbleStack zoneB sinkB
    let plays (a b : SpawnedClient) :=
      relayed a b (placedA.channel a) (placedB.channel b) (mySession b) speaker listener sessionId
    (∀ a ∈ A, (B.filter fun b => (plays a b).isSome).length ≤ 1) ∧
    (∀ a ∈ A, ∀ b ∈ B, ∀ path, plays a b = some path → cfgA.sessionId = cfgB.sessionId ∧
      (path = .flat ↔ a.kind = .ic) ∧ (path = .spatial .pa ↔ a.kind = .pa) ∧ b.output = a.kind.output) ∧
    ∀ a ∈ A, ∀ b ∈ B, b.kind = .voice → placedA.channel a = placedB.channel b → mySession b ≠ some sessionId →
      (plays a b).isSome = true := by
  intro A B plays
  have hplays : ∀ a ∈ A, ∀ b ∈ B, ∀ path, plays a b = some path → _ := fun a ha b hb path h =>
    relayed_some ha hb (placedA.own a ha) (placedB.own b hb) h
  refine ⟨?_, ?_, ?_⟩
  · intro a ha
    refine length_filter_le_one (MumbleStackConfig.spawned_kinds_nodup cfgB zoneB sinkB) ?_
    intro b hb b' hb' hsome hsome'
    obtain ⟨path, hpath⟩ := Option.isSome_iff_exists.1 hsome
    obtain ⟨path', hpath'⟩ := Option.isSome_iff_exists.1 hsome'
    rw [(hplays a ha b hb path hpath).2.2.2, (hplays a ha b' hb' path' hpath').2.2.2]
  · intro a ha b hb path h
    obtain ⟨hflight, hflat, hpa, hkind⟩ := hplays a ha b hb path h
    refine ⟨hflight, hflat, hpa, ?_⟩
    rw [MumbleStackConfig.spawned_output hb, hkind]
    cases a.kind <;> rfl
  · intro a ha b hb hvoice hch hecho
    have hrole : b.role = .voice := by rw [MumbleStackConfig.spawned_role hb, hvoice]; rfl
    simp [plays, relayed, hch, renderPath, hecho, hrole]

/-- the stack of a user with all clients, radio included -/
def fullStack (userName : String) : MumbleStackConfig :=
  ⟨userName, "f", "", false, none, .device "com", .all, .real, none, "good", 64738⟩

/-- the public address of one user, heard once in the aircraft of the other: by the voice client -/
theorem stack_routing_pa :
    let A := fullStack "alice"
    let B := fullStack "bob"
    let placed := Placement.inZone (A.runMumbleStack .inFbo none) .aroundOrInAircraft
    let placed' := Placement.inZone (B.runMumbleStack .inFbo none) .aroundOrInAircraft
    let plays (b : SpawnedClient) :=
      relayed A.paClient b (placed.channel A.paClient) (placed'.channel b) (some 9) (.default F32) (.default F32) 7
    ((B.runMumbleStack .inFbo none).filter fun b => (plays b).isSome).length ≤ 1 ∧
      (plays (B.voiceClient .inFbo)).isSome = true ∧ plays (B.voiceClient .inFbo) = some (.spatial .pa) := by
  intro A B placed placed' plays
  obtain ⟨honce, hpath, hvoice⟩ :=
    stack_routing A B .inFbo .inFbo none none placed placed' (fun _ => some 9) (.default F32) (.default F32) 7
  have hpa : A.paClient ∈ A.runMumbleStack .inFbo none := by decide
  have hmem : B.voiceClient .inFbo ∈ B.runMumbleStack .inFbo none := by decide
  have hplays := hvoice A.paClient hpa (B.voiceClient .inFbo) hmem rfl (by decide) (by decide)
  obtain ⟨path, hp⟩ := Option.isSome_iff_exists.1 hplays
  have hspatial : path = .spatial .pa := (hpath A.paClient hpa _ hmem path hp).2.2.1.2 rfl
  exact ⟨honce A.paClient hpa, hplays, hp.trans (congrArg some hspatial)⟩

end MumbledFlight

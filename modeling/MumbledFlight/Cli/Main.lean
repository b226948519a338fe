/-
The standalone bridge (`main.rs`): from the arguments to a stack, its cockpit and whether the cockpit follows the
simulator. With `--test` the stack has one kind of client, the cockpit is set up so that its gate is open, and nothing
updates it.

Reading files, parsing a number and the certificate libraries are inputs. The arguments are those that reach the stack's
clients; the parser refuses `--sine` together with `--file`.

Results, for every argument and everything read:
- `readCl60Config_eq`: of the lines before the first that cannot be read, the last one with a user name counts.
- `cli_modes`: in a test the client of the kind asked for is spawned, and no other, and from its key on it sends all that
  it captures, in a talkspurt that never ends, the radio at the volume zero; otherwise all but the voice are silent for
  as long as the bridge has delivered nothing.
-/
import MumbledFlight.Voip.Connecting
import MumbledFlight.Voip.Stack
import MumbledFlight.Voip.Transmit

namespace MumbledFlight.Cli

/-! ## The user name of the aircraft -/

/-- `str::strip_prefix` -/
def stripPrefix (pre s : String) : Option String :=
  if pre.toList <+: s.toList then some (String.ofList (s.toList.drop pre.toList.length)) else none

/-- the user name a line sets -/
def userNameOf (line : String) : Option String := (stripPrefix "netlink/user_name = " (trim line)).map trim

/-- the lines up to the first that cannot be read -/
def readable (lines : List (Option String)) : List String := (lines.takeWhile Option.isSome).filterMap id

/-- `Config::read_cl60_config`, for the lines of `user.cfg` if it can be opened -/
def readCl60Config (file : Option (List (Option String))) : Option String :=
  file.bind fun lines => (readable lines).foldl (fun userName line => (userNameOf line).or userName) none

theorem readCl60Config_eq (lines : List (Option String)) :
    readCl60Config (some lines) = ((readable lines).filterMap userNameOf).getLast? := by
  change (readable lines).foldl (fun userName line => (userNameOf line).or userName) none = _
  induction readable lines using List.reverseRecOn with
  | nil => rfl
  | append_singleton lines line ih =>
    rw [List.foldl_append, ih, List.filterMap_append, List.getLast?_append]
    cases h : userNameOf line with
    | none => simp [h]
    | some userName => simp [h]

example : readCl60Config (some [some " netlink/user_name = Ada ", some "netlink/user_name =", none,
    some "netlink/user_name = Bob"]) = some "Ada" := by decide

/-! ## Arguments -/

inductive CliClient where
  | voice
  | ic
  | pa
  | radio
deriving DecidableEq

inductive CliZone where
  | fbo
  | aircraft
deriving DecidableEq

def CliZone.toZone : CliZone → SharedCockpitZone
  | .fbo => .inFbo
  | .aircraft => .aroundOrInAircraft

structure Args where
  flightId : Option String
  xplanePath : Option String
  user : Option String
  radioSource : Option String
  autoSink : Bool
  server : String
  port : UInt16
  password : Option String
  clientCert : Option String
  certPass : Option String
  serverCa : Option String
  listDevices : Bool
  test : Option CliClient
  zone : Option CliZone
  pos : Option String
  sine : Bool
  file : Option String
  conflicts : ¬(sine = true ∧ file.isSome = true)

/-- what `main` reads -/
structure Io where
  /-- `user.cfg` under the X-Plane path -/
  userCfg : String → Option (List (Option String))
  parseF32 : String → Option F32
  loadClientCert : String → String → Except String Unit
  loadServerTrust : String → Except String ServerTrust

inductive MainResult where
  | devicesListed
  | panicked (message : String)
  /-- `process::exit(1)` -/
  | exited
  | failed (error : String)
  | running (state : CockpitState F32) (cfg : MumbleStackConfig) (bridge : Bool)

/-- the fixed position, in Mumble's coordinates; what is missing or no number is 0 -/
def testPos (io : Io) (pos : String) : Vec3 F32 :=
  let p := (pos.toList.splitOn ',').map fun c => (io.parseF32 (trim (String.ofList c))).getD 0
  Wire.xplaneToMumble (p[0]?.getD 0, p[1]?.getD 0, p[2]?.getD 0)

/-- the cockpit of a test -/
def testState (zone : Option CliZone) (test : CliClient) : CockpitState F32 :=
  let s : CockpitState F32 :=
    { CockpitState.default F32 with role := .pilot, zone := (zone.getD .aircraft).toZone }
  match test with
  | .ic => { s with acpIc := true }
  | .pa => { s with mic := .pa, acpRt := true }
  | .radio => { s with com1Rx := true, spkrTog := true }
  | .voice => s

def initialState (args : Args) : CockpitState F32 :=
  match args.test with
  | some test => testState args.zone test
  | none => .default F32

def voipClient (test : Option CliClient) : VoipClient :=
  match test with
  | none => .all
  | some .voice => .voice
  | some .ic => .ic
  | some .pa => .pa
  | some .radio => .radio

def inputType (args : Args) : InputType :=
  match args.file with
  | some path => .file path
  | none => if args.sine then .sine else .real

def radioSource (linux : Bool) (args : Args) : RadioSource :=
  if linux && args.autoSink then .autoSink else (args.radioSource.map .device).getD .disabled

def stackConfig (linux : Bool) (io : Io) (args : Args) (userPrefix flightId : String)
    (serverTrust : Option ServerTrust) : MumbleStackConfig where
  userName := userPrefix
  sessionId := flightId
  serverPassword := args.password.getD ""
  hasClientCert := args.clientCert.isSome
  serverTrust
  radioSource := radioSource linux args
  voipClient := voipClient args.test
  inputType := inputType args
  testPos := args.pos.map (testPos io)
  serverHost := args.server
  serverPort := args.port

/-- `args.user`, or the name in the aircraft's configuration -/
def resolveIdentity (io : Io) (args : Args) : Except MainResult String :=
  match args.user, args.xplanePath with
  | some user, _ => .ok user
  | none, some path =>
    match readCl60Config (io.userCfg path) with
    | some userName => .ok userName
    | none => .error (.panicked "Critical: Found X-Plane path but could not read CL650 configuration.")
  | none, none => .error .exited

def loadOptional {A : Type} (path : Option String) (load : String → Except String A) : Except String (Option A) :=
  match path with
  | none => .ok none
  | some path => (load path).map some

def main (linux : Bool) (io : Io) (args : Args) : MainResult :=
  if args.listDevices then .devicesListed
  else
    match args.flightId with
    | none => .panicked "Error: Flight ID is required. Use --help for usage details."
    | some flightId =>
      match resolveIdentity io args with
      | .error result => result
      | .ok userPrefix =>
        match loadOptional args.clientCert fun path => io.loadClientCert path (args.certPass.getD "") with
        | .error e => .failed e
        | .ok _ =>
          match loadOptional args.serverCa io.loadServerTrust with
          | .error e => .failed e
          | .ok serverTrust =>
            .running (initialState args) (stackConfig linux io args userPrefix flightId serverTrust)
              args.test.isNone

/-! ## What a running bridge is -/

theorem main_running {linux : Bool} {io : Io} {args : Args} {state : CockpitState F32} {cfg : MumbleStackConfig}
    {bridge : Bool} (h : main linux io args = .running state cfg bridge) :
    ∃ userPrefix flightId serverTrust, state = initialState args ∧
      cfg = stackConfig linux io args userPrefix flightId serverTrust ∧ bridge = args.test.isNone := by
  unfold main at h
  split_ifs at h
  split at h
  · exact MainResult.noConfusion h
  · next flightId _ =>
    split at h
    · next result hresolve =>
      -- an identity that is not found ends the program
      unfold resolveIdentity at hresolve
      split at hresolve
      · cases hresolve
      · split at hresolve <;> cases hresolve
        cases h
      · cases hresolve
        cases h
    · next userPrefix _ =>
      split at h
      · exact MainResult.noConfusion h
      · split at h
        · exact MainResult.noConfusion h
        · next serverTrust _ =>
          cases h
          exact ⟨userPrefix, flightId, serverTrust, rfl, rfl, rfl⟩

/-! ## The clients of a test -/

def CliClient.kind : CliClient → ClientKind
  | .voice => .voice
  | .ic => .ic
  | .pa => .pa
  | .radio => .radio

/-- the volume the samples of a test are scaled by; the speaker volume of the cockpit is 0 -/
def CliClient.volume : CliClient → Float32
  | .voice => 1
  | .ic => 1
  | .pa => 2
  | .radio => Float32.ofBits 0

theorem kinds_of_test {cfg : MumbleStackConfig} {test : CliClient} (h : cfg.voipClient = voipClient (some test))
    (zone : SharedCockpitZone) (autoSink : Option String) :
    (cfg.runMumbleStack zone autoSink).map SpawnedClient.kind =
      if test = .radio ∧ cfg.radioFeed autoSink = none then [] else [test.kind] := by
  have hfeed : test ≠ .radio → cfg.radioFeed autoSink = none := by
    intro hne
    unfold MumbleStackConfig.radioFeed
    rw [h]
    cases test with
    | radio => exact absurd rfl hne
    | _ => cases cfg.radioSource <;> rfl
  unfold MumbleStackConfig.runMumbleStack
  rw [h]
  cases test with
  | voice => rfl
  | ic =>
    rw [hfeed (by decide)]
    rfl
  | pa =>
    rw [hfeed (by decide)]
    rfl
  | radio => cases cfg.radioFeed autoSink <;> rfl

theorem transmitGate_test (zone : Option CliZone) (test : CliClient) :
    transmitGate test.kind.role (testState zone test) = (true, test.volume) := by
  cases test <;> rfl

theorem transmitGate_default {kind : ClientKind} (h : kind ≠ .voice) :
    (transmitGate kind.role (CockpitState.default F32)).1 = false := by
  cases kind with
  | voice => exact absurd rfl h
  | _ => rfl

/-! ## Runs in one cockpit -/

/-- the cockpit is the same whenever a frame is captured -/
def InCockpit (state : CockpitState F32) (es : List TalkEvent) : Prop :=
  ∀ pcm gateState sendState, TalkEvent.micPcm pcm gateState sendState ∈ es → gateState = state

section

variable {E : Type} (encode : E → List Int16 → List UInt8 × E) (client : AudioClient) {state : CockpitState F32}

theorem gateOpen_of_inCockpit (s : TalkState E) {es : List TalkEvent} (h : InCockpit state es) :
    ∀ call ∈ s.calls encode client es, call.gateOpen = (transmitGate client.role state).1 := by
  induction es generalizing s with
  | nil => exact fun _ hcall => absurd hcall List.not_mem_nil
  | cons e es ih =>
    have hrest : InCockpit state es := fun pcm g g' hmem => h pcm g g' (List.mem_cons_of_mem e hmem)
    cases e with
    | voip e => exact ih _ hrest
    | micPcm pcm gateState sendState =>
      refine List.forall_mem_cons.2 ⟨?_, ih _ hrest⟩
      rw [h pcm gateState sendState List.mem_cons_self]

theorem gateBefore_of_inCockpit (s : TalkState E) {es : List TalkEvent} (h : InCockpit state es)
    (hwas : s.wasTransmitting = (transmitGate client.role state).1 ∨ s.wasTransmitting = false) (k : ℕ) :
    gateBefore s.wasTransmitting (s.keyedCalls encode client es) k = (transmitGate client.role state).1 ∨
      gateBefore s.wasTransmitting (s.keyedCalls encode client es) k = false := by
  cases k with
  | zero => exact hwas
  | succ k =>
    cases hcall : (s.keyedCalls encode client es)[k]? with
    | none => exact Or.inr (by rw [gateBefore, hcall]; rfl)
    | some call =>
      have hmem := List.mem_of_mem_filter (List.mem_of_getElem? hcall)
      refine Or.inl ?_
      rw [gateBefore, hcall]
      exact gateOpen_of_inCockpit encode client s h call hmem

/-- behind an open gate every call sends, and none ends the talkspurt -/
theorem sends_of_open (encoder : E) (zone : SharedCockpitZone) {es : List TalkEvent} (h : InCockpit state es)
    (hopen : (transmitGate client.role state).1 = true) :
    ∀ call ∈ (TalkState.init encoder zone).keyedCalls encode client es,
      ∃ packet, call.packet = some packet ∧ packet.isEnd = false := by
  intro call hcall
  obtain ⟨k, hk⟩ := List.mem_iff_getElem?.1 hcall
  have hgate : call.gateOpen = true :=
    (gateOpen_of_inCockpit encode client _ h call (List.mem_of_mem_filter hcall)).trans hopen
  obtain ⟨hsome, hend⟩ := framed_calls encode client _ es k call hk
  obtain ⟨packet, hpacket⟩ := Option.isSome_iff_exists.1 (hsome.2 (Or.inl hgate))
  refine ⟨packet, hpacket, ?_⟩
  rw [hend packet hpacket, hgate]
  rfl

/-- behind a closed one none sends -/
theorem silent_of_closed (encoder : E) (zone : SharedCockpitZone) {es : List TalkEvent} (h : InCockpit state es)
    (hclosed : (transmitGate client.role state).1 = false) :
    ∀ call ∈ (TalkState.init encoder zone).keyedCalls encode client es, call.packet = none := by
  intro call hcall
  obtain ⟨k, hk⟩ := List.mem_iff_getElem?.1 hcall
  have hgate : call.gateOpen = false :=
    (gateOpen_of_inCockpit encode client _ h call (List.mem_of_mem_filter hcall)).trans hclosed
  obtain ⟨hsome, -⟩ := framed_calls encode client _ es k call hk
  have hbefore : gateBefore false ((TalkState.init encoder zone).keyedCalls encode client es) k = false := by
    rcases gateBefore_of_inCockpit encode client (TalkState.init encoder zone) h (Or.inr rfl) k with hk | hk
    · exact hk.trans hclosed
    · exact hk
  rw [← Option.not_isSome_iff_eq_none, hsome, hgate]
  rintro (hopen | hwas)
  · exact absurd hopen Bool.false_ne_true
  · exact absurd (hbefore.symm.trans hwas) Bool.false_ne_true

end

/-- The two modes. In a test the simulator is not read, and the stack is the one client of the kind asked for, unless it
is the radio and there is nothing to relay; its gate is open from the start, so whatever the server sends, each frame
captured once it has a key goes out, scaled by the volume of the test, and none ends the talkspurt. Otherwise, as long as
the cockpit is the initial one, no client but the voice sends anything. -/
theorem cli_modes {linux : Bool} {io : Io} {args : Args} {state : CockpitState F32} {cfg : MumbleStackConfig}
    {bridge : Bool} (h : main linux io args = .running state cfg bridge) :
    match args.test with
    | some test => bridge = false ∧ ∀ autoSink, let clients := cfg.runMumbleStack state.zone autoSink
      clients.map SpawnedClient.kind = (if test = .radio ∧ cfg.radioFeed autoSink = none then [] else [test.kind]) ∧
      ∀ c ∈ clients, transmitGate c.role state = (true, test.volume) ∧
        ∀ (E : Type) (encode : E → List Int16 → List UInt8 × E) (encoder : E) (es : List TalkEvent),
          InCockpit state es → ∀ call ∈ (TalkState.init encoder state.zone).keyedCalls encode c.toAudioClient es,
            ∃ packet, call.packet = some packet ∧ packet.isEnd = false
    | none => bridge = true ∧ ∀ zone autoSink, ∀ c ∈ cfg.runMumbleStack zone autoSink, c.kind ≠ .voice →
        ∀ (E : Type) (encode : E → List Int16 → List UInt8 × E) (encoder : E) (es : List TalkEvent),
          InCockpit state es → ∀ call ∈ (TalkState.init encoder zone).keyedCalls encode c.toAudioClient es,
            call.packet = none := by
  obtain ⟨userPrefix, flightId, serverTrust, rfl, rfl, rfl⟩ := main_running h
  cases htest : args.test with
  | some test =>
    have hstate : initialState args = testState args.zone test := by rw [initialState, htest]
    refine ⟨rfl, fun autoSink => ?_⟩
    have hclient : (stackConfig linux io args userPrefix flightId serverTrust).voipClient = voipClient (some test) :=
      congrArg voipClient htest
    have hkinds := kinds_of_test hclient (initialState args).zone autoSink
    refine ⟨hkinds, fun c hc => ?_⟩
    have hkind : c.kind = test.kind := by
      have hmem := List.mem_map_of_mem (f := SpawnedClient.kind) hc
      rw [hkinds] at hmem
      split_ifs at hmem
      · exact absurd hmem List.not_mem_nil
      · exact List.mem_singleton.1 hmem
    have hgate : transmitGate c.role (initialState args) = (true, test.volume) := by
      rw [MumbleStackConfig.spawned_role hc, hkind, hstate]
      exact transmitGate_test args.zone test
    exact ⟨hgate, fun E encode encoder es hes =>
      sends_of_open encode c.toAudioClient encoder _ hes (congrArg Prod.fst hgate)⟩
  | none =>
    have hstate : initialState args = .default F32 := by rw [initialState, htest]
    refine ⟨rfl, fun zone autoSink c hc hvoice E encode encoder es hes => ?_⟩
    refine silent_of_closed encode c.toAudioClient encoder zone hes ?_
    rw [MumbleStackConfig.spawned_role hc, hstate]
    exact transmitGate_default hvoice

def noFiles : Io := ⟨fun _ => none, fun _ => none, fun _ _ => .ok (), fun _ => .ok ⟨⟨#[]⟩⟩⟩

def radioTest : Args where
  flightId := some "ZH1"
  xplanePath := none
  user := some "ada"
  radioSource := none
  autoSink := false
  server := "127.0.0.1"
  port := 64738
  password := none
  clientCert := none
  certPass := none
  serverCa := none
  listDevices := false
  test := some .radio
  zone := none
  pos := none
  sine := true
  file := none
  conflicts := fun h => Bool.false_ne_true h.2

/-- the sine tone on the radio -/
theorem cli_modes_radio :
    let cfg := stackConfig true noFiles radioTest "ada" "ZH1" none
    let clients := cfg.runMumbleStack .aroundOrInAircraft none
    clients.map SpawnedClient.kind = [.radio] ∧
      ∀ c ∈ clients, transmitGate c.role (testState none .radio) = (true, Float32.ofBits 0) := by
  intro cfg clients
  have hmain : main true noFiles radioTest = .running (testState none .radio) cfg false := rfl
  obtain ⟨-, hclients⟩ := cli_modes hmain
  obtain ⟨hkinds, hgates⟩ := hclients none
  exact ⟨hkinds.trans rfl, fun c hc => (hgates c hc).1⟩

end MumbledFlight.Cli

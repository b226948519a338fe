/-
The plugin's window and flight loop, as far as they decide about connections: a frame of `GuiState::draw` with the
fields, the Connect button, the probe and the two overlays; `connection::start` and `stop`; and the flight-loop tick
that calls them.

What the user does in a frame, what probe threads write while it is drawn, and what the operating system answers to a
tick are inputs. Both callbacks run on the main thread, so a run is any sequence of frames, ticks and thread writes.
Audio controls, device lists, voice statuses and the configuration file are left out: no decision here reads them.

Each stage of a frame is a definition of its own, in the order `draw` runs them.
-/
import MumbledFlight.Plugin.Trust

namespace MumbledFlight

/-! ## The window -/

/-- the fields of the connection panel -/
structure Fields where
  server : String
  port : UInt16
  serverPassword : String
  certPath : String
  certPass : String
  serverCa : String
  flightId : String
  userName : String
deriving DecidableEq

/-- the key the Server and Port fields make -/
def Fields.key (f : Fields) : String := KnownHosts.key f.server f.port

inductive FilePickTarget where
  | userCert
  | serverCa
deriving DecidableEq

structure GuiState where
  fields : Fields
  /-- the file picker, by the field it fills -/
  filePicker : Option FilePickTarget
  shouldConnect : Bool
  shouldDisconnect : Bool
  knownHosts : KnownHosts
  trustState : TrustState
  probes : Probes
  isConnected : Bool
  status : String

def GuiState.init (fields : Fields) (knownHosts : KnownHosts) : GuiState :=
  ⟨fields, none, false, false, knownHosts, .idle, .empty, false, ""⟩

/-! ## What happens in a frame -/

inductive DialogButton where
  | cancel
  | trust
  | close
deriving DecidableEq

/-- a path the picker offers: the name of a listed file carries one of its extensions, so the path is not blank -/
abbrev ListedPath := { path : String // ¬Blank path }

inductive FilePick where
  | stay
  | closed
  | selected (path : ListedPath)

structure FrameInput where
  /-- the texts in the fields once the user's edits are in -/
  server : String
  serverPassword : String
  certPath : String
  certPass : String
  serverCa : String
  flightId : String
  userName : String
  /-- what was typed into the port field -/
  typedPort : Option Int
  certBrowse : Bool
  caBrowse : Bool
  /-- a click on the button, whichever of Connect and Disconnect it is -/
  button : Bool
  /-- what probe threads write between the button and the poll -/
  arrivals : List (ℕ × ProbeResult)
  pick : FilePick
  dialog : Option DialogButton

/-- `p.clamp(1, 65535) as u16` -/
def clampPort (p : Int) : UInt16 := .ofNat (max 1 (min p 65535)).toNat

/-- the fields after the edits -/
def FrameInput.edited (i : FrameInput) (f : Fields) : Fields where
  server := i.server
  port := match i.typedPort with
    | none => f.port
    | some p => clampPort p
  serverPassword := i.serverPassword
  certPath := i.certPath
  certPass := i.certPass
  serverCa := i.serverCa
  flightId := i.flightId
  userName := i.userName

/-- (connect, disconnect); `active` turns the button into Disconnect -/
def connectButton (active button : Bool) (flightId userName : String) : Bool × Bool :=
  if active then (false, button) else (button && !decide (Blank flightId) && !decide (Blank userName), false)

/-- what the certificate dialog shows -/
structure TrustPrompt where
  server : String
  kind : TrustKind
deriving DecidableEq

inductive TrustChoice where
  | pending
  | cancel
  | trust
deriving DecidableEq

/-- after a failure the dialog has a Close button only -/
def trustContent (view : TrustPrompt) (click : Option DialogButton) : TrustChoice :=
  match view.kind with
  | .failed _ => if click = some .close then .cancel else .pending
  | _ => if click = some .cancel then .cancel else if click = some .trust then .trust else .pending

structure TofuDrawResult where
  shouldConnect : Bool := false
  toStore : Option (String × String) := none

def renderDecision (trustState : TrustState) (click : Option DialogButton) (server : String) :
    TrustState × TofuDrawResult :=
  match trustState with
  | .decide d =>
    match trustContent ⟨server, d.kind⟩ click with
    | .pending => (trustState, {})
    | .cancel => (.idle, {})
    | .trust =>
      let toStore := d.pem.map fun pem => (d.key, pem)
      (.idle, ⟨toStore.isSome, toStore⟩)
  | _ => (trustState, {})

namespace GuiState

/-- the button's share of a frame -/
structure Pressed where
  trustState : TrustState
  probes : Probes
  shouldConnect : Bool
  shouldDisconnect : Bool

def press (g : GuiState) (i : FrameInput) : Pressed :=
  let f := i.edited g.fields
  let tofuActive := match g.trustState with
    | .idle => false
    | _ => true
  let (conn, disc) := connectButton (g.isConnected || tofuActive || g.filePicker.isSome) i.button f.flightId f.userName
  let trustState := if disc then .idle else g.trustState
  if conn then
    if Blank f.serverCa then
      let r := startProbe g.probes f.key (g.knownHosts.lookup f.key) f.server f.port
      ⟨r.1, r.2, false, disc⟩
    else ⟨trustState, g.probes, true, disc⟩
  else ⟨trustState, g.probes, false, disc⟩

/-- a Browse button opens the picker, the client certificate's first -/
def openPicker (g : GuiState) (i : FrameInput) : Option FilePickTarget :=
  match g.filePicker with
  | some target => some target
  | none => if i.certBrowse then some .userCert else if i.caBrowse then some .serverCa else none

/-- the picker's overlay: whether it stays open, and the field it fills -/
def pickFile (picker : Option FilePickTarget) (pick : FilePick) :
    Option FilePickTarget × Option (FilePickTarget × ListedPath) :=
  match picker, pick with
  | none, _ => (none, none)
  | some target, .stay => (some target, none)
  | some _, .closed => (none, none)
  | some target, .selected path => (none, some (target, path))

/-- the fields the frame leaves: the edits, and what the picker filled in -/
def finalFields (g : GuiState) (i : FrameInput) : Fields :=
  let f := i.edited g.fields
  match (pickFile (g.openPicker i) i.pick).2 with
  | none => f
  | some (.userCert, path) => { f with certPath := path }
  | some (.serverCa, path) => { f with serverCa := path }

section

variable {X509 : Type} (lib : CertLib X509)

/-- the trust flow after the poll -/
def polled (g : GuiState) (i : FrameInput) : TrustState × Probes × Bool :=
  let b := g.press i
  pollStep lib b.trustState (i.arrivals.foldl (fun ps a => ps.write a.1 a.2) b.probes)

/-- the dialog the frame shows -/
def shown (g : GuiState) (i : FrameInput) : Option TrustPrompt :=
  match (g.polled lib i).1 with
  | .decide d => some ⟨(i.edited g.fields).server, d.kind⟩
  | _ => none

def decided (g : GuiState) (i : FrameInput) : TrustState × TofuDrawResult :=
  renderDecision (g.polled lib i).1 i.dialog (i.edited g.fields).server

def draw (g : GuiState) (i : FrameInput) : GuiState :=
  let b := g.press i
  let tofu := g.decided lib i
  { g with
    fields := g.finalFields i
    filePicker := (pickFile (g.openPicker i) i.pick).1
    trustState := tofu.1
    probes := (g.polled lib i).2.1
    shouldConnect := g.shouldConnect || b.shouldConnect || (g.polled lib i).2.2 || tofu.2.shouldConnect
    shouldDisconnect := g.shouldDisconnect || b.shouldDisconnect
    knownHosts := match tofu.2.toStore with
      | none => g.knownHosts
      | some (key, pem) => g.knownHosts.insertAndSave key pem }

/-- a frame that finds no renderer has already taken the picker and the trust flow out of the state -/
def drawWithoutRenderer (g : GuiState) : GuiState := { g with filePicker := none, trustState := .idle }

end

/-! ## The flight loop -/

/-- what the operating system answers: the async runtime, the client certificate file, the Server CA file -/
structure TickInput where
  runtime : Except String Unit
  clientCert : Except String Unit
  serverCa : Except String ServerTrust

/-- `MumbleStackConfig`, as far as it says whom the stack connects to and how it is authenticated -/
structure Dial where
  serverHost : String
  serverPort : UInt16
  serverPassword : String
  hasClientCert : Bool
  serverTrust : Option ServerTrust
  userName : String
  sessionId : String
deriving DecidableEq

section

variable {X509 : Type} (lib : CertLib X509)

def loadClientCert (g : GuiState) (t : TickInput) : Except String Bool :=
  if Blank g.fields.certPath then .ok false
  else
    match t.clientCert with
    | .ok _ => .ok true
    | .error e => .error ("Client certificate error: " ++ e)

/-- the Server CA wins, then the pin of the server in the fields -/
def loadServerTrust (g : GuiState) (t : TickInput) : Except String (Option ServerTrust) :=
  if ¬Blank g.fields.serverCa then
    match t.serverCa with
    | .ok trust => .ok (some trust)
    | .error e => .error ("Server CA error: " ++ e)
  else
    match g.knownHosts.lookup g.fields.key with
    | some pem =>
      match ServerTrust.fromPem lib pem.toUTF8 with
      | .ok trust => .ok (some trust)
      | .error e => .error ("Stored server certificate for " ++ g.fields.key ++ " is corrupt: " ++ e ++
          ". Reconnect to re-trust the server.")
    | none => .ok none

/-- `connection::start`; an error leaves its text in the status line -/
def start (g : GuiState) (t : TickInput) : GuiState × Option Dial :=
  match t.runtime with
  | .error e => ({ g with status := "Failed to start async runtime: " ++ e }, none)
  | .ok _ =>
    match g.loadClientCert t with
    | .error msg => ({ g with status := msg }, none)
    | .ok hasClientCert =>
      match g.loadServerTrust lib t with
      | .error msg => ({ g with status := msg }, none)
      | .ok serverTrust =>
        ({ g with
            isConnected := true
            status := if serverTrust.isNone then
              "Warning: server identity unverified — set a Server CA to authenticate the server." else "" },
          some
            { serverHost := g.fields.server
              serverPort := g.fields.port
              serverPassword := g.fields.serverPassword
              hasClientCert
              serverTrust
              userName := g.fields.userName
              sessionId := g.fields.flightId })

/-- `connection::stop` -/
def stop (g : GuiState) : GuiState := { g with isConnected := false, status := "" }

def connectIfAsked (g : GuiState) (t : TickInput) : GuiState × Option Dial :=
  if g.shouldConnect then start lib { g with shouldConnect := false } t else (g, none)

def disconnectIfAsked (g : GuiState) : GuiState :=
  if g.shouldDisconnect then stop { g with shouldDisconnect := false } else g

/-- `flight_loop_cb`: the new state, and the connection it opens -/
def tick (g : GuiState) (t : TickInput) : GuiState × Option Dial :=
  let r := g.connectIfAsked lib t
  (r.1.disconnectIfAsked, r.2)

end

end GuiState

/-! ## Runs -/

inductive GuiEvent where
  | frame (i : FrameInput)
  | frameWithoutRenderer
  | probeWrites (gen : ℕ) (r : ProbeResult)
  | tick (t : GuiState.TickInput)

def GuiState.step {X509 : Type} (lib : CertLib X509) (g : GuiState) : GuiEvent → GuiState
  | .frame i => g.draw lib i
  | .frameWithoutRenderer => g.drawWithoutRenderer
  | .probeWrites gen r => { g with probes := g.probes.write gen r }
  | .tick t => (g.tick lib t).1

end MumbledFlight

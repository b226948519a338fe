/-
The position a voice packet carries (`position_bytes`, `encode_pos` and `parse_position`), as bit patterns, and the way
the receiver renders the packet (`on_udp_recv`, `spatialize`). A packet of the public address has no position: that is
the only thing that tells it from the others.

Results, for every sender, cockpit and receiver:
- `parsePosition_encodePos`, `parsePosition_isSome_iff`, `parsePosition_take`: the byte codec.
- `position_agreed`: the receiver parses the sender's three floats, bit by bit, unless the sender is the interphone or
  the public address; so it plays just these two as the public address.
- `pathGains_of_path`: the gains over exact reals are those of the path chosen here.
-/
import MumbledFlight.Lib.F32
import MumbledFlight.Voip.Session
import MumbledFlight.Voip.Spatial

namespace MumbledFlight

/-- `MumbleVoipClient`, with what its audio side reads -/
structure AudioClient extends MumbleVoipClient where
  testPos : Option (Vec3 F32)
deriving DecidableEq

namespace Wire

/-! ## Positions on the wire -/

def xplaneToMumble (pos : Vec3 F32) : Vec3 F32 := (pos.1, pos.2.1, pos.2.2.neg)

def encodePos (x y z : F32) : List UInt8 := x.toLeBytes ++ (y.toLeBytes ++ z.toLeBytes)

def parsePosition (posBytes : Option (List UInt8)) : Option (Vec3 F32) :=
  posBytes.bind fun bytes =>
    (F32.readLe bytes).bind fun (x, bytes) =>
      (F32.readLe bytes).bind fun (y, bytes) =>
        (F32.readLe bytes).bind fun (z, _) => some (x, y, z)

def positionBytes (client : AudioClient) (s : CockpitState F32) : Option (List UInt8) :=
  match client.role with
  | .ic | .pa => none
  | .voice | .radio _ =>
    match client.testPos with
    | some tp => some (encodePos tp.1 tp.2.1 tp.2.2)
    | none =>
      let pos := xplaneToMumble s.pos
      some (encodePos pos.1 pos.2.1 pos.2.2)

/-- -1.2, 1.2, -1.0, 1.2, -1.7 and 8.0, the fuselage's bounds -/
def fuselageXMin : F32 := ⟨0xBF99999A⟩
def fuselageXMax : F32 := ⟨0x3F99999A⟩
def fuselageYMin : F32 := ⟨0xBF800000⟩
def fuselageYMax : F32 := ⟨0x3F99999A⟩
def fuselageZMin : F32 := ⟨0xBFD9999A⟩
def fuselageZMax : F32 := ⟨0x41000000⟩

def isInsideAircraft (pos : Vec3 F32) : Bool :=
  pos.1.gt fuselageXMin && fuselageXMax.gt pos.1 && pos.2.1.gt fuselageYMin && fuselageYMax.gt pos.2.1 &&
    pos.2.2.gt fuselageZMin && fuselageZMax.gt pos.2.2

end Wire

/-! ## What the receiver does with it -/

inductive SpatialPath where
  | pa
  | sameSide
  | acrossHull
deriving DecidableEq

/-- the branch `spatialize` takes, for positions in any scalars -/
def spatialPath {F : Type} (inside : Vec3 F → Prop) [DecidablePred inside] (listenerPos : Vec3 F)
    (sourcePos : Option (Vec3 F)) : SpatialPath :=
  match sourcePos with
  | none => .pa
  | some spos => if ¬(inside listenerPos ↔ inside spos) then .acrossHull else .sameSide

inductive RenderPath where
  /-- the interphone: headphones, no position -/
  | flat
  | spatial (path : SpatialPath)
deriving DecidableEq

/-- how `on_udp_recv` renders the frame of a packet it could decode; none if it drops the packet -/
def renderPath (client : AudioClient) (mySession : Option UInt32) (state : CockpitState F32) (sessionId : UInt32)
    (positionInfo : Option (List UInt8)) : Option RenderPath :=
  if mySession = some sessionId then none -- the own echo
  else
    match client.role with
    | .pa | .radio _ => none -- these only send
    | .ic => if state.role ≠ .pilot ∨ state.icTog = false then none else some .flat
    | .voice =>
      some (.spatial (spatialPath (fun pos => Wire.isInsideAircraft pos = true) (Wire.xplaneToMumble state.pos)
        (Wire.parsePosition positionInfo)))

theorem spatialPath_eq_pa_iff {F : Type} (inside : Vec3 F → Prop) [DecidablePred inside] (listenerPos : Vec3 F)
    (sourcePos : Option (Vec3 F)) : spatialPath inside listenerPos sourcePos = .pa ↔ sourcePos = none := by
  unfold spatialPath
  split
  · simp
  · split_ifs <;> simp

open Classical in
/-- over exact reals the gains before the width are those of the path -/
theorem pathGains_of_path (sourcePos : Option (Vec3 ℝ)) (state : CockpitState ℝ) :
    match sourcePos, spatialPath isInsideAircraft (xplaneToMumble state.pos) sourcePos with
    | some spos, .sameSide => pathGains sourcePos state =
        computeStereoGains spos (xplaneToMumble state.pos) state.rot state.door state.doorLav
    | some spos, .acrossHull => pathGains sourcePos state =
        aircraftSkinGains spos (xplaneToMumble state.pos) state.rot state.door state.doorLav state.doorMain
    | _, _ => pathGains sourcePos state =
        (paGain (xplaneToMumble state.pos) state.door state.doorMain,
          paGain (xplaneToMumble state.pos) state.door state.doorMain) := by
  cases sourcePos with
  | none => rfl
  | some spos =>
    simp only [spatialPath, pathGains]
    split_ifs <;> rfl

namespace Wire

/-! ## The codec -/

@[simp] theorem xplaneToMumble_xplaneToMumble (pos : Vec3 F32) : xplaneToMumble (xplaneToMumble pos) = pos := by
  simp [xplaneToMumble]

theorem parsePosition_encodePos (x y z : F32) : parsePosition (some (encodePos x y z)) = some (x, y, z) := by
  have hlast := F32.readLe_toLeBytes z []
  rw [List.append_nil] at hlast
  simp only [parsePosition, encodePos, Option.bind_some, F32.readLe_toLeBytes, hlast]

theorem parsePosition_isSome_iff (bytes : List UInt8) :
    (parsePosition (some bytes)).isSome ↔ 12 ≤ bytes.length := by
  unfold parsePosition
  rw [Option.bind_some]
  rcases F32.readLe_cases bytes with ⟨hlen, h⟩ | ⟨x, bytes', h, hlen⟩
  · simp only [h, Option.bind_none, Option.isSome_none]
    exact iff_of_false Bool.false_ne_true (by omega)
  rcases F32.readLe_cases bytes' with ⟨hlen', h'⟩ | ⟨y, bytes'', h', hlen'⟩
  · simp only [h, h', Option.bind_some, Option.bind_none, Option.isSome_none]
    exact iff_of_false Bool.false_ne_true (by omega)
  rcases F32.readLe_cases bytes'' with ⟨hlen'', h''⟩ | ⟨z, bytes''', h'', hlen''⟩
  · simp only [h, h', h'', Option.bind_some, Option.bind_none, Option.isSome_none]
    exact iff_of_false Bool.false_ne_true (by omega)
  · simp only [h, h', h'', Option.bind_some, Option.isSome_some]
    exact iff_of_true trivial (by omega)

theorem parsePosition_take (bytes : List UInt8) :
    parsePosition (some (bytes.take 12)) = parsePosition (some bytes) := by
  simp only [parsePosition, Option.bind_some]
  rw [F32.readLe_take 8 bytes]
  cases F32.readLe bytes with
  | none => rfl
  | some r =>
    obtain ⟨x, bytes⟩ := r
    simp only [Option.map_some, Option.bind_some]
    rw [F32.readLe_take 4 bytes]
    cases F32.readLe bytes with
    | none => rfl
    | some r =>
      obtain ⟨y, bytes⟩ := r
      simp only [Option.map_some, Option.bind_some]
      rw [F32.readLe_take 0 bytes]
      cases F32.readLe bytes with
      | none => rfl
      | some r => rfl

/-- a sender with a position: the one it was given, or its head's -/
theorem parsePosition_positionBytes (client : AudioClient) (s : CockpitState F32) :
    parsePosition (positionBytes client s) =
      if client.role = .ic ∨ client.role = .pa then none
      else some (client.testPos.getD (xplaneToMumble s.pos)) := by
  have hsome : ∀ pos : Vec3 F32, parsePosition (some (encodePos pos.1 pos.2.1 pos.2.2)) = some pos :=
    fun pos => parsePosition_encodePos _ _ _
  unfold positionBytes
  cases client.role with
  | ic => rfl
  | pa => rfl
  | voice => cases client.testPos <;> simp [hsome]
  | radio hasSource => cases client.testPos <;> simp [hsome]

end Wire

open Wire

/-- Position and public address. The receiver parses no position exactly from the interphone and the public address,
and from the others the sender's own floats; so a Voice client plays as the public address exactly these. Of received
bytes the first twelve are read, if there are that many. -/
theorem position_agreed (sender : AudioClient) (state : CockpitState F32) :
    (parsePosition (positionBytes sender state) = none ↔ sender.role = .ic ∨ sender.role = .pa) ∧
    ((sender.role = .voice ∨ ∃ hasSource, sender.role = .radio hasSource) →
      parsePosition (positionBytes sender state) = some (sender.testPos.getD (Wire.xplaneToMumble state.pos))) ∧
    Wire.xplaneToMumble (Wire.xplaneToMumble state.pos) = state.pos ∧
    (∀ (receiver : AudioClient) (mySession : Option UInt32) (listener : CockpitState F32) (sessionId : UInt32),
      receiver.role = .voice → mySession ≠ some sessionId →
        ∃ path, renderPath receiver mySession listener sessionId (positionBytes sender state) = some (.spatial path) ∧
          (path = .pa ↔ sender.role = .ic ∨ sender.role = .pa)) ∧
    ∀ bytes, ((parsePosition (some bytes)).isSome ↔ 12 ≤ bytes.length) ∧
      parsePosition (some (bytes.take 12)) = parsePosition (some bytes) := by
  have hparse := parsePosition_positionBytes sender state
  have hnone : parsePosition (positionBytes sender state) = none ↔ sender.role = .ic ∨ sender.role = .pa := by
    rw [hparse]
    split_ifs with h <;> simp [h]
  refine ⟨hnone, ?_, xplaneToMumble_xplaneToMumble _, ?_, ?_⟩
  · intro h
    rw [hparse, if_neg]
    rcases h with h | ⟨_, h⟩ <;> simp [h]
  · intro receiver mySession listener sessionId hvoice hecho
    have hpath : renderPath receiver mySession listener sessionId (positionBytes sender state) =
        some (.spatial (spatialPath (fun pos => Wire.isInsideAircraft pos = true) (Wire.xplaneToMumble listener.pos)
          (parsePosition (positionBytes sender state)))) := by
      simp only [renderPath, if_neg hecho, hvoice]
    exact ⟨_, hpath, (spatialPath_eq_pa_iff _ _ _).trans hnone⟩
  · exact fun bytes => ⟨parsePosition_isSome_iff bytes, parsePosition_take bytes⟩

end MumbledFlight

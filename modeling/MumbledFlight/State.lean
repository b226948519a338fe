/-
The shared cockpit state: the seat, role, zone and microphone selection the simulator reports, and the record that
collects every DataRef. Scalars (positions, angles, volumes, door openings) are of any type F: the acoustic model reads
them as exact reals, the byte codec as bit patterns.
-/
import Mathlib.Data.Nat.Notation
import Mathlib.Algebra.Group.Defs

namespace MumbledFlight

inductive CockpitSeat where
  | captain
  | firstOfficer
deriving DecidableEq, Repr

inductive SharedCockpitZone where
  | inFbo
  | aroundOrInAircraft
deriving DecidableEq, Repr

inductive AcpMicSelection where
  | vhf1
  | vhf2
  | vhf3
  | hf1
  | hf2
  | intSvc
  | pa
deriving DecidableEq, Repr

inductive SharedCockpitRole where
  | pilot
  | jumpseater
  | pax
  | spectator
deriving DecidableEq, Repr

/-- a `[f32; 3]` -/
abbrev Vec3 (F : Type) := F × F × F

structure CockpitState (F : Type) where
  pos : Vec3 F
  rot : Vec3 F
  planeRot : Vec3 F
  seat : CockpitSeat
  role : SharedCockpitRole
  zone : SharedCockpitZone
  acpIc : Bool
  contwheelIc : Bool
  acpRt : Bool
  contwheelRt : Bool
  mic : AcpMicSelection
  spkrTog : Bool
  spkrVol : F
  icTog : Bool
  icVol : F
  /-- cabin door: 0 closed, 0.95 panel removed, 1 stored -/
  door : F
  doorLav : F
  doorMain : F
  com1Rx : Bool
  com2Rx : Bool
  isGuest : Bool
deriving DecidableEq

/-- `CockpitState::default`: doors open, so that nothing is attenuated before the DataRefs are read -/
def CockpitState.default (F : Type) [Zero F] [One F] : CockpitState F where
  pos := (0, 0, 0)
  rot := (0, 0, 0)
  planeRot := (0, 0, 0)
  seat := .captain
  role := .pilot
  zone := .inFbo
  acpIc := false
  contwheelIc := false
  acpRt := false
  contwheelRt := false
  mic := .vhf1
  spkrTog := false
  spkrVol := 0
  icTog := false
  icVol := 0
  door := 1
  doorLav := 1
  doorMain := 1
  com1Rx := false
  com2Rx := false
  isGuest := false

namespace CockpitState

variable {F : Type}

/-- seated as Pilot, the interphone keyed, the radio not keyed -/
def shouldTransmitIc (s : CockpitState F) : Bool :=
  s.role = .pilot && (s.acpIc || s.contwheelIc) && !s.acpRt && !s.contwheelRt

/-- seated as Pilot, the selector on PA, the radio keyed -/
def shouldTransmitPa (s : CockpitState F) : Bool :=
  s.role = .pilot && s.mic = .pa && (s.acpRt || s.contwheelRt)

def shouldTransmitRadio (s : CockpitState F) (hasSource : Bool) : Bool :=
  hasSource && !s.isGuest && (s.com1Rx || s.com2Rx) && s.spkrTog

end CockpitState

end MumbledFlight

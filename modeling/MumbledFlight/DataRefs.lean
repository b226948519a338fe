/-
The DataRefs and what their values do to the cockpit state (`DataRefId`, `CockpitState::owns`,
`CockpitState::update_from_float` in `state.rs`).

Each seat has its own set of nine controls. A value of one of them is applied only while its seat is the occupied one;
all other DataRefs always apply.

Results, for every state, DataRef and value:
- `owns_eq`: a control is owned exactly by the occupant of its seat.
- `updateFromFloat_seat`, `updateFromFloat_control`, `updateFromFloat_shared`: what an update can change.
- `holds_set_self`, `holds_set_other`: a control's value is what was written to it last.
-/
import MumbledFlight.Lib.F32
import MumbledFlight.State

namespace MumbledFlight

inductive DataRefId where
  | headX | headY | headZ
  | headPsi | headThe | headPhi
  | planePsi
  | pilotSeat
  | sharedCkptRole
  | sharedCkptZone
  | acp1Ic | acp1Rt | acp1Mic | acp1SpkrTog | acp1SpkrVol | acp1IntSvcTog | acp1IntSvcVol
  | acp2Ic | acp2Rt | acp2Mic | acp2SpkrTog | acp2SpkrVol | acp2IntSvcTog | acp2IntSvcVol
  | contwheel0Ic | contwheel1Ic
  | contwheel0Rt | contwheel1Rt
  | doorCabin
  | doorLavatory
  | doorMain
  | sharedCkptIsGuest
  | xpilotCom1Rx
  | xpilotCom2Rx
deriving DecidableEq

def DataRefId.all : List DataRefId :=
  [.headX, .headY, .headZ, .headPsi, .headThe, .headPhi, .planePsi, .pilotSeat, .sharedCkptRole, .sharedCkptZone,
    .acp1Ic, .acp1Rt, .acp1Mic, .acp1SpkrTog, .acp1SpkrVol, .acp1IntSvcTog, .acp1IntSvcVol,
    .acp2Ic, .acp2Rt, .acp2Mic, .acp2SpkrTog, .acp2SpkrVol, .acp2IntSvcTog, .acp2IntSvcVol,
    .contwheel0Ic, .contwheel1Ic, .contwheel0Rt, .contwheel1Rt, .doorCabin, .doorLavatory, .doorMain,
    .sharedCkptIsGuest, .xpilotCom1Rx, .xpilotCom2Rx]

theorem DataRefId.mem_all (id : DataRefId) : id ∈ all := by
  cases id <;> decide

theorem DataRefId.nodup_all : all.Nodup := by
  decide

/-! ## Codes -/

def CockpitSeat.fromInt : ℤ → Except ℤ CockpitSeat
  | 0 => .ok .captain
  | 1 => .ok .firstOfficer
  | n => .error n

/-- 1 is not a zone -/
def SharedCockpitZone.fromInt : ℤ → Except ℤ SharedCockpitZone
  | 0 => .ok .inFbo
  | 2 => .ok .aroundOrInAircraft
  | n => .error n

def AcpMicSelection.fromInt : ℤ → Except ℤ AcpMicSelection
  | 0 => .ok .vhf1
  | 1 => .ok .vhf2
  | 2 => .ok .vhf3
  | 3 => .ok .hf1
  | 4 => .ok .hf2
  | 5 => .ok .intSvc
  | 6 => .ok .pa
  | n => .error n

def SharedCockpitRole.fromInt : ℤ → Except ℤ SharedCockpitRole
  | 0 => .ok .pilot
  | 1 => .ok .jumpseater
  | 2 => .ok .pax
  | 3 => .ok .spectator
  | n => .error n

namespace CockpitState

/-- 0.1 -/
def boolThreshold : F32 := ⟨0x3DCCCCCD⟩

def f32ToBool (v : F32) : Bool := v.gt boolThreshold

def f32ToInt (v : F32) : ℤ := v.roundToInt32

/-- a seat-specific DataRef belongs to the occupied seat -/
def owns (s : CockpitState F32) (id : DataRefId) : Bool :=
  let isLeft := decide (s.seat = .captain)
  match id with
  | .acp1Ic | .acp1Rt | .acp1Mic | .acp1SpkrTog | .acp1SpkrVol | .acp1IntSvcTog | .acp1IntSvcVol | .contwheel0Ic
  | .contwheel0Rt => isLeft
  | .acp2Ic | .acp2Rt | .acp2Mic | .acp2SpkrTog | .acp2SpkrVol | .acp2IntSvcTog | .acp2IntSvcVol | .contwheel1Ic
  | .contwheel1Rt => !isLeft
  | .headX | .headY | .headZ | .headPsi | .headThe | .headPhi | .planePsi | .pilotSeat | .sharedCkptRole
  | .sharedCkptZone | .doorCabin | .doorLavatory | .doorMain | .sharedCkptIsGuest | .xpilotCom1Rx | .xpilotCom2Rx =>
    true

/-- applies one DataRef value; an unknown code is ignored (with a warning in the log) -/
def updateFromFloat (s : CockpitState F32) (id : DataRefId) (val : F32) : CockpitState F32 :=
  let mine := s.owns id
  match id with
  | .headX => { s with pos := (val, s.pos.2) }
  | .headY => { s with pos := (s.pos.1, val, s.pos.2.2) }
  | .headZ => { s with pos := (s.pos.1, s.pos.2.1, val) }
  | .headPsi => { s with rot := (val, s.rot.2) }
  | .headThe => { s with rot := (s.rot.1, val, s.rot.2.2) }
  | .headPhi => { s with rot := (s.rot.1, s.rot.2.1, val) }
  | .planePsi => { s with planeRot := (val, s.planeRot.2) }
  | .pilotSeat =>
    match CockpitSeat.fromInt (f32ToInt val) with
    | .ok seat => { s with seat := seat }
    | .error _ => s
  | .sharedCkptRole =>
    match SharedCockpitRole.fromInt (f32ToInt val) with
    | .ok role => { s with role := role }
    | .error _ => s
  | .sharedCkptZone =>
    match SharedCockpitZone.fromInt (f32ToInt val) with
    | .ok zone => { s with zone := zone }
    | .error _ => s
  | .acp1Ic | .acp2Ic => if mine then { s with acpIc := f32ToBool val } else s
  | .acp1Rt | .acp2Rt => if mine then { s with acpRt := f32ToBool val } else s
  | .acp1Mic | .acp2Mic =>
    if mine then
      match AcpMicSelection.fromInt (f32ToInt val) with
      | .ok mic => { s with mic := mic }
      | .error _ => s
    else s
  | .acp1SpkrTog | .acp2SpkrTog => if mine then { s with spkrTog := f32ToBool val } else s
  | .acp1SpkrVol | .acp2SpkrVol => if mine then { s with spkrVol := val } else s
  | .acp1IntSvcTog | .acp2IntSvcTog => if mine then { s with icTog := f32ToBool val } else s
  | .acp1IntSvcVol | .acp2IntSvcVol => if mine then { s with icVol := val } else s
  | .contwheel0Ic | .contwheel1Ic => if mine then { s with contwheelIc := f32ToBool val } else s
  | .contwheel0Rt | .contwheel1Rt => if mine then { s with contwheelRt := f32ToBool val } else s
  | .doorCabin => { s with door := val }
  | .doorLavatory => { s with doorLav := val }
  | .doorMain => { s with doorMain := val }
  | .xpilotCom1Rx => { s with com1Rx := f32ToBool val }
  | .xpilotCom2Rx => { s with com2Rx := f32ToBool val }
  | .sharedCkptIsGuest => { s with isGuest := f32ToBool val }

end CockpitState

open CockpitState

/-! ## The controls of a seat -/

/-- the controls each seat has -/
inductive SeatControl where
  | acpIc | acpRt | mic | spkrTog | spkrVol | icTog | icVol | contwheelIc | contwheelRt
deriving DecidableEq

/-- the seat a DataRef belongs to, and which of its controls it is -/
def DataRefId.control : DataRefId → Option (CockpitSeat × SeatControl)
  | .acp1Ic => some (.captain, .acpIc)
  | .acp1Rt => some (.captain, .acpRt)
  | .acp1Mic => some (.captain, .mic)
  | .acp1SpkrTog => some (.captain, .spkrTog)
  | .acp1SpkrVol => some (.captain, .spkrVol)
  | .acp1IntSvcTog => some (.captain, .icTog)
  | .acp1IntSvcVol => some (.captain, .icVol)
  | .contwheel0Ic => some (.captain, .contwheelIc)
  | .contwheel0Rt => some (.captain, .contwheelRt)
  | .acp2Ic => some (.firstOfficer, .acpIc)
  | .acp2Rt => some (.firstOfficer, .acpRt)
  | .acp2Mic => some (.firstOfficer, .mic)
  | .acp2SpkrTog => some (.firstOfficer, .spkrTog)
  | .acp2SpkrVol => some (.firstOfficer, .spkrVol)
  | .acp2IntSvcTog => some (.firstOfficer, .icTog)
  | .acp2IntSvcVol => some (.firstOfficer, .icVol)
  | .contwheel1Ic => some (.firstOfficer, .contwheelIc)
  | .contwheel1Rt => some (.firstOfficer, .contwheelRt)
  | _ => none

namespace SeatControl

def dataRef : CockpitSeat → SeatControl → DataRefId
  | .captain, .acpIc => .acp1Ic
  | .captain, .acpRt => .acp1Rt
  | .captain, .mic => .acp1Mic
  | .captain, .spkrTog => .acp1SpkrTog
  | .captain, .spkrVol => .acp1SpkrVol
  | .captain, .icTog => .acp1IntSvcTog
  | .captain, .icVol => .acp1IntSvcVol
  | .captain, .contwheelIc => .contwheel0Ic
  | .captain, .contwheelRt => .contwheel0Rt
  | .firstOfficer, .acpIc => .acp2Ic
  | .firstOfficer, .acpRt => .acp2Rt
  | .firstOfficer, .mic => .acp2Mic
  | .firstOfficer, .spkrTog => .acp2SpkrTog
  | .firstOfficer, .spkrVol => .acp2SpkrVol
  | .firstOfficer, .icTog => .acp2IntSvcTog
  | .firstOfficer, .icVol => .acp2IntSvcVol
  | .firstOfficer, .contwheelIc => .contwheel1Ic
  | .firstOfficer, .contwheelRt => .contwheel1Rt

/-- the control's field of the state is the decoded value -/
def Holds (s : CockpitState F32) (v : F32) : SeatControl → Prop
  | acpIc => s.acpIc = f32ToBool v
  | acpRt => s.acpRt = f32ToBool v
  | mic => AcpMicSelection.fromInt (f32ToInt v) = .ok s.mic
  | spkrTog => s.spkrTog = f32ToBool v
  | spkrVol => s.spkrVol = v
  | icTog => s.icTog = f32ToBool v
  | icVol => s.icVol = v
  | contwheelIc => s.contwheelIc = f32ToBool v
  | contwheelRt => s.contwheelRt = f32ToBool v

/-- what an applied value of the control does -/
def set (s : CockpitState F32) (v : F32) : SeatControl → CockpitState F32
  | acpIc => { s with acpIc := f32ToBool v }
  | acpRt => { s with acpRt := f32ToBool v }
  | mic =>
    match AcpMicSelection.fromInt (f32ToInt v) with
    | .ok m => { s with mic := m }
    | .error _ => s
  | spkrTog => { s with spkrTog := f32ToBool v }
  | spkrVol => { s with spkrVol := v }
  | icTog => { s with icTog := f32ToBool v }
  | icVol => { s with icVol := v }
  | contwheelIc => { s with contwheelIc := f32ToBool v }
  | contwheelRt => { s with contwheelRt := f32ToBool v }

/-- the value is a code the control knows -/
def ValidCode (v : F32) : SeatControl → Prop
  | mic => ∃ m, AcpMicSelection.fromInt (f32ToInt v) = .ok m
  | _ => True

theorem control_dataRef (seat : CockpitSeat) (c : SeatControl) : (c.dataRef seat).control = some (seat, c) := by
  cases seat <;> cases c <;> rfl

theorem dataRef_of_control {id : DataRefId} {seat : CockpitSeat} {c : SeatControl}
    (h : id.control = some (seat, c)) : id = c.dataRef seat := by
  cases id <;> simp only [DataRefId.control, Option.some.injEq, Prod.mk.injEq, reduceCtorEq] at h <;>
    obtain ⟨rfl, rfl⟩ := h <;> rfl

theorem holds_set_self (s : CockpitState F32) {v : F32} {c : SeatControl} (h : c.ValidCode v) :
    c.Holds (c.set s v) v := by
  cases c with
  | mic =>
    obtain ⟨m, hm⟩ := h
    simp only [Holds, set, hm]
  | _ => rfl

/-- only the mic's write set depends on the value -/
theorem set_mic_fields (s : CockpitState F32) (v : F32) : ∃ m, mic.set s v = { s with mic := m } := by
  simp only [set]
  split
  · exact ⟨_, rfl⟩
  · exact ⟨s.mic, rfl⟩

theorem holds_set_other (s : CockpitState F32) (v w : F32) {c c' : SeatControl} (h : c' ≠ c) :
    c.Holds (c'.set s v) w ↔ c.Holds s w := by
  by_cases hmic : c' = mic
  · obtain ⟨m, hm⟩ := set_mic_fields s v
    rw [hmic, hm]
    rw [hmic] at h
    cases c <;> first | exact absurd rfl h | exact Iff.rfl
  · cases c' <;> cases c <;> first | exact absurd rfl h | exact absurd rfl hmic | exact Iff.rfl

theorem set_seat (s : CockpitState F32) (v : F32) (c : SeatControl) : (c.set s v).seat = s.seat := by
  cases c with
  | mic =>
    obtain ⟨m, hm⟩ := set_mic_fields s v
    rw [hm]
  | _ => rfl

end SeatControl

/-! ## What an update can change -/

theorem owns_eq (s : CockpitState F32) (id : DataRefId) :
    s.owns id = match id.control with
      | some (seat, _) => decide (s.seat = seat)
      | none => true := by
  cases id <;> cases hs : s.seat <;> simp [owns, DataRefId.control, hs]

/-- a control is written if its seat is the occupied one, and nothing happens otherwise -/
theorem updateFromFloat_control (s : CockpitState F32) {id : DataRefId} {seat : CockpitSeat} {c : SeatControl}
    (h : id.control = some (seat, c)) (val : F32) :
    s.updateFromFloat id val = if s.seat = seat then c.set s val else s := by
  have howns := owns_eq s id
  rw [h] at howns
  by_cases hseat : s.seat = seat
  · simp only [hseat, decide_true] at howns
    rw [if_pos hseat]
    cases id <;> simp only [DataRefId.control, Option.some.injEq, Prod.mk.injEq, reduceCtorEq] at h <;>
      obtain ⟨-, rfl⟩ := h <;> simp only [updateFromFloat, howns, if_true] <;> rfl
  · simp only [hseat, decide_false] at howns
    rw [if_neg hseat]
    cases id <;> simp only [DataRefId.control, reduceCtorEq] at h <;>
      simp only [updateFromFloat, howns, Bool.false_eq_true, if_false]

/-- the other DataRefs touch no control -/
theorem updateFromFloat_shared (s : CockpitState F32) {id : DataRefId} (h : id.control = none) (val : F32)
    (c : SeatControl) (w : F32) : c.Holds (s.updateFromFloat id val) w ↔ c.Holds s w := by
  cases id <;> simp only [DataRefId.control, reduceCtorEq] at h
  case pilotSeat | sharedCkptRole | sharedCkptZone =>
    simp only [updateFromFloat]
    split <;> cases c <;> rfl
  all_goals cases c <;> rfl

theorem updateFromFloat_seat_of_ne (s : CockpitState F32) {id : DataRefId} (h : id ≠ .pilotSeat) (val : F32) :
    (s.updateFromFloat id val).seat = s.seat := by
  cases hc : id.control with
  | some p =>
    rw [updateFromFloat_control s hc]
    split_ifs
    · exact SeatControl.set_seat s val p.2
    · rfl
  | none =>
    cases id <;> simp only [DataRefId.control, reduceCtorEq] at hc
    case pilotSeat => exact absurd rfl h
    case sharedCkptRole | sharedCkptZone =>
      simp only [updateFromFloat]
      split <;> rfl
    all_goals rfl

theorem updateFromFloat_pilotSeat (s : CockpitState F32) {val : F32} {seat : CockpitSeat}
    (h : CockpitSeat.fromInt (f32ToInt val) = .ok seat) : (s.updateFromFloat .pilotSeat val).seat = seat := by
  simp only [updateFromFloat, h]

end MumbledFlight

/-
Polling in any order (`run_bridge` in the CLI's `xplane.rs`, `update_from_float` in `state.rs`). The bridge visits the
DataRefs in the order of a hash map, so the controls of a seat may be read before the seat is.

A DataRef is settled when its part of the state is what its value says; a control has a part only while its seat is the
occupied one. Only a change of the seat can unsettle another DataRef, and the settled DataRefs determine the state.

Results, for every reachable state and all valid values:
- `pass_settles`: a pass with PilotSeat before the controls settles every DataRef.
- `second_pass_settles`: so does the second of two passes in any order.
- `poll_order_irrelevant`: what the polling leaves depends on the values alone.
-/
import MumbledFlight.Lib.Passes
import MumbledFlight.Plugin.Polling

namespace MumbledFlight

open CockpitState Passes

/-- the states updates lead to -/
def Reachable (cs : CockpitState F32) : Prop :=
  ∃ updates : List (DataRefId × F32),
    cs = Runs.run (fun cs u => cs.updateFromFloat u.1 u.2) (CockpitState.default F32) updates

/-- one round of polling: the values of all ids, in this order -/
def pollPass (ids : List DataRefId) (values : DataRefId → F32) (cs : CockpitState F32) : CockpitState F32 :=
  Passes.pass (fun cs id => cs.updateFromFloat id (values id)) cs ids

/-- PilotSeat comes before every control -/
def PilotSeatFirst (ids : List DataRefId) : Prop := ids.Pairwise fun id later => later = .pilotSeat → id.control = none

/-- the DataRef's part of the state is what its value says -/
def Settled (values : DataRefId → F32) (cs : CockpitState F32) (id : DataRefId) : Prop :=
  match id with
  | .headX => cs.pos.1 = values .headX
  | .headY => cs.pos.2.1 = values .headY
  | .headZ => cs.pos.2.2 = values .headZ
  | .headPsi => cs.rot.1 = values .headPsi
  | .headThe => cs.rot.2.1 = values .headThe
  | .headPhi => cs.rot.2.2 = values .headPhi
  | .planePsi => cs.planeRot.1 = values .planePsi
  | .pilotSeat => CockpitSeat.fromInt (f32ToInt (values .pilotSeat)) = .ok cs.seat
  | .sharedCkptRole => SharedCockpitRole.fromInt (f32ToInt (values .sharedCkptRole)) = .ok cs.role
  | .sharedCkptZone => SharedCockpitZone.fromInt (f32ToInt (values .sharedCkptZone)) = .ok cs.zone
  | .doorCabin => cs.door = values .doorCabin
  | .doorLavatory => cs.doorLav = values .doorLavatory
  | .doorMain => cs.doorMain = values .doorMain
  | .sharedCkptIsGuest => cs.isGuest = f32ToBool (values .sharedCkptIsGuest)
  | .xpilotCom1Rx => cs.com1Rx = f32ToBool (values .xpilotCom1Rx)
  | .xpilotCom2Rx => cs.com2Rx = f32ToBool (values .xpilotCom2Rx)
  | id => ∀ seat c, id.control = some (seat, c) → cs.seat = seat → c.Holds cs (values id)

variable {values : DataRefId → F32} {cs : CockpitState F32}

theorem settled_control {id : DataRefId} {seat : CockpitSeat} {c : SeatControl} (h : id.control = some (seat, c)) :
    Settled values cs id ↔ (cs.seat = seat → c.Holds cs (values id)) := by
  have hiff : (∀ seat' c', id.control = some (seat', c') → cs.seat = seat' → c'.Holds cs (values id)) ↔
      (cs.seat = seat → c.Holds cs (values id)) := by
    simp only [h, Option.some.injEq, Prod.mk.injEq]
    refine ⟨fun hall => hall seat c ⟨rfl, rfl⟩, ?_⟩
    rintro hholds _ _ ⟨rfl, rfl⟩
    exact hholds
  rw [← hiff]
  cases id <;> first | exact Iff.rfl | exact absurd h (by simp [DataRefId.control])

/-! ## One update -/

/-- what the DataRefs other than the controls are about -/
def sharedPart (cs : CockpitState F32) :=
  ((cs.pos, cs.rot, cs.planeRot), (cs.seat, cs.role, cs.zone), (cs.door, cs.doorLav, cs.doorMain),
    (cs.com1Rx, cs.com2Rx, cs.isGuest))

theorem sharedPart_set (cs : CockpitState F32) (v : F32) (c : SeatControl) : sharedPart (c.set cs v) = sharedPart cs := by
  cases c with
  | mic =>
    obtain ⟨m, hm⟩ := SeatControl.set_mic_fields cs v
    rw [hm]
    rfl
  | _ => rfl

/-- the controls touch nothing else -/
theorem sharedPart_update (cs : CockpitState F32) {id : DataRefId} (h : id.control ≠ none) (v : F32) :
    sharedPart (cs.updateFromFloat id v) = sharedPart cs := by
  obtain ⟨p, hp⟩ := Option.ne_none_iff_exists'.1 h
  rw [updateFromFloat_control cs hp]
  split_ifs
  · exact sharedPart_set cs v p.2
  · rfl

theorem settled_congr {cs' : CockpitState F32} {id : DataRefId} (h : id.control = none)
    (hpart : sharedPart cs = sharedPart cs') : Settled values cs id ↔ Settled values cs' id := by
  simp only [sharedPart, Prod.mk.injEq] at hpart
  obtain ⟨⟨hpos, hrot, hplane⟩, ⟨hseat, hrole, hzone⟩, ⟨hdoor, hlav, hmain⟩, hcom1, hcom2, hguest⟩ := hpart
  cases id <;> simp only [DataRefId.control, reduceCtorEq] at h <;>
    simp only [Settled, hpos, hrot, hplane, hseat, hrole, hzone, hdoor, hlav, hmain, hcom1, hcom2, hguest]

theorem settled_update_self (cs : CockpitState F32) {id : DataRefId} (h : ValidCode id (values id)) :
    Settled values (cs.updateFromFloat id (values id)) id := by
  cases hc : id.control with
  | some p =>
    obtain ⟨seat, c⟩ := p
    obtain rfl := SeatControl.dataRef_of_control hc
    have hne := SeatControl.dataRef_ne_pilotSeat seat c
    rw [settled_control hc, updateFromFloat_seat_of_ne cs hne]
    rintro rfl
    exact holds_update_self cs c h.control
  | none =>
    cases id <;> simp only [DataRefId.control, reduceCtorEq] at hc
    case pilotSeat | sharedCkptRole | sharedCkptZone =>
      obtain ⟨x, hx⟩ := h
      simp only [Settled, updateFromFloat, hx]
    all_goals rfl

/-- an update leaves the other DataRefs settled, unless it is the seat's and the other a control -/
theorem settled_update_other (cs : CockpitState F32) {id id' : DataRefId} (hne : id' ≠ id)
    (hseat : id' = .pilotSeat → id.control = none) (v : F32) (h : Settled values cs id) :
    Settled values (cs.updateFromFloat id' v) id := by
  cases hc : id.control with
  | some p =>
    obtain ⟨seat, c⟩ := p
    have hnotSeat : id' ≠ .pilotSeat := by
      intro h'
      rw [hseat h'] at hc
      exact nomatch hc
    rw [settled_control hc, updateFromFloat_seat_of_ne cs hnotSeat]
    rw [settled_control hc] at h
    rintro rfl
    rw [SeatControl.dataRef_of_control hc] at hne
    exact (holds_update_other cs hne v _).2 (h rfl)
  | none =>
    by_cases hc' : id'.control = none
    · cases id' <;> simp only [DataRefId.control, reduceCtorEq] at hc' <;>
        cases id <;> simp only [DataRefId.control, reduceCtorEq] at hc
      all_goals first
        | exact absurd rfl hne
        | exact h
        | simp only [updateFromFloat]; split <;> exact h
    · exact (settled_congr hc (sharedPart_update cs hc' v)).2 h

/-- once settled, the seat's own update changes nothing -/
theorem update_pilotSeat_settled (h : Settled values cs .pilotSeat) :
    cs.updateFromFloat .pilotSeat (values .pilotSeat) = cs := by
  simp only [Settled] at h
  simp only [updateFromFloat, h]

/-! ## Passes -/

/-- in any state an update settles its own DataRef and leaves the others, the controls apart after PilotSeat -/
theorem writes_any (hvalid : ∀ id, ValidCode id (values id)) :
    Writes (fun cs id => cs.updateFromFloat id (values id)) (fun _ => True) (Settled values)
      (fun id id' => id = .pilotSeat → id'.control = none) where
  inv := fun _ _ _ => trivial
  settles := fun cs id _ => settled_update_self cs (hvalid id)
  keeps := by
    intro cs id id' _ hseat h
    by_cases heq : id = id'
    · rw [heq]
      exact settled_update_self cs (hvalid id')
    · exact settled_update_other cs heq hseat _ h

/-- once the seat is settled, all of them are left -/
theorem writes_seated (hvalid : ∀ id, ValidCode id (values id)) :
    Writes (fun cs id => cs.updateFromFloat id (values id)) (fun cs => Settled values cs .pilotSeat) (Settled values)
      (fun _ _ => True) where
  inv := fun cs id h => (writes_any hvalid).keeps cs id .pilotSeat trivial (fun _ => rfl) h
  settles := fun cs id _ => settled_update_self cs (hvalid id)
  keeps := by
    intro cs id id' hseat _ h
    by_cases hid : id = .pilotSeat
    · rw [hid, update_pilotSeat_settled hseat]
      exact h
    · exact (writes_any hvalid).keeps cs id id' trivial (fun h' => absurd h' hid) h

theorem pass_settles (hvalid : ∀ id, ValidCode id (values id)) {ids : List DataRefId} (hids : ids.Perm DataRefId.all)
    (hfirst : PilotSeatFirst ids) (cs : CockpitState F32) (id : DataRefId) :
    Settled values (pollPass ids values cs) id :=
  (writes_any hvalid).settled hfirst trivial id (hids.mem_iff.2 id.mem_all)

/-- whatever comes after it, a pass settles the seat -/
theorem pass_settles_pilotSeat (hvalid : ∀ id, ValidCode id (values id)) {ids : List DataRefId}
    (hids : ids.Perm DataRefId.all) (cs : CockpitState F32) : Settled values (pollPass ids values cs) .pilotSeat := by
  obtain ⟨before, after, rfl⟩ := List.append_of_mem (hids.mem_iff.2 (DataRefId.mem_all .pilotSeat))
  have hafter : pollPass (before ++ .pilotSeat :: after) values cs =
      pollPass after values ((pollPass before values cs).updateFromFloat .pilotSeat (values .pilotSeat)) :=
    List.foldl_append
  rw [hafter]
  exact (writes_any hvalid).kept (fun _ _ _ => rfl) trivial (settled_update_self _ (hvalid .pilotSeat))

theorem second_pass_settles (hvalid : ∀ id, ValidCode id (values id)) {ids ids' : List DataRefId}
    (hids : ids.Perm DataRefId.all) (hids' : ids'.Perm DataRefId.all) (cs : CockpitState F32) (id : DataRefId) :
    Settled values (pollPass ids' values (pollPass ids values cs)) id :=
  (writes_seated hvalid).settled (List.pairwise_of_forall fun _ _ => trivial) (pass_settles_pilotSeat hvalid hids cs) id
    (hids'.mem_iff.2 id.mem_all)

/-! ## What the DataRefs determine -/

/-- the plane's pitch and roll have no DataRef -/
theorem updateFromFloat_planeRot (cs : CockpitState F32) (id : DataRefId) (v : F32) :
    (cs.updateFromFloat id v).planeRot.2 = cs.planeRot.2 := by
  by_cases hc : id.control = none
  · cases id <;> simp only [DataRefId.control, reduceCtorEq] at hc
    case pilotSeat | sharedCkptRole | sharedCkptZone =>
      simp only [updateFromFloat]
      split <;> rfl
    all_goals rfl
  · have hpart := sharedPart_update cs hc v
    simp only [sharedPart, Prod.mk.injEq] at hpart
    rw [hpart.1.2.2]

theorem Reachable.planeRot (h : Reachable cs) : cs.planeRot.2 = (0, 0) := by
  obtain ⟨updates, rfl⟩ := h
  refine Runs.run_inv (P := fun cs : CockpitState F32 => cs.planeRot.2 = (0, 0)) ?_ rfl updates
  intro cs u h
  rw [updateFromFloat_planeRot, h]

theorem Reachable.pollPass (h : Reachable cs) (ids : List DataRefId) : Reachable (pollPass ids values cs) := by
  obtain ⟨updates, rfl⟩ := h
  refine ⟨updates ++ ids.map fun id => (id, values id), ?_⟩
  rw [Runs.run_append]
  simp only [MumbledFlight.pollPass, Passes.pass, Runs.run, List.foldl_map]

theorem sharedPart_eq_of_settled {cs cs' : CockpitState F32} (h : ∀ id, Settled values cs id)
    (h' : ∀ id, Settled values cs' id) (hplane : cs.planeRot.2 = cs'.planeRot.2) : sharedPart cs = sharedPart cs' := by
  have hpos : cs.pos = cs'.pos := Prod.ext ((h .headX).trans (h' .headX).symm)
    (Prod.ext ((h .headY).trans (h' .headY).symm) ((h .headZ).trans (h' .headZ).symm))
  have hrot : cs.rot = cs'.rot := Prod.ext ((h .headPsi).trans (h' .headPsi).symm)
    (Prod.ext ((h .headThe).trans (h' .headThe).symm) ((h .headPhi).trans (h' .headPhi).symm))
  have hplane' : cs.planeRot = cs'.planeRot := Prod.ext ((h .planePsi).trans (h' .planePsi).symm) hplane
  have hseat : cs.seat = cs'.seat := Except.ok.inj ((h .pilotSeat).symm.trans (h' .pilotSeat))
  have hrole : cs.role = cs'.role := Except.ok.inj ((h .sharedCkptRole).symm.trans (h' .sharedCkptRole))
  have hzone : cs.zone = cs'.zone := Except.ok.inj ((h .sharedCkptZone).symm.trans (h' .sharedCkptZone))
  have hdoor : cs.door = cs'.door := (h .doorCabin).trans (h' .doorCabin).symm
  have hlav : cs.doorLav = cs'.doorLav := (h .doorLavatory).trans (h' .doorLavatory).symm
  have hmain : cs.doorMain = cs'.doorMain := (h .doorMain).trans (h' .doorMain).symm
  have hcom1 : cs.com1Rx = cs'.com1Rx := (h .xpilotCom1Rx).trans (h' .xpilotCom1Rx).symm
  have hcom2 : cs.com2Rx = cs'.com2Rx := (h .xpilotCom2Rx).trans (h' .xpilotCom2Rx).symm
  have hguest : cs.isGuest = cs'.isGuest := (h .sharedCkptIsGuest).trans (h' .sharedCkptIsGuest).symm
  simp only [sharedPart, hpos, hrot, hplane', hseat, hrole, hzone, hdoor, hlav, hmain, hcom1, hcom2, hguest]

/-- The settled DataRefs leave only the plane's pitch and roll open. -/
theorem eq_of_settled {cs cs' : CockpitState F32} (h : ∀ id, Settled values cs id) (h' : ∀ id, Settled values cs' id)
    (hplane : cs.planeRot.2 = cs'.planeRot.2) : cs = cs' := by
  have hshared := sharedPart_eq_of_settled h h' hplane
  simp only [sharedPart, Prod.mk.injEq] at hshared
  obtain ⟨⟨hpos, hrot, hplane'⟩, ⟨hseat, hrole, hzone⟩, ⟨hdoor, hlav, hmain⟩, hcom1, hcom2, hguest⟩ := hshared
  -- both hold the values of the controls of one seat
  have hholds : ∀ c : SeatControl, c.Holds cs (values (c.dataRef cs.seat)) := fun c =>
    (settled_control (SeatControl.control_dataRef cs.seat c)).1 (h _) rfl
  have hholds' : ∀ c : SeatControl, c.Holds cs' (values (c.dataRef cs.seat)) := fun c =>
    (settled_control (SeatControl.control_dataRef cs.seat c)).1 (h' _) hseat.symm
  have hacpIc : cs.acpIc = cs'.acpIc := (hholds .acpIc).trans (hholds' .acpIc).symm
  have hacpRt : cs.acpRt = cs'.acpRt := (hholds .acpRt).trans (hholds' .acpRt).symm
  have hwheelIc : cs.contwheelIc = cs'.contwheelIc := (hholds .contwheelIc).trans (hholds' .contwheelIc).symm
  have hwheelRt : cs.contwheelRt = cs'.contwheelRt := (hholds .contwheelRt).trans (hholds' .contwheelRt).symm
  have hmic : cs.mic = cs'.mic := Except.ok.inj ((hholds .mic).symm.trans (hholds' .mic))
  have hspkrTog : cs.spkrTog = cs'.spkrTog := (hholds .spkrTog).trans (hholds' .spkrTog).symm
  have hspkrVol : cs.spkrVol = cs'.spkrVol := (hholds .spkrVol).trans (hholds' .spkrVol).symm
  have hicTog : cs.icTog = cs'.icTog := (hholds .icTog).trans (hholds' .icTog).symm
  have hicVol : cs.icVol = cs'.icVol := (hholds .icVol).trans (hholds' .icVol).symm
  cases cs
  cases cs'
  simp only at *
  simp only [*]

/-- Order. From any two reachable states, passes over the same values leave the same state: one pass each, if both
visit PilotSeat before the controls, and two passes each in any order. -/
theorem poll_order_irrelevant {cs cs' : CockpitState F32} (hcs : Reachable cs) (hcs' : Reachable cs')
    (hvalid : ∀ id, ValidCode id (values id)) {ids ids' : List DataRefId} (hids : ids.Perm DataRefId.all)
    (hids' : ids'.Perm DataRefId.all) :
    (PilotSeatFirst ids → PilotSeatFirst ids' → pollPass ids values cs = pollPass ids' values cs') ∧
    ∀ again again' : List DataRefId, again.Perm DataRefId.all → again'.Perm DataRefId.all →
      pollPass again values (pollPass ids values cs) = pollPass again' values (pollPass ids' values cs') := by
  refine ⟨?_, ?_⟩
  · intro hfirst hfirst'
    apply eq_of_settled (pass_settles hvalid hids hfirst cs) (pass_settles hvalid hids' hfirst' cs')
    rw [(hcs.pollPass ids).planeRot, (hcs'.pollPass ids').planeRot]
  · intro again again' hagain hagain'
    apply eq_of_settled (second_pass_settles hvalid hids hagain cs) (second_pass_settles hvalid hids' hagain' cs')
    rw [((hcs.pollPass ids).pollPass again).planeRot, ((hcs'.pollPass ids').pollPass again').planeRot]

/-- the order of the table is one of them -/
theorem pilotSeatFirst_all : PilotSeatFirst DataRefId.all := by
  unfold PilotSeatFirst
  decide

/-- the first officer's seat is taken, with the interphone switch on -/
def firstOfficerIc (id : DataRefId) : F32 := if id = .pilotSeat ∨ id = .acp2Ic then 1 else 0

/-- From the captain's seat, with the switch on there, and from the first officer's: one pass in the order of the table
takes the seat and the switch. One in its reverse misses the switch, two of them do not. -/
theorem poll_order_irrelevant_seat :
    let captain := (CockpitState.default F32).updateFromFloat .acp1Ic 1
    let firstOfficer := (CockpitState.default F32).updateFromFloat .pilotSeat 1
    let polled := pollPass DataRefId.all firstOfficerIc captain
    (captain.seat, captain.acpIc) = (.captain, true) ∧ (polled.seat, polled.acpIc) = (.firstOfficer, true) ∧
    pollPass DataRefId.all firstOfficerIc firstOfficer = polled ∧
    (pollPass DataRefId.all.reverse firstOfficerIc captain).acpIc = false ∧
    pollPass DataRefId.all.reverse firstOfficerIc (pollPass DataRefId.all.reverse firstOfficerIc captain) =
      pollPass DataRefId.all firstOfficerIc (pollPass DataRefId.all firstOfficerIc firstOfficer) := by
  intro captain firstOfficer polled
  have hcaptain : Reachable captain := ⟨[(.acp1Ic, 1)], rfl⟩
  have hfirstOfficer : Reachable firstOfficer := ⟨[(.pilotSeat, 1)], rfl⟩
  have hvalid : ∀ id, ValidCode id (firstOfficerIc id) := by
    intro id
    unfold firstOfficerIc
    split_ifs with hone
    · apply validCode_one
      rintro rfl
      revert hone
      decide
    · exact validCode_zero id
  have hall : DataRefId.all.Perm DataRefId.all := List.Perm.refl _
  have hrev : DataRefId.all.reverse.Perm DataRefId.all := List.reverse_perm _
  refine ⟨by decide +kernel, by decide +kernel, ?_, by decide +kernel, ?_⟩
  · exact (poll_order_irrelevant hfirstOfficer hcaptain hvalid hall hall).1 pilotSeatFirst_all pilotSeatFirst_all
  · exact (poll_order_irrelevant hcaptain hfirstOfficer hvalid hrev hall).2 _ _ hrev hall

end MumbledFlight

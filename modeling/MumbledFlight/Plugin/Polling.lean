/-
Polling the simulator (`lib.rs`): the DataRefs found when the plugin is enabled, the rest found by later retries, and
the pass of every flight-loop tick over what has been found so far.

A pass applies the values in the order in which the DataRefs were found, and a control's value counts only while its
seat is the occupied one. So the pass reflects the seat it reads only if PilotSeat comes before the controls.

Results, for every order in which the simulator publishes the DataRefs:
- `poll_reflects`: a pass over all DataRefs with PilotSeat before the controls reflects the seat it reads.
- `passes_reflect_iff`: every pass made with all DataRefs found reflects the seat exactly if no control was ever found
  while PilotSeat was still missing. `late_pilotSeat_keeps_other_seat` is a run in which it was.
-/
import MumbledFlight.DataRefs
import MumbledFlight.Lib.Runs
import Mathlib.Data.List.Pairwise
import Mathlib.Data.List.Perm.Basic

namespace MumbledFlight

open CockpitState

/-! ## The plugin's side -/

/-- a resolved DataRef; a handle is found by name, so the id stands for it -/
structure DataRef where
  id : DataRefId
  /-- the DataRef has no float type -/
  useInt : Bool
deriving DecidableEq

/-- what the simulator answers to a look-up: nothing yet, or whether it has to be read as an integer -/
abbrev FindDataRef := DataRefId → Option Bool

/-- the values of the simulator during one pass -/
structure SimValues where
  datai : DataRefId → Int32
  dataf : DataRefId → F32

def SimValues.read (sim : SimValues) (dr : DataRef) : F32 :=
  if dr.useInt then F32.ofInt32 (sim.datai dr.id).toInt else sim.dataf dr.id

/-- `PluginState`, what polling uses of it; the connection is its cockpit state -/
structure PluginState where
  datarefs : List DataRef
  pendingDatarefs : List DataRefId
  retryTicks : ℕ
  connection : Option (CockpitState F32)

def findDataref (find : FindDataRef) (id : DataRefId) : Option DataRef := (find id).map fun useInt => ⟨id, useInt⟩

def pollDatarefs (datarefs : List DataRef) (sim : SimValues) (cs : CockpitState F32) : CockpitState F32 :=
  datarefs.foldl (fun cs dr => cs.updateFromFloat dr.id (sim.read dr)) cs

namespace PluginState

/-- `XPluginEnable` -/
def enable (find : FindDataRef) : PluginState where
  datarefs := DataRefId.all.filterMap (findDataref find)
  pendingDatarefs := DataRefId.all.filter fun id => (findDataref find id).isNone
  retryTicks := 0
  connection := none

/-- every 40th tick while something is pending -/
def retryPendingDatarefs (ps : PluginState) (find : FindDataRef) : PluginState :=
  if ps.pendingDatarefs.isEmpty then ps
  else if ps.retryTicks + 1 < 40 then { ps with retryTicks := ps.retryTicks + 1 }
  else
    { ps with
      retryTicks := 0
      datarefs := ps.datarefs ++ ps.pendingDatarefs.filterMap (findDataref find)
      pendingDatarefs := ps.pendingDatarefs.filter fun id => (findDataref find id).isNone }

end PluginState

/-- what the user's requests do to the connection at the end of a tick -/
inductive ConnectionChange where
  | keep
  /-- a new connection, with the default cockpit state -/
  | start
  | stop
deriving DecidableEq

structure Tick where
  find : FindDataRef
  sim : SimValues
  change : ConnectionChange

/-- `flight_loop_cb` -/
def flightLoop (ps : PluginState) (t : Tick) : PluginState :=
  let ps := ps.retryPendingDatarefs t.find
  let ps := { ps with connection := ps.connection.map (pollDatarefs ps.datarefs t.sim) }
  match t.change with
  | .keep => ps
  | .start => { ps with connection := some (CockpitState.default F32) }
  | .stop => { ps with connection := none }

/-! ## What a pass should do -/

/-- the code is one the DataRef knows -/
def ValidCode (id : DataRefId) (v : F32) : Prop :=
  match id with
  | .pilotSeat => ∃ seat, CockpitSeat.fromInt (f32ToInt v) = .ok seat
  | .sharedCkptRole => ∃ role, SharedCockpitRole.fromInt (f32ToInt v) = .ok role
  | .sharedCkptZone => ∃ zone, SharedCockpitZone.fromInt (f32ToInt v) = .ok zone
  | id => ∀ seat c, id.control = some (seat, c) → c.ValidCode v

/-- the value a pass over the DataRefs reads for an id -/
def valueIn (datarefs : List DataRef) (sim : SimValues) (id : DataRefId) : Option F32 :=
  (datarefs.find? fun dr => dr.id = id).map sim.read

/-- every control's field is the decoded value, read in the pass, of the control of the seat read in the pass -/
def Reflects (datarefs : List DataRef) (sim : SimValues) (cs : CockpitState F32) : Prop :=
  ∃ v seat, valueIn datarefs sim .pilotSeat = some v ∧ CockpitSeat.fromInt (f32ToInt v) = .ok seat ∧
    ∀ c : SeatControl, ∃ w, valueIn datarefs sim (c.dataRef seat) = some w ∧ c.Holds cs w

/-- if the tick's pass is made with all DataRefs resolved and reads valid codes, it reflects the seat -/
def ReflectsSeat (ps : PluginState) (t : Tick) : Prop :=
  let ps := ps.retryPendingDatarefs t.find
  ∀ cs, ps.connection = some cs → ps.pendingDatarefs = [] → (∀ dr ∈ ps.datarefs, ValidCode dr.id (t.sim.read dr)) →
    Reflects ps.datarefs t.sim (pollDatarefs ps.datarefs t.sim cs)

/-- no control is among the DataRefs without PilotSeat -/
def SeatFound (datarefs : List DataRef) : Prop :=
  (∃ dr ∈ datarefs, dr.id.control ≠ none) → ∃ dr ∈ datarefs, dr.id = .pilotSeat

/-! ## A pass -/

theorem pollDatarefs_append (as bs : List DataRef) (sim : SimValues) (cs : CockpitState F32) :
    pollDatarefs (as ++ bs) sim cs = pollDatarefs bs sim (pollDatarefs as sim cs) := List.foldl_append

theorem pollDatarefs_cons (dr : DataRef) (datarefs : List DataRef) (sim : SimValues) (cs : CockpitState F32) :
    pollDatarefs (dr :: datarefs) sim cs = pollDatarefs datarefs sim (cs.updateFromFloat dr.id (sim.read dr)) := rfl

theorem pollDatarefs_seat {datarefs : List DataRef} (h : ∀ dr ∈ datarefs, dr.id ≠ .pilotSeat) (sim : SimValues)
    (cs : CockpitState F32) : (pollDatarefs datarefs sim cs).seat = cs.seat := by
  induction datarefs generalizing cs with
  | nil => rfl
  | cons dr datarefs ih =>
    rw [pollDatarefs_cons, ih (fun dr' h' => h dr' (List.mem_cons_of_mem _ h'))]
    exact updateFromFloat_seat_of_ne cs (h dr List.mem_cons_self) _

/-- an update of anything but the occupant's own control c leaves c as it is -/
theorem holds_update_other (cs : CockpitState F32) {id : DataRefId} {c : SeatControl} (h : id ≠ c.dataRef cs.seat)
    (val w : F32) : c.Holds (cs.updateFromFloat id val) w ↔ c.Holds cs w := by
  cases hc : id.control with
  | none => exact updateFromFloat_shared cs hc val c w
  | some p =>
    obtain ⟨seat, c'⟩ := p
    rw [updateFromFloat_control cs hc]
    split_ifs with hseat
    · apply SeatControl.holds_set_other
      intro hcc
      apply h
      rw [SeatControl.dataRef_of_control hc, hseat, hcc]
    · exact Iff.rfl

theorem holds_update_self (cs : CockpitState F32) (c : SeatControl) {val : F32} (h : c.ValidCode val) :
    c.Holds (cs.updateFromFloat (c.dataRef cs.seat) val) val := by
  rw [updateFromFloat_control cs (SeatControl.control_dataRef cs.seat c), if_pos rfl]
  exact SeatControl.holds_set_self cs h

/-- while the seat stays, a pass without the occupant's control c leaves c as it is -/
theorem holds_poll_other {datarefs : List DataRef} {c : SeatControl} {cs : CockpitState F32}
    (hseat : ∀ dr ∈ datarefs, dr.id ≠ .pilotSeat) (hother : ∀ dr ∈ datarefs, dr.id ≠ c.dataRef cs.seat)
    (sim : SimValues) (w : F32) : c.Holds (pollDatarefs datarefs sim cs) w ↔ c.Holds cs w := by
  induction datarefs generalizing cs with
  | nil => exact Iff.rfl
  | cons dr datarefs ih =>
    have hkeeps := updateFromFloat_seat_of_ne cs (hseat dr List.mem_cons_self) (sim.read dr)
    rw [pollDatarefs_cons, ih (fun dr' h' => hseat dr' (List.mem_cons_of_mem _ h'))]
    · exact holds_update_other cs (hother dr List.mem_cons_self) _ w
    · rw [hkeeps]
      exact fun dr' h' => hother dr' (List.mem_cons_of_mem _ h')

theorem valueIn_of_mem {datarefs : List DataRef} (hnodup : (datarefs.map DataRef.id).Nodup) {dr : DataRef}
    (hdr : dr ∈ datarefs) (sim : SimValues) : valueIn datarefs sim dr.id = some (sim.read dr) := by
  have hfind : datarefs.find? (fun dr' => dr'.id = dr.id) = some dr := by
    obtain ⟨as, bs, rfl⟩ := List.append_of_mem hdr
    rw [List.find?_eq_some_iff_append]
    refine ⟨by simp, as, bs, rfl, ?_⟩
    intro dr' hmem
    rw [List.map_append, List.map_cons, List.nodup_append] at hnodup
    have hne := hnodup.2.2 dr'.id (List.mem_map_of_mem hmem) dr.id List.mem_cons_self
    simpa using hne
  rw [valueIn, hfind]
  rfl

/-- PilotSeat or a control -/
def DataRefId.SeatRelevant (id : DataRefId) : Prop := id = .pilotSeat ∨ id.control ≠ none

instance : DecidablePred DataRefId.SeatRelevant := fun _ => inferInstanceAs (Decidable (_ ∨ _))

/-- the first of PilotSeat and the controls -/
def firstRelevant (datarefs : List DataRef) : Option DataRef := datarefs.find? fun dr => dr.id.SeatRelevant

/-- PilotSeat comes before every control -/
def SeatBefore (datarefs : List DataRef) : Prop := ∀ dr, firstRelevant datarefs = some dr → dr.id = .pilotSeat

theorem ValidCode.control {seat : CockpitSeat} {c : SeatControl} {v : F32} (h : ValidCode (c.dataRef seat) v) :
    c.ValidCode v := by
  cases seat <;> cases c <;> exact h _ _ rfl

theorem id_ne_of_nodup {as bs : List DataRef} {dr : DataRef} (h : ((as ++ dr :: bs).map DataRef.id).Nodup) :
    ∀ dr' ∈ bs, dr'.id ≠ dr.id := by
  rw [List.map_append, List.map_cons] at h
  have hnot := (List.nodup_cons.1 (List.nodup_append.1 h).2.1).1
  intro dr' hdr' heq
  exact hnot (heq ▸ List.mem_map_of_mem hdr')

theorem SeatControl.dataRef_ne_pilotSeat (seat : CockpitSeat) (c : SeatControl) : c.dataRef seat ≠ .pilotSeat := by
  intro h
  have hcontrol := SeatControl.control_dataRef seat c
  rw [h] at hcontrol
  cases hcontrol

/-- PilotSeat splits the list: no control before it, no second PilotSeat after it -/
theorem seatBefore_split {datarefs : List DataRef} (hperm : (datarefs.map DataRef.id).Perm DataRefId.all)
    (h : SeatBefore datarefs) : ∃ as seatRef bs, datarefs = as ++ seatRef :: bs ∧ seatRef.id = .pilotSeat ∧
      (∀ dr ∈ as, ¬dr.id.SeatRelevant) ∧ ∀ dr ∈ bs, dr.id ≠ .pilotSeat := by
  obtain ⟨dr, hdr, hid⟩ := List.mem_map.1 (hperm.mem_iff.2 (DataRefId.mem_all .pilotSeat))
  obtain ⟨seatRef, hfound⟩ : ∃ seatRef, firstRelevant datarefs = some seatRef :=
    Option.isSome_iff_exists.1 (List.find?_isSome.2 ⟨dr, hdr, by simp [DataRefId.SeatRelevant, hid]⟩)
  have hpilot := h seatRef hfound
  obtain ⟨-, as, bs, rfl, has⟩ := List.find?_eq_some_iff_append.1 hfound
  refine ⟨as, seatRef, bs, rfl, hpilot, ?_, ?_⟩
  · intro dr hdr
    simpa using has dr hdr
  · have hbs := id_ne_of_nodup (hperm.nodup_iff.2 DataRefId.nodup_all)
    rw [hpilot] at hbs
    exact hbs

/-- A pass. If every DataRef is there once and PilotSeat comes before the controls, the pass reflects the seat. -/
theorem poll_reflects {datarefs : List DataRef} {sim : SimValues} (hperm : (datarefs.map DataRef.id).Perm DataRefId.all)
    (hbefore : SeatBefore datarefs) (hvalid : ∀ dr ∈ datarefs, ValidCode dr.id (sim.read dr)) (cs : CockpitState F32) :
    Reflects datarefs sim (pollDatarefs datarefs sim cs) := by
  have hnodup : (datarefs.map DataRef.id).Nodup := hperm.nodup_iff.2 DataRefId.nodup_all
  obtain ⟨as, seatRef, bs, rfl, hpilot, has, hbs⟩ := seatBefore_split hperm hbefore
  obtain ⟨seat, hcode⟩ : ∃ seat, CockpitSeat.fromInt (f32ToInt (sim.read seatRef)) = .ok seat := by
    have hv := hvalid seatRef (by simp)
    rw [hpilot] at hv
    exact hv
  refine ⟨sim.read seatRef, seat, hpilot ▸ valueIn_of_mem hnodup (by simp) sim, hcode, ?_⟩
  intro c
  -- the control's DataRef comes after PilotSeat
  obtain ⟨dr, hdr, hid⟩ := List.mem_map.1 (hperm.mem_iff.2 (DataRefId.mem_all (c.dataRef seat)))
  have hcontrol : dr.id.control = some (seat, c) := hid ▸ SeatControl.control_dataRef seat c
  have hafter : dr ∈ bs := by
    rcases List.mem_append.1 hdr with hdr | hdr
    · exact absurd (Or.inr (by rw [hcontrol]; simp)) (has dr hdr)
    · rcases List.mem_cons.1 hdr with rfl | hdr
      · rw [hpilot] at hcontrol
        cases hcontrol
      · exact hdr
  have hvalidDr : c.ValidCode (sim.read dr) := ValidCode.control (hid ▸ hvalid dr hdr)
  obtain ⟨bs₁, bs₂, rfl⟩ := List.append_of_mem hafter
  refine ⟨sim.read dr, ?_, ?_⟩
  · rw [← hid]
    exact valueIn_of_mem hnodup hdr sim
  · -- the seat is set, kept up to the control, and the control is kept to the end
    let cs₁ := pollDatarefs bs₁ sim ((pollDatarefs as sim cs).updateFromFloat seatRef.id (sim.read seatRef))
    have hseat : cs₁.seat = seat := by
      have hbs₁ : ∀ dr ∈ bs₁, dr.id ≠ .pilotSeat := fun dr' h' => hbs dr' (List.mem_append_left _ h')
      rw [show cs₁.seat = _ from pollDatarefs_seat hbs₁ sim _, hpilot]
      exact updateFromFloat_pilotSeat _ hcode
    have hafterDr : (cs₁.updateFromFloat dr.id (sim.read dr)).seat = seat := by
      rw [updateFromFloat_seat_of_ne cs₁ (hbs dr (by simp)), hseat]
    have hend : pollDatarefs (as ++ seatRef :: (bs₁ ++ dr :: bs₂)) sim cs =
        pollDatarefs bs₂ sim (cs₁.updateFromFloat dr.id (sim.read dr)) := by
      rw [pollDatarefs_append, pollDatarefs_cons, pollDatarefs_append, pollDatarefs_cons]
    rw [hend, holds_poll_other]
    · have hself := holds_update_self cs₁ c hvalidDr
      rw [hseat, ← hid] at hself
      exact hself
    · exact fun dr' h' => hbs dr' (by simp [h'])
    · have hshape : as ++ seatRef :: (bs₁ ++ dr :: bs₂) = (as ++ seatRef :: bs₁) ++ dr :: bs₂ := by simp
      rw [hshape] at hnodup
      rw [hafterDr, ← hid]
      exact id_ne_of_nodup hnodup

/-! ## Resolution -/

theorem map_id_filterMap (find : FindDataRef) (ids : List DataRefId) :
    (ids.filterMap (findDataref find)).map DataRef.id = ids.filter fun id => !(findDataref find id).isNone := by
  induction ids with
  | nil => rfl
  | cons id ids ih =>
    cases h : find id with
    | none =>
      have hid : findDataref find id = none := by simp [findDataref, h]
      rw [List.filterMap_cons_none hid, ih, List.filter_cons_of_neg (by simp [hid])]
    | some useInt =>
      have hid : findDataref find id = some ⟨id, useInt⟩ := by simp [findDataref, h]
      rw [List.filterMap_cons_some hid, List.map_cons, ih, List.filter_cons_of_pos (by simp [hid])]

/-- every DataRef is resolved or pending, once, and the pending ones are in the order of `all` -/
structure Resolving (ps : PluginState) : Prop where
  perm : (ps.datarefs.map DataRef.id ++ ps.pendingDatarefs).Perm DataRefId.all
  order : ps.pendingDatarefs.Sublist DataRefId.all

/-- looking the pending ones up appends what is found -/
theorem resolving_found (datarefs : List DataRef) {pending : List DataRefId}
    (hperm : (datarefs.map DataRef.id ++ pending).Perm DataRefId.all) (find : FindDataRef) :
    ((datarefs ++ pending.filterMap (findDataref find)).map DataRef.id ++
      pending.filter fun id => (findDataref find id).isNone).Perm DataRefId.all := by
  rw [List.map_append, map_id_filterMap, List.append_assoc]
  refine (List.Perm.append_left _ ?_).trans hperm
  exact (List.perm_append_comm).trans (List.filter_append_perm _ pending)

theorem resolving_enable (find : FindDataRef) : Resolving (.enable find) where
  perm := resolving_found [] (List.Perm.refl _) find
  order := List.filter_sublist

theorem retryPendingDatarefs_cases (ps : PluginState) (find : FindDataRef) :
    (ps.retryPendingDatarefs find).connection = ps.connection ∧
    ((ps.retryPendingDatarefs find).datarefs = ps.datarefs ∧
        (ps.retryPendingDatarefs find).pendingDatarefs = ps.pendingDatarefs ∨
      (ps.retryPendingDatarefs find).datarefs = ps.datarefs ++ ps.pendingDatarefs.filterMap (findDataref find) ∧
        (ps.retryPendingDatarefs find).pendingDatarefs =
          ps.pendingDatarefs.filter fun id => (findDataref find id).isNone) := by
  unfold PluginState.retryPendingDatarefs
  split_ifs
  · exact ⟨rfl, Or.inl ⟨rfl, rfl⟩⟩
  · exact ⟨rfl, Or.inl ⟨rfl, rfl⟩⟩
  · exact ⟨rfl, Or.inr ⟨rfl, rfl⟩⟩

theorem retryPendingDatarefs_resolved {ps : PluginState} (h : ps.pendingDatarefs = []) (find : FindDataRef) :
    ps.retryPendingDatarefs find = ps := by
  simp [PluginState.retryPendingDatarefs, h]

/-- a tick resolves what its retry finds -/
theorem flightLoop_fields (ps : PluginState) (t : Tick) :
    (flightLoop ps t).datarefs = (ps.retryPendingDatarefs t.find).datarefs ∧
    (flightLoop ps t).pendingDatarefs = (ps.retryPendingDatarefs t.find).pendingDatarefs := by
  unfold flightLoop
  cases t.change <;> exact ⟨rfl, rfl⟩

theorem resolving_step {ps : PluginState} (h : Resolving ps) (t : Tick) : Resolving (flightLoop ps t) := by
  obtain ⟨hrefs, hpending⟩ := flightLoop_fields ps t
  rcases (retryPendingDatarefs_cases ps t.find).2 with ⟨hr, hp⟩ | ⟨hr, hp⟩
  · exact ⟨by rw [hrefs, hpending, hr, hp]; exact h.perm, by rw [hpending, hp]; exact h.order⟩
  · refine ⟨?_, ?_⟩
    · rw [hrefs, hpending, hr, hp]
      exact resolving_found _ h.perm t.find
    · rw [hpending, hp]
      exact List.filter_sublist.trans h.order

/-! ## PilotSeat first -/

theorem seatFound_of_seatBefore {datarefs : List DataRef} (h : SeatBefore datarefs) : SeatFound datarefs := by
  intro ⟨dr, hdr, hcontrol⟩
  obtain ⟨first, hfound⟩ : ∃ first, firstRelevant datarefs = some first :=
    Option.isSome_iff_exists.1 (List.find?_isSome.2 ⟨dr, hdr, by simp [DataRefId.SeatRelevant, hcontrol]⟩)
  exact ⟨first, List.mem_of_find?_eq_some hfound, h first hfound⟩

/-- in the order of `all` PilotSeat comes before the controls, so among what one look-up finds it does as well -/
theorem seatBefore_filterMap {pending : List DataRefId} (h : pending.Sublist DataRefId.all) (find : FindDataRef)
    (hfound : SeatFound (pending.filterMap (findDataref find))) :
    SeatBefore (pending.filterMap (findDataref find)) := by
  intro first hfirst
  have horder : DataRefId.all.Pairwise fun a b => a.SeatRelevant → b ≠ .pilotSeat := by decide
  have hrefs : (pending.filterMap (findDataref find)).Pairwise
      fun a b => a.id.SeatRelevant → b.id ≠ .pilotSeat := by
    rw [← List.pairwise_map (f := DataRef.id) (R := fun a b => a.SeatRelevant → b ≠ .pilotSeat), map_id_filterMap]
    exact (horder.sublist h).sublist List.filter_sublist
  obtain ⟨hrel, as, bs, hsplit, has⟩ := List.find?_eq_some_iff_append.1 hfirst
  by_contra hne
  have hcontrol : first.id.control ≠ none := (of_decide_eq_true hrel).resolve_left hne
  rw [hsplit] at hfound hrefs
  obtain ⟨dr, hdr, hid⟩ := hfound ⟨first, by simp, hcontrol⟩
  rcases List.mem_append.1 hdr with hdr | hdr
  · have := has dr hdr
    simp [DataRefId.SeatRelevant, hid] at this
  · rcases List.mem_cons.1 hdr with rfl | hdr
    · exact hne hid
    · exact (List.pairwise_cons.1 (List.pairwise_append.1 hrefs).2.1).1 dr hdr (of_decide_eq_true hrel) hid

theorem seatBefore_append_iff (datarefs : List DataRef) {pending : List DataRefId}
    (h : pending.Sublist DataRefId.all) (find : FindDataRef) :
    SeatBefore (datarefs ++ pending.filterMap (findDataref find)) ↔
      SeatBefore datarefs ∧ SeatFound (datarefs ++ pending.filterMap (findDataref find)) := by
  have happend : firstRelevant (datarefs ++ pending.filterMap (findDataref find)) =
      (firstRelevant datarefs).or (firstRelevant (pending.filterMap (findDataref find))) := List.find?_append
  refine ⟨?_, ?_⟩
  · intro hb
    refine ⟨?_, seatFound_of_seatBefore hb⟩
    intro first hfirst
    apply hb first
    rw [happend, hfirst]
    rfl
  · intro ⟨hb, hfound⟩ first hfirst
    cases hold : firstRelevant datarefs with
    | some dr =>
      rw [happend, hold] at hfirst
      cases hfirst
      exact hb first hold
    | none =>
      -- nothing relevant was there before, so this look-up found PilotSeat with its controls
      rw [happend, hold] at hfirst
      have hnone : ∀ dr ∈ datarefs, ¬dr.id.SeatRelevant := by
        intro dr hdr
        simpa using List.find?_eq_none.1 hold dr hdr
      apply seatBefore_filterMap h find ?_ first hfirst
      intro ⟨dr, hdr, hcontrol⟩
      obtain ⟨seatRef, hmem, hid⟩ := hfound ⟨dr, List.mem_append_right _ hdr, hcontrol⟩
      rcases List.mem_append.1 hmem with hmem | hmem
      · exact absurd (Or.inl hid) (hnone seatRef hmem)
      · exact ⟨seatRef, hmem, hid⟩

theorem seatBefore_step_iff {ps : PluginState} (h : Resolving ps) (t : Tick) :
    SeatBefore (flightLoop ps t).datarefs ↔ SeatBefore ps.datarefs ∧ SeatFound (flightLoop ps t).datarefs := by
  rw [(flightLoop_fields ps t).1]
  rcases (retryPendingDatarefs_cases ps t.find).2 with ⟨hr, -⟩ | ⟨hr, -⟩
  · rw [hr]
    exact ⟨fun hb => ⟨hb, seatFound_of_seatBefore hb⟩, fun hb => hb.1⟩
  · rw [hr]
    exact seatBefore_append_iff _ h.order t.find

theorem seatBefore_enable_iff (find : FindDataRef) :
    SeatBefore (PluginState.enable find).datarefs ↔ SeatFound (PluginState.enable find).datarefs := by
  have hempty : SeatBefore [] := fun _ h => by cases h
  have happend := seatBefore_append_iff [] (List.Sublist.refl DataRefId.all) find
  exact happend.trans (and_iff_right hempty)

/-- PilotSeat comes before the controls exactly if they were never there without it -/
theorem seatBefore_run_iff {ps : PluginState} (h : Resolving ps) (ts : List Tick) :
    SeatBefore (Runs.run flightLoop ps ts).datarefs ↔
      SeatBefore ps.datarefs ∧ Runs.Always flightLoop (fun ps => SeatFound ps.datarefs) ps ts := by
  induction ts generalizing ps with
  | nil => exact ⟨fun hb => ⟨hb, seatFound_of_seatBefore hb⟩, fun hb => hb.1⟩
  | cons t ts ih =>
    rw [Runs.run_cons, ih (resolving_step h t), seatBefore_step_iff h t]
    refine ⟨?_, ?_⟩
    · intro ⟨⟨hb, _⟩, hts⟩
      exact ⟨hb, seatFound_of_seatBefore hb, hts⟩
    · intro ⟨hb, _, hts⟩
      exact ⟨⟨hb, hts.head⟩, hts⟩

/-- a tick of a state with PilotSeat first keeps its promise -/
theorem reflectsSeat_of_seatBefore {ps : PluginState} (h : Resolving ps) {t : Tick}
    (hb : SeatBefore (flightLoop ps t).datarefs) : ReflectsSeat ps t := by
  intro cs _ hpending hvalid
  have hperm := (resolving_step h t).perm
  rw [(flightLoop_fields ps t).1] at hb
  rw [(flightLoop_fields ps t).1, (flightLoop_fields ps t).2] at hperm
  rw [show (ps.retryPendingDatarefs t.find).pendingDatarefs = [] from hpending, List.append_nil] at hperm
  exact poll_reflects hperm hb hvalid cs

theorem meets_of_seatBefore {ps : PluginState} (h : Resolving ps) (ts : List Tick)
    (hb : SeatBefore (Runs.run flightLoop ps ts).datarefs) : Runs.Meets flightLoop ReflectsSeat ps ts := by
  induction ts generalizing ps with
  | nil => trivial
  | cons t ts ih =>
    have hstep := ((seatBefore_run_iff (resolving_step h t) ts).1 hb).1
    exact ⟨reflectsSeat_of_seatBefore h hstep, ih (resolving_step h t) hb⟩

theorem run_datarefs_resolved {ps : PluginState} (h : ps.pendingDatarefs = []) (ts : List Tick) :
    (Runs.run flightLoop ps ts).datarefs = ps.datarefs := by
  induction ts generalizing ps with
  | nil => rfl
  | cons t ts ih =>
    obtain ⟨hrefs, hpending⟩ := flightLoop_fields ps t
    rw [retryPendingDatarefs_resolved h] at hrefs hpending
    rw [Runs.run_cons, ih (hpending.trans h), hrefs]

/-! ## PilotSeat late -/

def CockpitSeat.other : CockpitSeat → CockpitSeat
  | .captain => .firstOfficer
  | .firstOfficer => .captain

/-- the DataRefs that read 1 when the seat is taken and nothing is pressed -/
def seatCode : CockpitSeat → List DataRefId
  | .captain => []
  | .firstOfficer => [.pilotSeat]

/-- 1 for the given DataRefs, 0 for the others -/
def onesAt (ids : List DataRefId) : SimValues where
  datai id := if id ∈ ids then 1 else 0
  dataf id := if id ∈ ids then 1 else 0

theorem onesAt_read (ids : List DataRefId) (dr : DataRef) : (onesAt ids).read dr = if dr.id ∈ ids then 1 else 0 := by
  have hone : F32.ofInt32 (1 : Int32).toInt = 1 := by decide
  have hzero : F32.ofInt32 (0 : Int32).toInt = 0 := by decide
  cases hint : dr.useInt <;> by_cases hmem : dr.id ∈ ids <;>
    simp only [SimValues.read, onesAt, hint, hmem, hone, hzero, if_true, if_false, Bool.false_eq_true]

theorem validCode_zero (id : DataRefId) : ValidCode id 0 := by
  have hmic : AcpMicSelection.fromInt (f32ToInt 0) = .ok .vhf1 := by decide
  have hcontrol : ∀ c : SeatControl, c.ValidCode 0 := by
    intro c
    cases c <;> first | exact ⟨.vhf1, hmic⟩ | trivial
  cases id with
  | pilotSeat => exact ⟨.captain, by decide⟩
  | sharedCkptRole => exact ⟨.pilot, by decide⟩
  | sharedCkptZone => exact ⟨.inFbo, by decide⟩
  | _ => exact fun _ c _ => hcontrol c

theorem validCode_one {id : DataRefId} (h : id ≠ .sharedCkptZone) : ValidCode id 1 := by
  have hmic : AcpMicSelection.fromInt (f32ToInt 1) = .ok .vhf2 := by decide
  have hcontrol : ∀ c : SeatControl, c.ValidCode 1 := by
    intro c
    cases c <;> first | exact ⟨.vhf2, hmic⟩ | trivial
  cases id with
  | pilotSeat => exact ⟨.firstOfficer, by decide⟩
  | sharedCkptRole => exact ⟨.jumpseater, by decide⟩
  | sharedCkptZone => exact absurd rfl h
  | _ => exact fun _ c _ => hcontrol c

/-- a control cannot hold both -/
theorem holds_zero_one {c : SeatControl} {cs : CockpitState F32} (h0 : c.Holds cs 0) (h1 : c.Holds cs 1) : False := by
  have hbool : f32ToBool 0 ≠ f32ToBool 1 := by decide
  have hmic : AcpMicSelection.fromInt (f32ToInt 0) ≠ AcpMicSelection.fromInt (f32ToInt 1) := by decide
  have hvol : (0 : F32) ≠ 1 := by decide
  cases c with
  | mic => exact hmic (Eq.trans h0 (Eq.symm h1))
  | spkrVol => exact hvol (Eq.trans (Eq.symm h0) h1)
  | icVol => exact hvol (Eq.trans (Eq.symm h0) h1)
  | _ => exact hbool (Eq.trans (Eq.symm h0) h1)

/-- a control that holds a value keeps it when its DataRefs, of both seats, read that value -/
theorem holds_poll_same {datarefs : List DataRef} {sim : SimValues} {c : SeatControl} {w : F32} (hw : c.ValidCode w)
    (hread : ∀ dr ∈ datarefs, ∀ seat, dr.id = c.dataRef seat → sim.read dr = w) {cs : CockpitState F32}
    (h : c.Holds cs w) : c.Holds (pollDatarefs datarefs sim cs) w := by
  induction datarefs generalizing cs with
  | nil => exact h
  | cons dr datarefs ih =>
    rw [pollDatarefs_cons]
    apply ih fun dr' h' => hread dr' (List.mem_cons_of_mem _ h')
    by_cases hid : dr.id = c.dataRef cs.seat
    · rw [hread dr List.mem_cons_self cs.seat hid, hid]
      exact holds_update_self cs c hw
    · exact (holds_update_other cs hid _ w).2 h

/-- the seat after a pass is the one it reads -/
theorem pollDatarefs_seat_read {datarefs : List DataRef} {sim : SimValues} {seat : CockpitSeat}
    (hmem : ∃ dr ∈ datarefs, dr.id = .pilotSeat)
    (hcode : ∀ dr ∈ datarefs, dr.id = .pilotSeat → CockpitSeat.fromInt (f32ToInt (sim.read dr)) = .ok seat)
    (cs : CockpitState F32) : (pollDatarefs datarefs sim cs).seat = seat := by
  induction datarefs generalizing cs with
  | nil =>
    obtain ⟨dr, hdr, -⟩ := hmem
    cases hdr
  | cons dr datarefs ih =>
    rw [pollDatarefs_cons]
    by_cases hlater : ∃ dr' ∈ datarefs, dr'.id = .pilotSeat
    · exact ih hlater (fun dr' h' => hcode dr' (List.mem_cons_of_mem _ h')) _
    · have hid : dr.id = .pilotSeat := by
        obtain ⟨dr', hdr', hid⟩ := hmem
        rcases List.mem_cons.1 hdr' with rfl | hdr'
        · exact hid
        · exact absurd ⟨dr', hdr', hid⟩ hlater
      rw [pollDatarefs_seat fun dr' h' hid' => hlater ⟨dr', h', hid'⟩, hid]
      exact updateFromFloat_pilotSeat cs (hcode dr List.mem_cons_self hid)

theorem onesAt_read_zero (ids : List DataRefId) (seat : CockpitSeat) {dr : DataRef} (hids : dr.id ∉ ids)
    (hpilot : dr.id ≠ .pilotSeat) : (onesAt (ids ++ seatCode seat)).read dr = 0 := by
  rw [onesAt_read, if_neg]
  intro hmem
  rcases List.mem_append.1 hmem with hmem | hmem
  · exact hids hmem
  · cases seat with
    | captain => cases hmem
    | firstOfficer => exact hpilot (List.mem_singleton.1 hmem)

theorem seatCode_read (seat : CockpitSeat) (ids : List DataRefId) (h : .pilotSeat ∉ ids) {dr : DataRef}
    (hid : dr.id = .pilotSeat) :
    CockpitSeat.fromInt (f32ToInt ((onesAt (ids ++ seatCode seat)).read dr)) = .ok seat := by
  rw [onesAt_read, hid]
  cases seat with
  | captain =>
    rw [if_neg (by simpa [seatCode] using h)]
    decide
  | firstOfficer =>
    rw [if_pos (by simp [seatCode])]
    decide

/-- nothing in the pass that changes to the seat of a control found before PilotSeat moves that control away from 0 -/
theorem late_pass_holds_zero {datarefs : List DataRef} (hnodup : (datarefs.map DataRef.id).Nodup) {first : DataRef}
    (hfirst : firstRelevant datarefs = some first) {seat : CockpitSeat} {c : SeatControl}
    (hid : first.id = c.dataRef seat) {cs : CockpitState F32} (hseat : cs.seat = seat.other) (hzero : c.Holds cs 0) :
    c.Holds (pollDatarefs datarefs (onesAt ([first.id] ++ seatCode seat)) cs) 0 := by
  obtain ⟨-, as, bs, rfl, has⟩ := List.find?_eq_some_iff_append.1 hfirst
  have hasNot : ∀ dr ∈ as, ¬dr.id.SeatRelevant := fun dr hdr => by simpa using has dr hdr
  have hasSeat : ∀ dr ∈ as, dr.id ≠ .pilotSeat := fun dr hdr h => hasNot dr hdr (Or.inl h)
  have hasOther : ∀ dr ∈ as, dr.id ≠ c.dataRef cs.seat := by
    intro dr hdr h
    apply hasNot dr hdr (Or.inr _)
    rw [h, SeatControl.control_dataRef]
    simp
  have hvalid : c.ValidCode 0 := ValidCode.control (validCode_zero (c.dataRef seat))
  rw [pollDatarefs_append, pollDatarefs_cons]
  apply holds_poll_same hvalid
  · intro dr hdr seat' hdrId
    have hne : dr.id ∉ [first.id] := fun h => id_ne_of_nodup hnodup dr hdr (List.mem_singleton.1 h)
    exact onesAt_read_zero _ seat hne (hdrId ▸ SeatControl.dataRef_ne_pilotSeat seat' c)
  · rw [holds_update_other]
    · exact (holds_poll_other hasSeat hasOther _ 0).2 hzero
    · rw [pollDatarefs_seat hasSeat, hseat, hid]
      cases seat <;> cases c <;> decide

/-- a seat is changed to that of a control found before PilotSeat, whose value changes in the same pass: the pass still
ignores the control -/
theorem late_pass_not_reflects {datarefs : List DataRef} (hperm : (datarefs.map DataRef.id).Perm DataRefId.all)
    {first : DataRef} (hfirst : firstRelevant datarefs = some first) {seat : CockpitSeat} {c : SeatControl}
    (hcontrol : first.id.control = some (seat, c)) {cs : CockpitState F32} (hseat : cs.seat = seat.other)
    (hzero : c.Holds cs 0) : ¬Reflects datarefs (onesAt ([first.id] ++ seatCode seat))
      (pollDatarefs datarefs (onesAt ([first.id] ++ seatCode seat)) cs) := by
  have hnodup : (datarefs.map DataRef.id).Nodup := hperm.nodup_iff.2 DataRefId.nodup_all
  have hfirstMem : first ∈ datarefs := List.mem_of_find?_eq_some hfirst
  have hid := SeatControl.dataRef_of_control hcontrol
  have hnotPilot : DataRefId.pilotSeat ∉ [first.id] := by
    rw [List.mem_singleton, hid]
    exact (SeatControl.dataRef_ne_pilotSeat seat c).symm
  have hkept := late_pass_holds_zero hnodup hfirst hid hseat hzero
  rintro ⟨v, seat', hv, hcode, hall⟩
  obtain ⟨seatRef, hmem, hpilot⟩ := List.mem_map.1 (hperm.mem_iff.2 (DataRefId.mem_all .pilotSeat))
  have hread := valueIn_of_mem hnodup hmem (onesAt ([first.id] ++ seatCode seat))
  rw [hpilot, hv] at hread
  rw [Option.some.inj hread, seatCode_read seat _ hnotPilot hpilot] at hcode
  cases hcode
  obtain ⟨w, hw, hholds⟩ := hall c
  have hone := valueIn_of_mem hnodup hfirstMem (onesAt ([first.id] ++ seatCode seat))
  rw [← hid] at hw
  rw [onesAt_read, if_pos (by simp), hw] at hone
  rw [Option.some.inj hone] at hholds
  exact holds_zero_one hkept hholds

theorem flightLoop_resolved {ps : PluginState} (h : ps.pendingDatarefs = []) (t : Tick) :
    flightLoop ps t = { ps with
      connection := match t.change with
        | .keep => ps.connection.map (pollDatarefs ps.datarefs t.sim)
        | .start => some (CockpitState.default F32)
        | .stop => none } := by
  unfold flightLoop
  rw [retryPendingDatarefs_resolved h]
  cases t.change <;> rfl

/-- a tick of a flight in which the simulator publishes nothing new -/
def quietTick (ids : List DataRefId) (change : ConnectionChange) : Tick := ⟨fun _ => none, onesAt ids, change⟩

/-- reconnecting, one pass in the other seat, and the pass in which seat and control change -/
def seatChange (id : DataRefId) (seat : CockpitSeat) : List Tick :=
  [quietTick [] .stop, quietTick [] .start, quietTick (seatCode seat.other) .keep,
    quietTick ([id] ++ seatCode seat) .keep]

theorem validCode_onesAt {ids : List DataRefId} (h : .sharedCkptZone ∉ ids) (dr : DataRef) :
    ValidCode dr.id ((onesAt ids).read dr) := by
  rw [onesAt_read]
  split_ifs with hmem
  · apply validCode_one
    intro hid
    exact h (hid ▸ hmem)
  · exact validCode_zero dr.id

theorem default_holds_zero (c : SeatControl) : c.Holds (CockpitState.default F32) 0 := by
  cases c <;> rfl

/-- with everything resolved and a control before PilotSeat, the seat change is not reflected -/
theorem seatChange_not_meets {ps : PluginState} (h : Resolving ps) (hpending : ps.pendingDatarefs = [])
    {first : DataRef} (hfirst : firstRelevant ps.datarefs = some first) {seat : CockpitSeat} {c : SeatControl}
    (hcontrol : first.id.control = some (seat, c)) :
    ¬Runs.Meets flightLoop ReflectsSeat ps (seatChange first.id seat) := by
  have hperm : (ps.datarefs.map DataRef.id).Perm DataRefId.all := by
    have := h.perm
    rwa [hpending, List.append_nil] at this
  let other := pollDatarefs ps.datarefs (onesAt (seatCode seat.other)) (CockpitState.default F32)
  intro hmeets
  -- the state before the last tick: the pass in the other seat, over the default state
  have hlast : ReflectsSeat { ps with connection := some other } (quietTick ([first.id] ++ seatCode seat) .keep) := by
    have hstates : Runs.run flightLoop ps [quietTick [] .stop, quietTick [] .start,
        quietTick (seatCode seat.other) .keep] = { ps with connection := some other } := by
      rw [Runs.run_cons, flightLoop_resolved hpending, Runs.run_cons, flightLoop_resolved (by exact hpending),
        Runs.run_cons, flightLoop_resolved (by exact hpending)]
      rfl
    have hsplit := (Runs.meets_append ps [quietTick [] .stop, quietTick [] .start,
      quietTick (seatCode seat.other) .keep] [quietTick ([first.id] ++ seatCode seat) .keep]).1 hmeets
    rw [hstates] at hsplit
    exact hsplit.2.1
  have hpilotMem : ∃ dr ∈ ps.datarefs, dr.id = .pilotSeat :=
    List.mem_map.1 (hperm.mem_iff.2 (DataRefId.mem_all .pilotSeat))
  have hotherSeat : other.seat = seat.other :=
    pollDatarefs_seat_read hpilotMem
      (fun dr _ hid => seatCode_read seat.other [] List.not_mem_nil hid) _
  have hvalid : c.ValidCode 0 := ValidCode.control (validCode_zero (c.dataRef seat))
  have hotherZero : c.Holds other 0 := by
    apply holds_poll_same hvalid
    · intro dr _ seat' hid
      have hpilot : dr.id ≠ .pilotSeat := by
        rw [hid]
        exact SeatControl.dataRef_ne_pilotSeat seat' c
      exact onesAt_read_zero [] seat.other List.not_mem_nil hpilot
    · exact default_holds_zero c
  have hreflects := hlast other
  rw [retryPendingDatarefs_resolved (by exact hpending)] at hreflects
  have hzone : DataRefId.sharedCkptZone ∉ [first.id] ++ seatCode seat := by
    have hne : first.id ≠ .sharedCkptZone := by
      intro hid
      rw [hid] at hcontrol
      cases hcontrol
    cases seat <;> simp [seatCode, hne.symm]
  exact late_pass_not_reflects hperm hfirst hcontrol hotherSeat hotherZero
    (hreflects rfl hpending fun dr _ => validCode_onesAt hzone dr)

/-- Polling. Once all DataRefs are resolved, every pass made so, of the run and of every continuation, reflects the seat
it reads if and only if at no time of the run a control was resolved while PilotSeat was not. -/
theorem passes_reflect_iff (find : FindDataRef) (ts : List Tick)
    (hresolved : (Runs.run flightLoop (.enable find) ts).pendingDatarefs = []) :
    (∀ more, Runs.Meets flightLoop ReflectsSeat (.enable find) (ts ++ more)) ↔
      Runs.Always flightLoop (fun ps => SeatFound ps.datarefs) (.enable find) ts := by
  have henable := resolving_enable find
  have hbefore : SeatBefore (Runs.run flightLoop (.enable find) ts).datarefs ↔
      Runs.Always flightLoop (fun ps => SeatFound ps.datarefs) (.enable find) ts := by
    rw [seatBefore_run_iff henable]
    exact and_iff_right_of_imp fun h => (seatBefore_enable_iff find).2 h.head
  rw [← hbefore]
  refine ⟨?_, ?_⟩
  · intro hall first hfirst
    by_contra hne
    have hrel : first.id.SeatRelevant := by simpa using List.find?_some hfirst
    obtain ⟨⟨seat, c⟩, hcontrol⟩ := Option.ne_none_iff_exists'.1 (hrel.resolve_left hne)
    have hmeets := ((Runs.meets_append (PluginState.enable find) ts _).1 (hall (seatChange first.id seat))).2
    have hresolving := Runs.run_inv (P := Resolving) (fun _ t h => resolving_step h t) henable ts
    exact seatChange_not_meets hresolving hresolved hfirst hcontrol hmeets
  · intro hb more
    apply meets_of_seatBefore henable
    rw [Runs.run_append, run_datarefs_resolved hresolved]
    exact hb

/-- 39 quiet ticks, and a 40th that finds all DataRefs -/
def untilRetry : List Tick := List.replicate 39 (quietTick [] .keep) ++ [⟨fun _ => some false, onesAt [], .keep⟩]

/-- only PilotSeat is there when the plugin is enabled -/
def controlsLate : FindDataRef := fun id => if id = .pilotSeat then some false else none

/-- the controls are found by the retry, after PilotSeat: every pass from then on reflects the seat -/
theorem passes_reflect_iff_retried :
    (PluginState.enable controlsLate).pendingDatarefs ≠ [] ∧
      ∀ more, Runs.Meets flightLoop ReflectsSeat (.enable controlsLate) (untilRetry ++ more) := by
  have hresolved : (Runs.run flightLoop (.enable controlsLate) untilRetry).pendingDatarefs = [] := by decide +kernel
  have hfirst : firstRelevant (Runs.run flightLoop (.enable controlsLate) untilRetry).datarefs =
      some ⟨.pilotSeat, false⟩ := by decide +kernel
  have hbefore : SeatBefore (Runs.run flightLoop (.enable controlsLate) untilRetry).datarefs := by
    intro dr hdr
    rw [hfirst] at hdr
    cases hdr
    rfl
  have halways := ((seatBefore_run_iff (resolving_enable controlsLate) untilRetry).1 hbefore).2
  exact ⟨by decide, (passes_reflect_iff controlsLate untilRetry hresolved).2 halways⟩

/-- PilotSeat is published last -/
def pilotSeatLate : FindDataRef := fun id => if id = .pilotSeat then none else some false

/-- all DataRefs are resolved, and the captain's interphone switch, on when the captain takes the seat, is ignored in
the pass that reports it -/
theorem late_pilotSeat_keeps_other_seat :
    (Runs.run flightLoop (.enable pilotSeatLate) untilRetry).pendingDatarefs = [] ∧
    ¬Runs.Meets flightLoop ReflectsSeat (.enable pilotSeatLate)
      (untilRetry ++ seatChange .acp1Ic .captain) := by
  have hresolved : (Runs.run flightLoop (.enable pilotSeatLate) untilRetry).pendingDatarefs = [] := by
    decide +kernel
  have hfirst : firstRelevant (Runs.run flightLoop (.enable pilotSeatLate) untilRetry).datarefs =
      some ⟨.acp1Ic, false⟩ := by decide +kernel
  refine ⟨hresolved, ?_⟩
  intro hmeets
  have hresolving := Runs.run_inv (P := Resolving) (fun _ t h => resolving_step h t) (resolving_enable pilotSeatLate)
    untilRetry
  exact seatChange_not_meets hresolving hresolved hfirst rfl ((Runs.meets_append _ untilRetry _).1 hmeets).2

end MumbledFlight

/-
The command line's bridge to the simulator (`xplane.rs` of the CLI): it asks for the list of DataRefs until it gets one,
keeps the ids of those it knows, and from then on polls their values in the order of a hash map.

Results, for every run of requests, answered or not:
- `fromName_eq_some_iff`: the names tell the DataRefs apart, and all are found by name.
- `bridge_idToEnum`: what is polled is what the first answered request listed, for good.
- `settled_twice`: two passes over any DataRefs, in any order, settle them.
- `bridge_converges`: so after two complete passes the state is what the values say, whatever was lost before, and with
  all DataRefs listed it is what the plugin has after one pass.
-/
import MumbledFlight.Lib.HashMap
import MumbledFlight.Plugin.PollOrder

namespace MumbledFlight

/-! ## Names -/

def DataRefId.name : DataRefId → String
  | .headX => "sim/graphics/view/pilots_head_x"
  | .headY => "sim/graphics/view/pilots_head_y"
  | .headZ => "sim/graphics/view/pilots_head_z"
  | .headPsi => "sim/graphics/view/pilots_head_psi"
  | .headThe => "sim/graphics/view/pilots_head_the"
  | .headPhi => "sim/graphics/view/pilots_head_phi"
  | .planePsi => "sim/flightmodel/position/psi"
  | .pilotSeat => "CL650/pilot_seat"
  | .sharedCkptRole => "CL650/shared_ckpt/my_role"
  | .sharedCkptZone => "CL650/shared_ckpt/my_zone"
  | .acp1Ic => "CL650/ACP/1/ic"
  | .acp1Rt => "CL650/ACP/1/rt"
  | .acp1Mic => "CL650/ACP/1/mic_value"
  | .acp1SpkrTog => "CL650/ACP/1/spkr_tog_value"
  | .acp1SpkrVol => "CL650/ACP/1/spkr_vol"
  | .acp1IntSvcTog => "CL650/ACP/1/int_svc_tog_value"
  | .acp1IntSvcVol => "CL650/ACP/1/int_svc_vol"
  | .acp2Ic => "CL650/ACP/2/ic"
  | .acp2Rt => "CL650/ACP/2/rt"
  | .acp2Mic => "CL650/ACP/2/mic_value"
  | .acp2SpkrTog => "CL650/ACP/2/spkr_tog_value"
  | .acp2SpkrVol => "CL650/ACP/2/spkr_vol"
  | .acp2IntSvcTog => "CL650/ACP/2/int_svc_tog_value"
  | .acp2IntSvcVol => "CL650/ACP/2/int_svc_vol"
  | .contwheel0Ic => "CL650/contwheel/0/ic"
  | .contwheel1Ic => "CL650/contwheel/1/ic"
  | .contwheel0Rt => "CL650/contwheel/0/rt"
  | .contwheel1Rt => "CL650/contwheel/1/rt"
  | .doorCabin => "CL650/doors/cabin/door"
  | .doorLavatory => "CL650/doors/cabin/lavatory"
  | .doorMain => "CL650/doors/main/door"
  | .sharedCkptIsGuest => "CL650/shared_ckpt/is_guest"
  | .xpilotCom1Rx => "xpilot/audio/com1_rx"
  | .xpilotCom2Rx => "xpilot/audio/com2_rx"

def DataRefId.fromName (name : String) : Option DataRefId := all.find? fun id => id.name = name

theorem DataRefId.fromName_name (id : DataRefId) : fromName id.name = some id := by
  cases id <;> decide +kernel

theorem DataRefId.fromName_eq_some_iff {name : String} {id : DataRefId} : fromName name = some id ↔ id.name = name := by
  refine ⟨?_, ?_⟩
  · intro h
    simpa using List.find?_some h
  · rintro rfl
    exact id.fromName_name

/-! ## The bridge -/

/-- a JSON value, as far as scalars are told apart -/
inductive JsonValue where
  | number (x : Float)
  | bool (b : Bool)
  | other

/-- only scalars are let through -/
def valueToF32 : JsonValue → Option F32
  | .number x => some ⟨x.toFloat32.toBits⟩
  | .bool b => some (if b then 1 else 0)
  | .other => none

structure RestDataRef where
  id : UInt64
  name : String
deriving DecidableEq

/-- the ids of the DataRefs it knows -/
def idToEnum (data : List RestDataRef) : HashMap UInt64 DataRefId :=
  .ofList (data.filterMap fun dr => (DataRefId.fromName dr.name).map fun id => (dr.id, id))

structure Bridge where
  /-- the ids, once there was an answer -/
  idToEnum : Option (HashMap UInt64 DataRefId)
  state : CockpitState F32

inductive BridgeEvent where
  /-- the request for the list of DataRefs; without an answer it is made again -/
  | discovery (response : Option (List RestDataRef))
  /-- a round of requests for the values, in this order; some may fail -/
  | pass (order : List UInt64) (fetch : UInt64 → Option JsonValue)

namespace Bridge

def start : Bridge := ⟨none, CockpitState.default F32⟩

/-- one request of a round -/
def visit (ids : HashMap UInt64 DataRefId) (fetch : UInt64 → Option JsonValue) (cs : CockpitState F32) (id : UInt64) :
    CockpitState F32 :=
  match ids.lookup id, (fetch id).bind valueToF32 with
  | some enumId, some f => cs.updateFromFloat enumId f
  | _, _ => cs

/-- `run_bridge_forever` -/
def step (b : Bridge) : BridgeEvent → Bridge
  | .discovery response =>
    match b.idToEnum with
    | none => { b with idToEnum := response.map MumbledFlight.idToEnum }
    | some _ => b -- it polls, and asks no more
  | .pass order fetch =>
    match b.idToEnum with
    | none => b
    | some ids => if order.Perm ids.keys then { b with state := order.foldl (visit ids fetch) b.state } else b

end Bridge

/-! ## Passes over some of the DataRefs -/

section

variable {values : DataRefId → F32}

theorem pilotSeat_settled (hvalid : ∀ id, ValidCode id (values id)) {ids : List DataRefId} (h : .pilotSeat ∈ ids)
    (cs : CockpitState F32) : Settled values (pollPass ids values cs) .pilotSeat := by
  obtain ⟨before, after, rfl⟩ := List.append_of_mem h
  have hafter : pollPass (before ++ .pilotSeat :: after) values cs =
      pollPass after values ((pollPass before values cs).updateFromFloat .pilotSeat (values .pilotSeat)) :=
    List.foldl_append
  rw [hafter]
  exact (writes_any hvalid).kept (fun _ _ _ => rfl) trivial (settled_update_self _ (hvalid .pilotSeat))

/-- Two passes over the same DataRefs settle them. With PilotSeat among them the first pass settles the seat; without it
the seat does not change. -/
theorem settled_twice (hvalid : ∀ id, ValidCode id (values id)) {ids ids' : List DataRefId}
    (cs : CockpitState F32) (hseat : .pilotSeat ∈ ids' → .pilotSeat ∈ ids) :
    ∀ id ∈ ids', Settled values (pollPass ids' values (pollPass ids values cs)) id := by
  by_cases hpilot : .pilotSeat ∈ ids'
  · have hfirst := pilotSeat_settled hvalid (hseat hpilot) cs
    exact (writes_seated hvalid).settled (List.pairwise_of_forall fun _ _ => trivial) hfirst
  · refine (writes_any hvalid).settled ?_ trivial
    exact List.pairwise_of_forall_mem_list fun _ _ id' hid' h => absurd (h ▸ hid') hpilot

end

/-! ## What is polled -/

namespace Bridge

/-- the list in the first answer -/
def firstAnswer (es : List BridgeEvent) : Option (List RestDataRef) :=
  es.findSome? fun
    | .discovery response => response
    | .pass _ _ => none

theorem run_idToEnum_some {b : Bridge} {ids : HashMap UInt64 DataRefId} (h : b.idToEnum = some ids)
    (es : List BridgeEvent) : (Runs.run step b es).idToEnum = some ids := by
  refine Runs.run_inv (P := fun b : Bridge => b.idToEnum = some ids) ?_ h es
  intro b e hb
  cases e with
  | discovery response => simp only [step, hb]
  | pass order fetch =>
    simp only [step, hb]
    split_ifs
    · rfl
    · exact hb

theorem bridge_idToEnum (es : List BridgeEvent) :
    (Runs.run step start es).idToEnum = (firstAnswer es).map MumbledFlight.idToEnum := by
  have hrun : ∀ b : Bridge, b.idToEnum = none →
      (Runs.run step b es).idToEnum = (firstAnswer es).map MumbledFlight.idToEnum := by
    induction es with
    | nil => exact fun b hb => hb
    | cons e es ih =>
      intro b hb
      rw [Runs.run_cons]
      cases e with
      | discovery response =>
        cases response with
        | none =>
          refine ih _ ?_
          simp only [step, hb, Option.map_none]
        | some data =>
          refine run_idToEnum_some ?_ es
          simp only [step, hb, Option.map_some]
      | pass order fetch =>
        have hstep : b.step (.pass order fetch) = b := by simp only [step, hb]
        rw [hstep]
        exact ih b hb
  exact hrun start rfl

/-- with the ids distinct, an id stands for the DataRef whose name is listed with it -/
theorem lookup_idToEnum {data : List RestDataRef} (hids : (data.map RestDataRef.id).Nodup) (sid : UInt64)
    (id : DataRefId) : (MumbledFlight.idToEnum data).lookup sid = some id ↔ ⟨sid, id.name⟩ ∈ data := by
  unfold MumbledFlight.idToEnum
  rw [HashMap.lookup_ofList, Option.map_eq_some_iff]
  have hmem : ∀ e : UInt64 × DataRefId, e ∈ (data.filterMap fun dr => (DataRefId.fromName dr.name).map fun id =>
      (dr.id, id)) ↔ ⟨e.1, e.2.name⟩ ∈ data := by
    intro e
    simp only [List.mem_filterMap, Option.map_eq_some_iff, DataRefId.fromName_eq_some_iff]
    refine ⟨?_, ?_⟩
    · rintro ⟨⟨_, _⟩, hdr, _, rfl, rfl⟩
      exact hdr
    · intro he
      exact ⟨_, he, e.2, rfl, rfl⟩
  refine ⟨?_, ?_⟩
  · rintro ⟨e, hfind, rfl⟩
    have he := (hmem e).1 (List.mem_reverse.1 (List.mem_of_find?_eq_some hfind))
    have hsid : e.1 = sid := by simpa using List.find?_some hfind
    rwa [hsid] at he
  · intro h
    -- some pair with the id is found, and it is the only one
    obtain ⟨e, hfind⟩ := Option.isSome_iff_exists.1 (List.find?_isSome.2
      ⟨(sid, id), List.mem_reverse.2 ((hmem (sid, id)).2 h), by simp⟩ : ((data.filterMap fun dr =>
        (DataRefId.fromName dr.name).map fun id => (dr.id, id)).reverse.find? fun e => e.1 = sid).isSome = true)
    have he := (hmem e).1 (List.mem_reverse.1 (List.mem_of_find?_eq_some hfind))
    have hsid : e.1 = sid := by simpa using List.find?_some hfind
    rw [hsid] at he
    have hsame := List.inj_on_of_nodup_map hids he h rfl
    have hname : e.2 = id := by
      rw [← Option.some_inj, ← DataRefId.fromName_name, ← DataRefId.fromName_name id, (RestDataRef.mk.inj hsame).2]
    exact ⟨e, hfind, hname⟩

/-! ## What a pass leaves -/

theorem reachable_update {cs : CockpitState F32} (h : Reachable cs) (id : DataRefId) (v : F32) :
    Reachable (cs.updateFromFloat id v) := by
  obtain ⟨updates, rfl⟩ := h
  exact ⟨updates ++ [(id, v)], by rw [Runs.run_snoc]⟩

theorem reachable_step {b : Bridge} (h : Reachable b.state) (e : BridgeEvent) : Reachable (b.step e).state := by
  cases e with
  | discovery response =>
    simp only [step]
    split <;> exact h
  | pass order fetch =>
    simp only [step]
    split
    · exact h
    · split_ifs
      · refine Runs.run_inv (P := Reachable) ?_ h order
        intro cs id hcs
        unfold visit
        split
        · exact reachable_update hcs _ _
        · exact hcs
      · exact h

/-- the DataRefs a pass visits -/
def visited (ids : HashMap UInt64 DataRefId) (order : List UInt64) : List DataRefId := order.filterMap ids.lookup

/-- a pass in which every request is answered, with these values -/
structure Complete (ids : HashMap UInt64 DataRefId) (values : DataRefId → F32) (order : List UInt64)
    (fetch : UInt64 → Option JsonValue) : Prop where
  order : order.Perm ids.keys
  answers : ∀ sid id, ids.lookup sid = some id → (fetch sid).bind valueToF32 = some (values id)

variable {ids : HashMap UInt64 DataRefId} {values : DataRefId → F32} {order : List UInt64}
  {fetch : UInt64 → Option JsonValue}

theorem mem_visited (h : order.Perm ids.keys) {id : DataRefId} :
    id ∈ visited ids order ↔ ∃ sid, ids.lookup sid = some id := by
  unfold visited
  rw [List.mem_filterMap]
  refine ⟨fun ⟨sid, _, hsid⟩ => ⟨sid, hsid⟩, ?_⟩
  rintro ⟨sid, hsid⟩
  refine ⟨sid, h.mem_iff.2 (AList.lookup_isSome.1 ?_), hsid⟩
  rw [hsid]
  rfl

theorem foldl_visit (h : ∀ sid id, ids.lookup sid = some id → (fetch sid).bind valueToF32 = some (values id))
    (order : List UInt64) (cs : CockpitState F32) :
    order.foldl (visit ids fetch) cs = pollPass (visited ids order) values cs := by
  induction order generalizing cs with
  | nil => rfl
  | cons sid order ih =>
    rw [List.foldl_cons, ih]
    cases hid : ids.lookup sid with
    | none => simp only [visited, visit, hid, List.filterMap_cons_none]
    | some id =>
      have hcons : visited ids (sid :: order) = id :: visited ids order := List.filterMap_cons_some hid
      rw [hcons]
      simp only [visit, hid, h sid id hid]
      rfl

theorem step_complete {b : Bridge} (hids : b.idToEnum = some ids) (h : Complete ids values order fetch) :
    (b.step (.pass order fetch)).idToEnum = some ids ∧
    (b.step (.pass order fetch)).state = pollPass (visited ids order) values b.state := by
  simp only [step, hids, if_pos h.order, foldl_visit h.answers]
  exact ⟨trivial, trivial⟩

end Bridge

open Bridge

/-- The bridge converges. What it polls is what the first answered request for the list names. After any run, once two
passes are complete and read the same valid values, every DataRef it polls is settled; and if it polls all of them, the
state is the one the plugin's pass over these values leaves, from any state of its own. -/
theorem bridge_converges (es : List BridgeEvent) :
    let b := Runs.run step start es
    b.idToEnum = (firstAnswer es).map MumbledFlight.idToEnum ∧
    (∀ data, firstAnswer es = some data → (data.map RestDataRef.id).Nodup → ∀ ids, b.idToEnum = some ids →
      ∀ sid id, ids.lookup sid = some id ↔ ⟨sid, id.name⟩ ∈ data) ∧
    ∀ ids values, b.idToEnum = some ids → (∀ id, ValidCode id (values id)) → ∀ order order' fetch fetch',
      Complete ids values order fetch → Complete ids values order' fetch' →
        let b' := (b.step (.pass order fetch)).step (.pass order' fetch')
        (∀ sid id, ids.lookup sid = some id → Settled values b'.state id) ∧
        ((∀ id, ∃ sid, ids.lookup sid = some id) → ∀ cs, Reachable cs →
          b'.state = pollPass DataRefId.all values cs) := by
  intro b
  refine ⟨bridge_idToEnum es, ?_, ?_⟩
  · intro data hdata hnodup ids hids sid id
    rw [bridge_idToEnum, hdata, Option.map_some, Option.some.injEq] at hids
    rw [← hids]
    exact lookup_idToEnum hnodup sid id
  · intro ids values hids hvalid order order' fetch fetch' h h' b'
    obtain ⟨hids₁, hstate₁⟩ := step_complete hids h
    obtain ⟨-, hstate₂⟩ := step_complete hids₁ h'
    have hsettled : ∀ sid id, ids.lookup sid = some id → Settled values b'.state id := by
      intro sid id hid
      rw [hstate₂, hstate₁]
      refine settled_twice hvalid _ ?_ id ((mem_visited h'.order).2 ⟨sid, hid⟩)
      rw [mem_visited h.order, mem_visited h'.order]
      exact fun hpilot => hpilot
    refine ⟨hsettled, ?_⟩
    intro hall cs hcs
    have hb : Reachable b.state :=
      Runs.run_inv (P := fun b : Bridge => Reachable b.state) (fun _ e hb => reachable_step hb e) ⟨[], rfl⟩ es
    have hb' : Reachable b'.state := reachable_step (reachable_step hb _) _
    have hplugin := pass_settles hvalid (List.Perm.refl _) pilotSeatFirst_all cs
    refine eq_of_settled ?_ hplugin ?_
    · intro id
      obtain ⟨sid, hid⟩ := hall id
      exact hsettled sid id hid
    · rw [hb'.planeRot, (hcs.pollPass DataRefId.all).planeRot]

end MumbledFlight

/-
How sound travels between two places (`aircraft_skin_gains`, `compute_stereo_gains`, `pa_gain` in `spatial.rs`), over
exact reals: what changes when talker and listener trade places, when the talker walks away, and when a listener of the
public address steps out of the main door.

Results, for every position, head orientation and door opening in range:
- `reciprocity_iff`: on one side of the hull both directions are equally loud. Across it the path through the main door
  reads the interior doors on the listener's leg only, so both directions agree exactly if the main door is shut, one
  party is out of its reach, or the interior doors leave the same of both legs.
- `fades_with_distance`: a talker who moves straight away becomes louder in neither ear.
- `pa_outside_iff`: outside, the public address is the hull's share plus the open door's, of the level in the doorway.
  Together they are no more than that level exactly while the door's share is at most 0.85.
-/
import MumbledFlight.Voip.Panning

namespace MumbledFlight

noncomputable section

/-! ## Both directions -/

/-- left and right together -/
def totalGain (gains : ℝ × ℝ) : ℝ := gains.1 + gains.2

/-- the same cockpit with the head elsewhere, in Mumble coordinates -/
def headAt (state : CockpitState ℝ) (pos rot : Vec3 ℝ) : CockpitState ℝ :=
  { state with pos := xplaneToMumble pos, rot := rot }

theorem xplaneToMumble_headAt (state : CockpitState ℝ) (pos rot : Vec3 ℝ) :
    xplaneToMumble (headAt state pos rot).pos = pos := by
  simp [headAt, xplaneToMumble]

theorem distance_comm (a b : Vec3 ℝ) : distance a b = distance b a := by
  unfold distance
  congr 1
  ring

theorem doorAttenuation_comm (za zb doorZ opening openThreshold : ℝ) :
    doorAttenuation za zb doorZ opening openThreshold = doorAttenuation zb za doorZ opening openThreshold := by
  unfold doorAttenuation
  rw [mul_comm]

theorem doorFactor_comm (a b : Vec3 ℝ) (door doorLav : ℝ) : doorFactor a b door doorLav = doorFactor b a door doorLav := by
  unfold doorFactor
  rw [doorAttenuation_comm a.2.2, doorAttenuation_comm a.2.2]

theorem level_comm (a b : Vec3 ℝ) (door doorLav : ℝ) : level a b door doorLav = level b a door doorLav := by
  unfold level
  rw [distance_comm, doorFactor_comm]

/-- on one side of the hull the total is the level -/
theorem totalGain_stereo {sourcePos listenerPos : Vec3 ℝ} (h : 0.01 ≤ distance listenerPos sourcePos)
    (listenerRot : Vec3 ℝ) (door doorLav : ℝ) :
    totalGain (computeStereoGains sourcePos listenerPos listenerRot door doorLav) =
      1.25 * level sourcePos listenerPos door doorLav := stereo_sum h listenerRot door doorLav

/-- across the hull it is the skin's share of the level, and the level from the main door on -/
theorem totalGain_skin {sourcePos listenerPos : Vec3 ℝ} (h : 0.01 ≤ distance listenerPos sourcePos)
    (hdoor : 0.01 ≤ distance listenerPos mainDoorPos) (listenerRot : Vec3 ℝ) (door doorLav : ℝ) {doorMain : ℝ}
    (hmain : 0 ≤ doorMain) :
    totalGain (aircraftSkinGains sourcePos listenerPos listenerRot door doorLav doorMain) =
      1.25 * (skinBase * level sourcePos listenerPos door doorLav +
        doorMain * (pointGain sourcePos mainDoorPos * level mainDoorPos listenerPos door doorLav)) := by
  have hhull := stereo_sum h listenerRot door doorLav
  have hpath := stereo_sum hdoor listenerRot door doorLav
  rw [aircraftSkinGains_sum _ _ _ _ _ hmain, totalGain]
  linear_combination skinBase * hhull + pointGain sourcePos mainDoorPos * doorMain * hpath

/-- the two directions differ by the interior doors on the two legs from the main door -/
theorem totalGain_skin_sub {p q : Vec3 ℝ} (hpq : 0.01 ≤ distance p q) (hp : 0.01 ≤ distance p mainDoorPos)
    (hq : 0.01 ≤ distance q mainDoorPos) (rotP rotQ : Vec3 ℝ) (door doorLav : ℝ) {doorMain : ℝ} (hmain : 0 ≤ doorMain) :
    totalGain (aircraftSkinGains p q rotQ door doorLav doorMain) -
        totalGain (aircraftSkinGains q p rotP door doorLav doorMain) =
      1.25 * (doorMain * (pointGain p mainDoorPos * pointGain q mainDoorPos *
        (doorFactor mainDoorPos q door doorLav - doorFactor mainDoorPos p door doorLav))) := by
  have hqp : 0.01 ≤ distance q p := by rwa [distance_comm]
  rw [totalGain_skin hqp hq rotQ door doorLav hmain, totalGain_skin hpq hp rotP door doorLav hmain, level_comm p q]
  unfold level pointGain
  ring

theorem pointGain_eq_zero_iff (source target : Vec3 ℝ) : pointGain source target = 0 ↔ 8 ≤ distance source target := by
  refine ⟨?_, falloff_eq_zero⟩
  intro h
  by_contra hnear
  exact (falloff_pos (not_le.1 hnear)).ne' h

/-- Reciprocity. Talker and listener trade places, heads turned anyhow: the total stays exactly if they are on one side
of the hull, or the main door is shut, or one of them is 8 m or more from it, or the interior doors between it and each
of the two leave the same. -/
theorem reciprocity_iff (state : CockpitState ℝ) {p q : Vec3 ℝ} (rotP rotQ : Vec3 ℝ) (hpq : 0.01 ≤ distance p q)
    (hp : 0.01 ≤ distance p mainDoorPos) (hq : 0.01 ≤ distance q mainDoorPos)
    (hmain : state.doorMain ∈ Set.Icc (0 : ℝ) 1) :
    totalGain (pathGains (some p) (headAt state q rotQ)) = totalGain (pathGains (some q) (headAt state p rotP)) ↔
      (isInsideAircraft p ↔ isInsideAircraft q) ∨ state.doorMain = 0 ∨ 8 ≤ distance p mainDoorPos ∨
        8 ≤ distance q mainDoorPos ∨
        doorFactor mainDoorPos p state.door state.doorLav = doorFactor mainDoorPos q state.door state.doorLav := by
  have hqp : 0.01 ≤ distance q p := by rwa [distance_comm]
  unfold pathGains
  dsimp only
  rw [xplaneToMumble_headAt, xplaneToMumble_headAt]
  by_cases hside : isInsideAircraft p ↔ isInsideAircraft q
  · rw [if_neg (not_not.2 hside.symm), if_neg (not_not.2 hside)]
    refine iff_of_true ?_ (Or.inl hside)
    change totalGain (computeStereoGains p q rotQ state.door state.doorLav) =
      totalGain (computeStereoGains q p rotP state.door state.doorLav)
    rw [totalGain_stereo hqp, totalGain_stereo hpq, level_comm]
  · have hside' : ¬(isInsideAircraft q ↔ isInsideAircraft p) := fun h => hside h.symm
    rw [if_pos hside', if_pos hside]
    change totalGain (aircraftSkinGains p q rotQ state.door state.doorLav state.doorMain) =
      totalGain (aircraftSkinGains q p rotP state.door state.doorLav state.doorMain) ↔ _
    have hdiff := totalGain_skin_sub hpq hp hq rotP rotQ state.door state.doorLav hmain.1
    have hscale : (1.25 : ℝ) ≠ 0 := by norm_num
    calc totalGain (aircraftSkinGains p q rotQ state.door state.doorLav state.doorMain) =
          totalGain (aircraftSkinGains q p rotP state.door state.doorLav state.doorMain)
        ↔ 1.25 * (state.doorMain * (pointGain p mainDoorPos * pointGain q mainDoorPos *
            (doorFactor mainDoorPos q state.door state.doorLav - doorFactor mainDoorPos p state.door state.doorLav))) =
            0 := by rw [← sub_eq_zero, hdiff]
      _ ↔ state.doorMain = 0 ∨ (8 ≤ distance p mainDoorPos ∨ 8 ≤ distance q mainDoorPos) ∨
            doorFactor mainDoorPos q state.door state.doorLav = doorFactor mainDoorPos p state.door state.doorLav := by
        rw [mul_eq_zero, or_iff_right hscale, mul_eq_zero, mul_eq_zero, mul_eq_zero, pointGain_eq_zero_iff,
          pointGain_eq_zero_iff, sub_eq_zero]
      _ ↔ _ := by
        rw [or_iff_right hside, or_assoc, eq_comm (a := doorFactor mainDoorPos q state.door state.doorLav)]

theorem distance_of_sq {a b : Vec3 ℝ} {d : ℝ} (hd : 0 ≤ d)
    (h : (b.1 - a.1) ^ 2 + (b.2.1 - a.2.1) ^ 2 + (b.2.2 - a.2.2) ^ 2 = d ^ 2) : distance a b = d := by
  unfold distance
  rw [h, Real.sqrt_sq hd]

/-- two people in the cabin, 3 m and 5 m from the main door -/
theorem reciprocity_iff_cabin :
    totalGain (pathGains (some (-1, 0.5, 2)) (headAt (CockpitState.default ℝ) (-1, 0.5, 0) (0, 0, 0))) =
      totalGain (pathGains (some (-1, 0.5, 0)) (headAt (CockpitState.default ℝ) (-1, 0.5, 2) (0, 0, 0))) := by
  have hpq : distance (-1, 0.5, 2) (-1, 0.5, 0) = 2 := distance_of_sq zero_le_two (by norm_num)
  have hp : distance (-1, 0.5, 2) mainDoorPos = 3 := distance_of_sq zero_le_three (by norm_num [mainDoorPos])
  have hq : distance (-1, 0.5, 0) mainDoorPos = 5 := distance_of_sq (by norm_num) (by norm_num [mainDoorPos])
  have hinside : isInsideAircraft (-1, 0.5, 2) ↔ isInsideAircraft (-1, 0.5, 0) := by norm_num [isInsideAircraft]
  exact (reciprocity_iff (CockpitState.default ℝ) (0, 0, 0) (0, 0, 0) (by rw [hpq]; norm_num) (by rw [hp]; norm_num)
    (by rw [hq]; norm_num) ⟨zero_le_one, le_rfl⟩).2 (Or.inl hinside)

/-- the cabin door shut, someone just behind it and someone outside, each 1 m from the open main door -/
theorem aperture_attenuates_one_way :
    let state := { CockpitState.default ℝ with door := 0 }
    0.01 ≤ distance (-1, 0.5, 4) (-2, 0.5, 5) ∧ 0.01 ≤ distance (-1, 0.5, 4) mainDoorPos ∧
    0.01 ≤ distance (-2, 0.5, 5) mainDoorPos ∧
    totalGain (pathGains (some (-1, 0.5, 4)) (headAt state (-2, 0.5, 5) (0, 0, 0))) ≠
      totalGain (pathGains (some (-2, 0.5, 5)) (headAt state (-1, 0.5, 4) (0, 0, 0))) := by
  intro state
  have hpq : distance (-1, 0.5, 4) (-2, 0.5, 5) = √2 :=
    distance_of_sq (Real.sqrt_nonneg 2) (by rw [Real.sq_sqrt zero_le_two]; norm_num)
  have hp : distance (-1, 0.5, 4) mainDoorPos = 1 := distance_of_sq zero_le_one (by norm_num [mainDoorPos])
  have hq : distance (-2, 0.5, 5) mainDoorPos = 1 := distance_of_sq zero_le_one (by norm_num [mainDoorPos])
  have hfar : (0.01 : ℝ) ≤ √2 := by
    rw [Real.le_sqrt (by norm_num) zero_le_two]
    norm_num
  have hreach : falloff 1 = 1 := if_pos (by norm_num)
  have hcross : ¬(isInsideAircraft (-2, 0.5, 5) ↔ isInsideAircraft (-1, 0.5, 4)) := by norm_num [isInsideAircraft]
  have hcross' : ¬(isInsideAircraft (-1, 0.5, 4) ↔ isInsideAircraft (-2, 0.5, 5)) := fun h => hcross h.symm
  refine ⟨by rwa [hpq], by rw [hp]; norm_num, by rw [hq]; norm_num, ?_⟩
  unfold pathGains
  dsimp only
  rw [xplaneToMumble_headAt, xplaneToMumble_headAt, if_pos hcross, if_pos hcross', ← sub_ne_zero]
  change totalGain (aircraftSkinGains (-1, 0.5, 4) (-2, 0.5, 5) (0, 0, 0) 0 1 1) -
    totalGain (aircraftSkinGains (-2, 0.5, 5) (-1, 0.5, 4) (0, 0, 0) 0 1 1) ≠ 0
  rw [totalGain_skin_sub (by rwa [hpq]) (by rw [hp]; norm_num) (by rw [hq]; norm_num) _ _ _ _ zero_le_one, pointGain,
    pointGain, hp, hq, hreach]
  norm_num [doorFactor, doorAttenuation, mainDoorPos]

/-! ## Walking away -/

/-- the place r metres from the listener in direction n -/
def along (listenerPos n : Vec3 ℝ) (r : ℝ) : Vec3 ℝ :=
  (listenerPos.1 + r * n.1, listenerPos.2.1 + r * n.2.1, listenerPos.2.2 + r * n.2.2)

theorem distance_along (listenerPos : Vec3 ℝ) {n : Vec3 ℝ} (hn : n.1 ^ 2 + n.2.1 ^ 2 + n.2.2 ^ 2 = 1) {r : ℝ}
    (hr : 0 ≤ r) : distance listenerPos (along listenerPos n r) = r := by
  apply distance_of_sq hr
  simp only [along]
  linear_combination r ^ 2 * hn

/-- the side a source is on does not change on the way -/
theorem dotRight_along (listenerPos rot : Vec3 ℝ) {n : Vec3 ℝ} (hn : n.1 ^ 2 + n.2.1 ^ 2 + n.2.2 ^ 2 = 1) {r : ℝ}
    (hr : 0 < r) : dotRight (along listenerPos n r) listenerPos rot = ![n.1, n.2.1, n.2.2] ⬝ᵥ headRight rot := by
  unfold dotRight
  rw [distance_along listenerPos hn hr.le, div_eq_iff hr.ne']
  simp only [direction, along, Matrix.vec3_dotProduct, Matrix.cons_val]
  ring

theorem falloff_near {d : ℝ} (h : d ≤ 1.5) : falloff d = 1 := if_pos h

/-- between 1.5 m and 8 m -/
theorem falloff_between {d : ℝ} (h1 : 1.5 < d) (h2 : d < 8) : falloff d = ((8 - d) / 6.5) ^ 2 := by
  have ht : 1 - (d - 1.5) / (8 - 1.5) = (8 - d) / 6.5 := by
    field_simp
    ring
  unfold falloff
  rw [if_neg (not_le.2 h1), if_neg (not_le.2 h2)]
  dsimp only
  rw [ht, pow_two]

theorem falloff_antitone : Antitone falloff := by
  intro a b hab
  by_cases ha : a ≤ 1.5
  · rw [falloff_near ha]
    exact (falloff_mem b).2
  by_cases hb : 8 ≤ b
  · rw [falloff_eq_zero hb]
    exact (falloff_mem a).1
  rw [not_le] at ha hb
  rw [falloff_between ha (hab.trans_lt hb), falloff_between (ha.trans_le hab) hb]
  have hbase : 0 ≤ (8 - b) / 6.5 := div_nonneg (by linarith) (by norm_num)
  have hle : (8 - b) / 6.5 ≤ (8 - a) / 6.5 := div_le_div_of_nonneg_right (by linarith) (by norm_num)
  exact pow_le_pow_left₀ hbase hle 2

/-- a ray that has crossed a door's plane does not come back -/
theorem crossed_along {a slope r r' : ℝ} (hr : 0 ≤ r) (hrr : r ≤ r') (h : a * (a + r * slope) < 0) :
    a * (a + r' * slope) < 0 := by
  have hslope : a * slope < 0 := by
    by_contra hnot
    have hup : 0 ≤ r * (a * slope) := mul_nonneg hr (not_lt.1 hnot)
    linarith [mul_self_nonneg a]
  have hdown : r' * (a * slope) ≤ r * (a * slope) := mul_le_mul_of_nonpos_right hrr hslope.le
  linarith

theorem doorAttenuation_along (z nz doorZ : ℝ) {opening openThreshold : ℝ} (ho : 0 ≤ opening) (ht : 0 < openThreshold)
    {r r' : ℝ} (hr : 0 ≤ r) (hrr : r ≤ r') :
    doorAttenuation z (z + r' * nz) doorZ opening openThreshold ≤
      doorAttenuation z (z + r * nz) doorZ opening openThreshold := by
  by_cases hnear : (z - doorZ) * (z + r * nz - doorZ) ≥ 0
  · have hone : doorAttenuation z (z + r * nz) doorZ opening openThreshold = 1 := if_pos hnear
    rw [hone]
    exact (doorAttenuation_mem _ _ _ ho ht).2
  · have hfar : (z - doorZ) * (z - doorZ + r' * nz) < 0 := by
      apply crossed_along hr hrr
      rw [not_le, ← sub_add_eq_add_sub] at hnear
      exact hnear
    rw [sub_add_eq_add_sub] at hfar
    unfold doorAttenuation
    rw [if_neg (not_le.2 hfar), if_neg hnear]

theorem level_along (listenerPos : Vec3 ℝ) {n : Vec3 ℝ} (hn : n.1 ^ 2 + n.2.1 ^ 2 + n.2.2 ^ 2 = 1) {door doorLav : ℝ}
    (hdoor : 0 ≤ door) (hlav : 0 ≤ doorLav) {r r' : ℝ} (hr : 0 ≤ r) (hrr : r ≤ r') :
    level (along listenerPos n r') listenerPos door doorLav ≤ level (along listenerPos n r) listenerPos door doorLav := by
  have hcabin := doorAttenuation_along listenerPos.2.2 n.2.2 4.1 hdoor (by norm_num : (0 : ℝ) < 0.95) hr hrr
  have hlavatory := doorAttenuation_along listenerPos.2.2 n.2.2 (-0.43) hlav one_pos hr hrr
  have hdoors : doorFactor (along listenerPos n r') listenerPos door doorLav ≤
      doorFactor (along listenerPos n r) listenerPos door doorLav :=
    mul_le_mul hcabin hlavatory (doorAttenuation_pos _ _ _ hlav one_pos).le
      (doorAttenuation_pos _ _ _ hdoor (by norm_num)).le
  unfold level
  rw [distance_along listenerPos hn hr, distance_along listenerPos hn (hr.trans hrr)]
  exact mul_le_mul (falloff_antitone hrr) hdoors (doorFactor_pos _ _ hdoor hlav).le (falloff_mem r).1

/-- Distance. A talker who moves straight away from the listener becomes louder in neither ear. -/
theorem fades_with_distance (listenerPos listenerRot : Vec3 ℝ) {n : Vec3 ℝ}
    (hn : n.1 ^ 2 + n.2.1 ^ 2 + n.2.2 ^ 2 = 1) {door doorLav : ℝ} (hdoor : door ∈ Set.Icc (0 : ℝ) 1)
    (hlav : doorLav ∈ Set.Icc (0 : ℝ) 1) {r r' : ℝ} (hr : 0 ≤ r) (hrr : r ≤ r') :
    computeStereoGains (along listenerPos n r') listenerPos listenerRot door doorLav ≤
      computeStereoGains (along listenerPos n r) listenerPos listenerRot door doorLav := by
  have hdist := distance_along listenerPos hn hr
  have hdist' := distance_along listenerPos hn (hr.trans hrr)
  by_cases hnear : r < 0.01
  · -- beside the listener both ears hear everything
    have hall : computeStereoGains (along listenerPos n r) listenerPos listenerRot door doorLav = (1, 1) :=
      computeStereoGains_of_near (by rwa [hdist]) _ _ _
    rw [hall]
    obtain ⟨hl, hrt⟩ := computeStereoGains_mem (along listenerPos n r') listenerPos listenerRot hdoor.1 hlav.1
    exact ⟨hl.2, hrt.2⟩
  · have hfar : 0.01 ≤ r := not_lt.1 hnear
    have hfar' : 0.01 ≤ r' := hfar.trans hrr
    have hlevel := level_along listenerPos hn hdoor.1 hlav.1 hr hrr
    have hdot : |dotRight (along listenerPos n r) listenerPos listenerRot| ≤ 1 :=
      dotRight_mem _ _ (by rw [hdist]; linarith)
    have hside : dotRight (along listenerPos n r') listenerPos listenerRot =
        dotRight (along listenerPos n r) listenerPos listenerRot := by
      rw [dotRight_along _ _ hn (by linarith), dotRight_along _ _ hn (by linarith)]
    rw [computeStereoGains_of_far (by rwa [hdist']), computeStereoGains_of_far (by rwa [hdist]), hside]
    refine ⟨?_, ?_⟩
    · exact mul_le_mul_of_nonneg_left hlevel (calcGain_mem (by rwa [abs_neg])).1
    · exact mul_le_mul_of_nonneg_left hlevel (calcGain_mem hdot).1

/-- straight ahead from the seat, through the lavatory door -/
theorem fades_with_distance_ahead :
    computeStereoGains (along (0, 0, 0) (0, 0, -1) 2) (0, 0, 0) (0, 0, 0) 1 0 ≤
      computeStereoGains (along (0, 0, 0) (0, 0, -1) 0) (0, 0, 0) (0, 0, 0) 1 0 :=
  fades_with_distance (0, 0, 0) (0, 0, 0) (by norm_num) ⟨zero_le_one, le_rfl⟩ ⟨le_rfl, zero_le_one⟩ le_rfl zero_le_two

/-! ## Stepping out of the main door -/

theorem isInsideAircraft_mainDoor : isInsideAircraft mainDoorPos := by norm_num [isInsideAircraft, mainDoorPos]

theorem attInside_door_pos {door : ℝ} (hdoor : 0 ≤ door) : 0 < attInside door mainDoorPos.2.2 := by
  have hbehind : mainDoorPos.2.2 > cabinDoorZ := by norm_num [mainDoorPos, cabinDoorZ]
  have hreach : ¬mainDoorPos.2.2 - cabinDoorZ ≥ paDistMax := by norm_num [mainDoorPos, cabinDoorZ, paDistMax]
  have hfactor := doorAttenuation_pos mainDoorPos.2.2 0 cabinDoorZ hdoor (by norm_num : (0 : ℝ) < 0.95)
  have ht : (0 : ℝ) < 1 - (mainDoorPos.2.2 - cabinDoorZ) / paDistMax := by norm_num [mainDoorPos, cabinDoorZ, paDistMax]
  unfold attInside
  rw [if_pos hbehind]
  dsimp only
  rw [if_neg hreach]
  exact mul_pos (mul_pos hfactor ht) ht

/-- outside, the hull's share and the door's of the level in the doorway -/
theorem paGain_outside {p : Vec3 ℝ} (hp : ¬isInsideAircraft p) (door doorMain : ℝ) :
    paGain p door doorMain =
      (0.15 + doorMain * pointGain mainDoorPos p) * paGain mainDoorPos door doorMain := by
  unfold paGain
  dsimp only
  rw [if_neg hp, if_pos isInsideAircraft_mainDoor, skinBase]
  ring

theorem paGain_doorway_pos {door : ℝ} (hdoor : 0 ≤ door) (doorMain : ℝ) : 0 < paGain mainDoorPos door doorMain := by
  unfold paGain
  dsimp only
  rw [if_pos isInsideAircraft_mainDoor]
  exact mul_pos (by norm_num) (attInside_door_pos hdoor)

/-- how far from the door its share is down to 0.85 -/
theorem door_share_le_iff {doorMain : ℝ} (hmain : doorMain ∈ Set.Icc (0 : ℝ) 1) (d : ℝ) :
    doorMain * falloff d ≤ 0.85 ↔ doorMain ≤ 0.85 ∨ 8 - 6.5 * √(0.85 / doorMain) ≤ d := by
  by_cases hajar : doorMain ≤ 0.85
  · refine iff_of_true ?_ (Or.inl hajar)
    have hle : doorMain * falloff d ≤ doorMain * 1 := mul_le_mul_of_nonneg_left (falloff_mem d).2 hmain.1
    linarith
  rw [or_iff_right hajar]
  rw [not_le] at hajar
  have hpos : 0 < doorMain := lt_trans (by norm_num) hajar
  have hratio : 0.85 / doorMain < 1 := (div_lt_one hpos).2 hajar
  have hroot : √(0.85 / doorMain) < 1 := by
    rw [Real.sqrt_lt' one_pos, one_pow]
    exact hratio
  by_cases hnear : d ≤ 1.5
  · rw [falloff_near hnear, mul_one]
    refine iff_of_false (not_le.2 hajar) ?_
    linarith
  by_cases hfar : 8 ≤ d
  · rw [falloff_eq_zero hfar, mul_zero]
    refine iff_of_true (by norm_num) ?_
    linarith [Real.sqrt_nonneg (0.85 / doorMain)]
  rw [not_le] at hnear hfar
  have hcurve : 0 ≤ (8 - d) / 6.5 := div_nonneg (by linarith) (by norm_num)
  calc doorMain * falloff d ≤ 0.85
      ↔ ((8 - d) / 6.5) ^ 2 ≤ 0.85 / doorMain := by rw [falloff_between hnear hfar, le_div_iff₀ hpos, mul_comm]
    _ ↔ (8 - d) / 6.5 ≤ √(0.85 / doorMain) := (Real.le_sqrt hcurve (div_nonneg (by norm_num) hpos.le)).symm
    _ ↔ 8 - 6.5 * √(0.85 / doorMain) ≤ d := by
      rw [div_le_iff₀ (by norm_num : (0 : ℝ) < 6.5), sub_le_iff_le_add, sub_le_iff_le_add, mul_comm, add_comm]

/-- The doorway. Outside, the public address is no louder than in the main door and, with the door open, unchanged
within 1.5 m of it, exactly if the door is at most 0.85 open or the listener so far off that its share is. -/
theorem pa_outside_iff {p : Vec3 ℝ} (hp : ¬isInsideAircraft p) {door doorMain : ℝ} (hdoor : door ∈ Set.Icc (0 : ℝ) 1)
    (hmain : doorMain ∈ Set.Icc (0 : ℝ) 1) :
    (paGain p door doorMain ≤ paGain mainDoorPos door doorMain ∧
      (doorMain = 1 → distance mainDoorPos p ≤ 1.5 → paGain p door doorMain = paGain mainDoorPos door doorMain)) ↔
      doorMain ≤ 0.85 ∨ 8 - 6.5 * √(0.85 / doorMain) ≤ distance mainDoorPos p := by
  have hlevel : paGain p door doorMain ≤ paGain mainDoorPos door doorMain ↔
      doorMain * falloff (distance mainDoorPos p) ≤ 0.85 := by
    rw [paGain_outside hp, mul_le_iff_le_one_left (paGain_doorway_pos hdoor.1 doorMain), pointGain]
    refine ⟨fun h => ?_, fun h => ?_⟩ <;> linarith
  rw [hlevel, door_share_le_iff hmain, and_iff_left_iff_imp, ← door_share_le_iff hmain]
  -- within 1.5 m of an open door its share is the whole level
  intro hshare hopen hnear
  rw [hopen, falloff_near hnear] at hshare
  norm_num at hshare

/-- on the ground five metres out of the open door -/
theorem pa_outside_iff_apron :
    paGain (-6, 0.5, 5) 1 1 ≤ paGain mainDoorPos 1 1 ∧
      ((1 : ℝ) = 1 → distance mainDoorPos (-6, 0.5, 5) ≤ 1.5 → paGain (-6, 0.5, 5) 1 1 = paGain mainDoorPos 1 1) := by
  have hfar : distance mainDoorPos (-6, 0.5, 5) = 5 := distance_of_sq (by norm_num) (by norm_num [mainDoorPos])
  have hroot : 0.6 ≤ √(0.85 / (1 : ℝ)) := by
    rw [Real.le_sqrt (by norm_num) (by norm_num)]
    norm_num
  refine (pa_outside_iff (by norm_num [isInsideAircraft]) ⟨zero_le_one, le_rfl⟩ ⟨zero_le_one, le_rfl⟩).2 (Or.inr ?_)
  rw [hfar]
  linarith

/-- one metre out of the open main door the public address is 1.15 times as loud as in it -/
theorem louder_outside_the_door :
    ¬isInsideAircraft (-2, 0.5, 5) ∧ distance mainDoorPos (-2, 0.5, 5) ≤ 1.5 ∧
    paGain mainDoorPos 1 1 < paGain (-2, 0.5, 5) 1 1 := by
  have hout : ¬isInsideAircraft (-2, 0.5, 5) := by norm_num [isInsideAircraft]
  have hnear : distance mainDoorPos (-2, 0.5, 5) = 1 := distance_of_sq zero_le_one (by norm_num [mainDoorPos])
  have hle : distance mainDoorPos (-2, 0.5, 5) ≤ 1.5 := by
    rw [hnear]
    norm_num
  refine ⟨hout, hle, ?_⟩
  rw [paGain_outside hout, pointGain, falloff_near hle]
  linarith [paGain_doorway_pos zero_le_one 1]

end

end MumbledFlight

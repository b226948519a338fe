/-
The head's axes, and how loud a source is on each side of it (`compute_stereo_gains` in `spatial.rs`), over exact reals.

The pan law reads one number, the dot product of the source's direction with the vector `right`, the cross product of
`top` and `fwd`. The two channels share a common level, the distance falloff times the factors of the doors in between.

Results, for every position and orientation:
- `head_frame_iff`: `fwd`, `top` and `right` form an orthonormal frame exactly when sin pitch * cos pitch * cos roll is
  zero. Without roll `right` shrinks with cos (2 * pitch), so the sides are swapped beyond 45 degrees of pitch.
- `stereo_loudness`: each channel has between a quarter and all of the level, and together 1.25 times the level.
- `louder_with_doors`: opening a door makes nothing quieter.
-/
import Mathlib.Analysis.SpecialFunctions.Trigonometric.Basic
import MumbledFlight.Voip.Spatial

namespace MumbledFlight

noncomputable section

/-! ## The two channels -/

/-- from the listener to the source -/
def direction (listenerPos sourcePos : Vec3 ℝ) : Fin 3 → ℝ :=
  ![sourcePos.1 - listenerPos.1, sourcePos.2.1 - listenerPos.2.1, sourcePos.2.2 - listenerPos.2.2]

/-- the number the pan law reads -/
def dotRight (sourcePos listenerPos listenerRot : Vec3 ℝ) : ℝ :=
  direction listenerPos sourcePos ⬝ᵥ headRight listenerRot / distance listenerPos sourcePos

/-- what the cabin door and the lavatory door leave of a source -/
def doorFactor (sourcePos listenerPos : Vec3 ℝ) (door doorLav : ℝ) : ℝ :=
  doorAttenuation listenerPos.2.2 sourcePos.2.2 4.1 door 0.95 *
    doorAttenuation listenerPos.2.2 sourcePos.2.2 (-0.43) doorLav 1

/-- the level both channels share -/
def level (sourcePos listenerPos : Vec3 ℝ) (door doorLav : ℝ) : ℝ :=
  falloff (distance listenerPos sourcePos) * doorFactor sourcePos listenerPos door doorLav

theorem computeStereoGains_of_near {sourcePos listenerPos : Vec3 ℝ} (h : distance listenerPos sourcePos < 0.01)
    (listenerRot : Vec3 ℝ) (door doorLav : ℝ) :
    computeStereoGains sourcePos listenerPos listenerRot door doorLav = (1, 1) := by
  unfold computeStereoGains
  dsimp only
  rw [if_pos h]

theorem computeStereoGains_of_far {sourcePos listenerPos : Vec3 ℝ} (h : 0.01 ≤ distance listenerPos sourcePos)
    (listenerRot : Vec3 ℝ) (door doorLav : ℝ) :
    computeStereoGains sourcePos listenerPos listenerRot door doorLav =
      (calcGain (-dotRight sourcePos listenerPos listenerRot) * level sourcePos listenerPos door doorLav,
        calcGain (dotRight sourcePos listenerPos listenerRot) * level sourcePos listenerPos door doorLav) := by
  have hdot : (sourcePos.1 - listenerPos.1) / distance listenerPos sourcePos * headRight listenerRot 0 +
      (sourcePos.2.1 - listenerPos.2.1) / distance listenerPos sourcePos * headRight listenerRot 1 +
      (sourcePos.2.2 - listenerPos.2.2) / distance listenerPos sourcePos * headRight listenerRot 2 =
      dotRight sourcePos listenerPos listenerRot := by
    simp only [dotRight, direction, Matrix.vec3_dotProduct, Matrix.cons_val]
    ring
  unfold computeStereoGains
  dsimp only
  rw [if_neg (not_lt.2 h), hdot, mul_assoc, mul_assoc]
  rfl

theorem calcGain_add (dot : ℝ) : calcGain (-dot) + calcGain dot = 1.25 := by
  unfold calcGain
  ring

theorem calcGain_sub (dot : ℝ) : calcGain dot - calcGain (-dot) = 0.75 * dot := by
  unfold calcGain
  ring

/-- the right channel's lead is the level, panned -/
theorem stereo_lead {sourcePos listenerPos : Vec3 ℝ} (h : 0.01 ≤ distance listenerPos sourcePos)
    (listenerRot : Vec3 ℝ) (door doorLav : ℝ) :
    (computeStereoGains sourcePos listenerPos listenerRot door doorLav).2 -
      (computeStereoGains sourcePos listenerPos listenerRot door doorLav).1 =
      0.75 * (dotRight sourcePos listenerPos listenerRot * level sourcePos listenerPos door doorLav) := by
  rw [computeStereoGains_of_far h]
  calc calcGain (dotRight sourcePos listenerPos listenerRot) * level sourcePos listenerPos door doorLav -
        calcGain (-dotRight sourcePos listenerPos listenerRot) * level sourcePos listenerPos door doorLav
      = (calcGain (dotRight sourcePos listenerPos listenerRot) -
          calcGain (-dotRight sourcePos listenerPos listenerRot)) * level sourcePos listenerPos door doorLav := by ring
    _ = 0.75 * (dotRight sourcePos listenerPos listenerRot * level sourcePos listenerPos door doorLav) := by
      rw [calcGain_sub, mul_assoc]

/-! ## The head's axes -/

theorem distance_eq_sqrt (listenerPos sourcePos : Vec3 ℝ) : distance listenerPos sourcePos =
    √(direction listenerPos sourcePos ⬝ᵥ direction listenerPos sourcePos) := by
  unfold distance
  congr 1
  simp only [direction, Matrix.vec3_dotProduct, Matrix.cons_val]
  ring

/-- the two signs of `top` that leave a term which should cancel -/
theorem top_dot_forward (rot : Vec3 ℝ) : headTop rot ⬝ᵥ headForward rot =
    2 * ((toRadians rot.2.1).sin * (toRadians rot.2.1).cos * (toRadians rot.2.2).cos) := by
  have hh := Real.sin_sq_add_cos_sq (toRadians rot.1)
  simp only [headTop, headForward, Matrix.vec3_dotProduct, Matrix.cons_val]
  linear_combination (toRadians rot.2.1).sin * (toRadians rot.2.1).cos * (toRadians rot.2.2).cos * hh

theorem headRight_length (rot : Vec3 ℝ) :
    headRight rot ⬝ᵥ headRight rot = 1 - (headTop rot ⬝ᵥ headForward rot) ^ 2 := by
  rw [headRight_eq_cross, cross_dot_cross, headTop_unit, headForward_unit, dotProduct_comm (headForward rot)]
  ring

/-- the cosine of the angle between two vectors -/
def cosine (u v : Fin 3 → ℝ) : ℝ := u ⬝ᵥ v / (√(u ⬝ᵥ u) * √(v ⬝ᵥ v))

/-- the axes form an orthonormal frame, so the pan law reads the cosine of the source's angle to the right axis -/
structure HeadFrame (rot : Vec3 ℝ) : Prop where
  forward_unit : headForward rot ⬝ᵥ headForward rot = 1
  top_unit : headTop rot ⬝ᵥ headTop rot = 1
  perpendicular : headTop rot ⬝ᵥ headForward rot = 0
  right_cross : headRight rot = crossProduct (headTop rot) (headForward rot)
  right_unit : headRight rot ⬝ᵥ headRight rot = 1
  dot_cosine : ∀ sourcePos listenerPos, distance listenerPos sourcePos ≠ 0 →
    dotRight sourcePos listenerPos rot = cosine (direction listenerPos sourcePos) (headRight rot)

theorem headFrame_of_perpendicular {rot : Vec3 ℝ} (h : headTop rot ⬝ᵥ headForward rot = 0) : HeadFrame rot where
  forward_unit := headForward_unit rot
  top_unit := headTop_unit rot
  perpendicular := h
  right_cross := headRight_eq_cross rot
  right_unit := by rw [headRight_length, h]; norm_num
  dot_cosine := by
    intro sourcePos listenerPos _
    unfold dotRight cosine
    rw [headRight_length, h, distance_eq_sqrt]
    norm_num

/-- straight to the right of a listener who looks along the heading, in the horizontal plane -/
def rightOf (listenerPos : Vec3 ℝ) (heading d : ℝ) : Vec3 ℝ :=
  (listenerPos.1 + d * (toRadians heading).cos, listenerPos.2.1, listenerPos.2.2 - d * (toRadians heading).sin)

theorem direction_rightOf (listenerPos : Vec3 ℝ) (heading d : ℝ) :
    direction listenerPos (rightOf listenerPos heading d) =
      ![d * (toRadians heading).cos, 0, -(d * (toRadians heading).sin)] := by
  simp only [direction, rightOf]
  congr 1
  · ring
  · congr 1
    · ring
    · congr 1
      ring

theorem distance_rightOf (listenerPos : Vec3 ℝ) (heading : ℝ) {d : ℝ} (hd : 0 < d) :
    distance listenerPos (rightOf listenerPos heading d) = d := by
  have hh := Real.sin_sq_add_cos_sq (toRadians heading)
  have hsq : direction listenerPos (rightOf listenerPos heading d) ⬝ᵥ
      direction listenerPos (rightOf listenerPos heading d) = d ^ 2 := by
    rw [direction_rightOf]
    simp only [Matrix.vec3_dotProduct, Matrix.cons_val]
    linear_combination d ^ 2 * hh
  rw [distance_eq_sqrt, hsq, Real.sqrt_sq hd.le]

/-- without roll the right axis is the horizontal one, times the cosine of twice the pitch -/
theorem dotRight_rightOf (listenerPos : Vec3 ℝ) (heading pitch : ℝ) {d : ℝ} (hd : 0 < d) :
    dotRight (rightOf listenerPos heading d) listenerPos (heading, pitch, 0) = (2 * toRadians pitch).cos := by
  have hh := Real.sin_sq_add_cos_sq (toRadians heading)
  have hzero : toRadians 0 = 0 := by simp [toRadians]
  unfold dotRight
  rw [distance_rightOf listenerPos heading hd, direction_rightOf, div_eq_iff hd.ne', Real.cos_two_mul']
  simp only [headRight, headTop, headForward, Matrix.vec3_dotProduct, Matrix.cons_val, hzero, Real.sin_zero,
    Real.cos_zero]
  linear_combination d * ((toRadians pitch).cos ^ 2 - (toRadians pitch).sin ^ 2) * hh

theorem cos_two_pitch_abs (pitch : ℝ) : (2 * toRadians |pitch|).cos = (2 * toRadians pitch).cos := by
  rcases abs_choice pitch with he | he
  · rw [he]
  · have hneg : 2 * toRadians (-pitch) = -(2 * toRadians pitch) := by
      unfold toRadians
      ring
    rw [he, hneg, Real.cos_neg]

/-- the sign of the right axis changes at 45 degrees of pitch -/
theorem cos_two_pitch_sign {pitch : ℝ} (h90 : |pitch| < 90) :
    (0 < (2 * toRadians pitch).cos ↔ |pitch| < 45) ∧ ((2 * toRadians pitch).cos < 0 ↔ 45 < |pitch|) := by
  have hpi := Real.pi_pos
  have hnonneg := abs_nonneg pitch
  rw [← cos_two_pitch_abs]
  rcases lt_trichotomy |pitch| 45 with h | h | h
  · have hpos : 0 < (2 * toRadians |pitch|).cos := by
      unfold toRadians
      apply Real.cos_pos_of_mem_Ioo
      refine ⟨?_, ?_⟩ <;> nlinarith
    exact ⟨iff_of_true hpos h, iff_of_false hpos.not_gt h.not_gt⟩
  · have hzero : (2 * toRadians |pitch|).cos = 0 := by
      have hangle : 2 * toRadians |pitch| = Real.pi / 2 := by
        rw [h]
        unfold toRadians
        ring
      rw [hangle, Real.cos_pi_div_two]
    rw [hzero, h]
    exact ⟨iff_of_false (lt_irrefl _) (lt_irrefl _), iff_of_false (lt_irrefl _) (lt_irrefl _)⟩
  · have hneg : (2 * toRadians |pitch|).cos < 0 := by
      unfold toRadians
      apply Real.cos_neg_of_pi_div_two_lt_of_lt
      · nlinarith
      · nlinarith
    exact ⟨iff_of_false hneg.not_gt h.not_gt, iff_of_true hneg h⟩

theorem falloff_pos {dist : ℝ} (h : dist < 8) : 0 < falloff dist := by
  unfold falloff
  split_ifs with h1 h2
  · exact one_pos
  · exact absurd h (not_lt.2 h2)
  · have ht : 0 < 1 - (dist - 1.5) / (8 - 1.5) := by
      have hlt : (dist - 1.5) / (8 - 1.5) < 1 := by
        rw [div_lt_one (by norm_num)]
        linarith
      linarith
    exact mul_pos ht ht

theorem falloff_eq_zero {dist : ℝ} (h : 8 ≤ dist) : falloff dist = 0 := by
  unfold falloff
  rw [if_neg (by linarith), if_pos h]

/-- a source to the right, on a listener's head without roll: the channel it is louder on -/
theorem louder_right_iff (listenerPos : Vec3 ℝ) (heading : ℝ) {pitch d : ℝ} (door doorLav : ℝ) (h90 : |pitch| < 90)
    (hd : 0 < d) (hd' : d < 8) :
    let gains := computeStereoGains (rightOf listenerPos heading d) listenerPos (heading, pitch, 0) door doorLav
    let doors := doorFactor (rightOf listenerPos heading d) listenerPos door doorLav
    gains.1 < gains.2 ↔ 0.01 ≤ d ∧ (|pitch| < 45 ∧ 0 < doors ∨ 45 < |pitch| ∧ doors < 0) := by
  intro gains doors
  have hdist := distance_rightOf listenerPos heading hd
  by_cases hfar : 0.01 ≤ d
  · have hlead := stereo_lead (hdist.symm ▸ hfar) (heading, pitch, 0) door doorLav
    rw [dotRight_rightOf listenerPos heading pitch hd] at hlead
    have hlevel : level (rightOf listenerPos heading d) listenerPos door doorLav = falloff d * doors := by
      rw [level, hdist]
    have hfall := falloff_pos hd'
    obtain ⟨hpos, hneg⟩ := cos_two_pitch_sign h90
    rw [hlevel] at hlead
    calc gains.1 < gains.2 ↔ 0 < gains.2 - gains.1 := sub_pos.symm
      _ ↔ 0 < falloff d * ((2 * toRadians pitch).cos * doors) := by
        rw [hlead, mul_left_comm (falloff d)]
        exact mul_pos_iff_of_pos_left (by norm_num : (0 : ℝ) < 0.75)
      _ ↔ 0 < (2 * toRadians pitch).cos * doors := mul_pos_iff_of_pos_left hfall
      _ ↔ |pitch| < 45 ∧ 0 < doors ∨ 45 < |pitch| ∧ doors < 0 := by rw [mul_pos_iff, hpos, hneg]
      _ ↔ 0.01 ≤ d ∧ (|pitch| < 45 ∧ 0 < doors ∨ 45 < |pitch| ∧ doors < 0) := (and_iff_right hfar).symm
  · have hnear : gains = (1, 1) := computeStereoGains_of_near (by rw [hdist]; exact not_le.1 hfar) _ _ _
    rw [hnear]
    exact iff_of_false (lt_irrefl _) fun h => hfar h.1

/-- The head's axes. They form an orthonormal frame exactly when the sine of the pitch, the cosine of the pitch or the
cosine of the roll is zero. Without roll, a source straight to the right within 8 m is louder on the right exactly when
it is at least 1 cm away and the pitch is less than 45 degrees, the doors in between having a positive factor (with a
negative one, which no opening gives, exactly when it is more). -/
theorem head_frame_iff (heading pitch roll : ℝ) :
    (HeadFrame (heading, pitch, roll) ↔
      (toRadians pitch).sin * (toRadians pitch).cos * (toRadians roll).cos = 0) ∧
    ∀ (listenerPos : Vec3 ℝ) (d door doorLav : ℝ), |pitch| < 90 → 0 < d → d < 8 →
      let gains := computeStereoGains (rightOf listenerPos heading d) listenerPos (heading, pitch, 0) door doorLav
      let doors := doorFactor (rightOf listenerPos heading d) listenerPos door doorLav
      gains.1 < gains.2 ↔ 0.01 ≤ d ∧ (|pitch| < 45 ∧ 0 < doors ∨ 45 < |pitch| ∧ doors < 0) := by
  refine ⟨⟨?_, ?_⟩, ?_⟩
  · intro h
    have hdot := h.perpendicular
    rw [top_dot_forward] at hdot
    exact (mul_eq_zero.1 hdot).resolve_left two_ne_zero
  · intro h
    apply headFrame_of_perpendicular
    rw [top_dot_forward, h, mul_zero]
  · exact fun listenerPos d door doorLav h90 hd hd' => louder_right_iff listenerPos heading door doorLav h90 hd hd'

theorem doorAttenuation_pos (listenerZ sourceZ doorZ : ℝ) {opening openThreshold : ℝ} (ho : 0 ≤ opening)
    (ht : 0 < openThreshold) : 0 < doorAttenuation listenerZ sourceZ doorZ opening openThreshold := by
  unfold doorAttenuation
  split_ifs
  · exact one_pos
  · have hmin : 0 ≤ min (opening / openThreshold) 1 := le_min (div_nonneg ho ht.le) zero_le_one
    linarith

/-- a door that opens by no less than nothing always lets something through -/
theorem doorFactor_pos (sourcePos listenerPos : Vec3 ℝ) {door doorLav : ℝ} (hdoor : 0 ≤ door) (hlav : 0 ≤ doorLav) :
    0 < doorFactor sourcePos listenerPos door doorLav :=
  mul_pos (doorAttenuation_pos _ _ _ hdoor (by norm_num)) (doorAttenuation_pos _ _ _ hlav one_pos)

/-- looking up by 60 degrees, with every door open, a source 1 m to the right is louder on the left -/
theorem sides_swapped_looking_up :
    ¬HeadFrame (0, 60, 0) ∧
    (computeStereoGains (rightOf (0, 0, 0) 0 1) (0, 0, 0) (0, 60, 0) 1 1).2 <
      (computeStereoGains (rightOf (0, 0, 0) 0 1) (0, 0, 0) (0, 60, 0) 1 1).1 := by
  have hangle : 2 * toRadians 60 = Real.pi - Real.pi / 3 := by
    unfold toRadians
    ring
  have hcos : (2 * toRadians 60).cos = -(1 / 2) := by
    rw [hangle, Real.cos_pi_sub, Real.cos_pi_div_three]
  refine ⟨?_, ?_⟩
  · intro h
    have hdot := h.perpendicular
    rw [top_dot_forward] at hdot
    -- the sine of twice the pitch would be zero, and its cosine is not 1
    have hsq := Real.sin_sq_add_cos_sq (2 * toRadians 60)
    have hsin : (2 * toRadians 60).sin = 0 := by
      have hroll : (toRadians 0).cos = 1 := by simp [toRadians]
      rw [hroll, mul_one, ← mul_assoc] at hdot
      rw [Real.sin_two_mul]
      exact hdot
    rw [hcos, hsin] at hsq
    norm_num at hsq
  · have hdist := distance_rightOf (0, 0, 0) 0 one_pos
    have hlead := stereo_lead (by rw [hdist]; norm_num) (0, 60, 0) 1 1
    rw [dotRight_rightOf (0, 0, 0) 0 60 one_pos, hcos] at hlead
    have hlevel : 0 < level (rightOf (0, 0, 0) 0 1) (0, 0, 0) 1 1 := by
      unfold level
      rw [hdist]
      exact mul_pos (falloff_pos (by norm_num)) (doorFactor_pos _ _ zero_le_one zero_le_one)
    linarith

/-! ## The level -/

theorem calcGain_mem_quarter {dot : ℝ} (h : |dot| ≤ 1) : calcGain dot ∈ Set.Icc (0.25 : ℝ) 1 := by
  obtain ⟨h1, h2⟩ := abs_le.1 h
  unfold calcGain
  refine ⟨?_, ?_⟩ <;> dsimp only <;> linarith

theorem dotRight_mem (sourcePos listenerRot : Vec3 ℝ) {listenerPos : Vec3 ℝ}
    (h : 0 < distance listenerPos sourcePos) : |dotRight sourcePos listenerPos listenerRot| ≤ 1 := by
  have hdot : dotRight sourcePos listenerPos listenerRot =
      (sourcePos.1 - listenerPos.1) / distance listenerPos sourcePos * headRight listenerRot 0 +
      (sourcePos.2.1 - listenerPos.2.1) / distance listenerPos sourcePos * headRight listenerRot 1 +
      (sourcePos.2.2 - listenerPos.2.2) / distance listenerPos sourcePos * headRight listenerRot 2 := by
    simp only [dotRight, direction, Matrix.vec3_dotProduct, Matrix.cons_val]
    ring
  rw [hdot]
  exact dotRight_abs_le listenerPos sourcePos listenerRot h

theorem doorFactor_mem (sourcePos listenerPos : Vec3 ℝ) {door doorLav : ℝ} (hdoor : 0 ≤ door) (hlav : 0 ≤ doorLav) :
    doorFactor sourcePos listenerPos door doorLav ∈ Set.Icc (0 : ℝ) 1 :=
  mul_mem_unit (doorAttenuation_mem _ _ _ hdoor (by norm_num)) (doorAttenuation_mem _ _ _ hlav one_pos)

theorem level_mem (sourcePos listenerPos : Vec3 ℝ) {door doorLav : ℝ} (hdoor : 0 ≤ door) (hlav : 0 ≤ doorLav) :
    level sourcePos listenerPos door doorLav ∈ Set.Icc (0 : ℝ) 1 :=
  mul_mem_unit (falloff_mem _) (doorFactor_mem _ _ hdoor hlav)

/-- the level is silent from 8 m on, and only there -/
theorem level_eq_zero_iff (sourcePos listenerPos : Vec3 ℝ) {door doorLav : ℝ} (hdoor : 0 ≤ door) (hlav : 0 ≤ doorLav) :
    level sourcePos listenerPos door doorLav = 0 ↔ 8 ≤ distance listenerPos sourcePos := by
  have hdoors := doorFactor_pos sourcePos listenerPos hdoor hlav
  refine ⟨?_, ?_⟩
  · intro h
    by_contra hnear
    exact absurd h (mul_pos (falloff_pos (not_le.1 hnear)) hdoors).ne'
  · intro h
    rw [level, falloff_eq_zero h, zero_mul]

theorem stereo_sum {sourcePos listenerPos : Vec3 ℝ} (h : 0.01 ≤ distance listenerPos sourcePos)
    (listenerRot : Vec3 ℝ) (door doorLav : ℝ) :
    (computeStereoGains sourcePos listenerPos listenerRot door doorLav).1 +
      (computeStereoGains sourcePos listenerPos listenerRot door doorLav).2 =
      1.25 * level sourcePos listenerPos door doorLav := by
  rw [computeStereoGains_of_far h]
  calc calcGain (-dotRight sourcePos listenerPos listenerRot) * level sourcePos listenerPos door doorLav +
        calcGain (dotRight sourcePos listenerPos listenerRot) * level sourcePos listenerPos door doorLav
      = (calcGain (-dotRight sourcePos listenerPos listenerRot) +
          calcGain (dotRight sourcePos listenerPos listenerRot)) * level sourcePos listenerPos door doorLav := by ring
    _ = 1.25 * level sourcePos listenerPos door doorLav := by rw [calcGain_add]

theorem channel_mem {g a : ℝ} (hg : g ∈ Set.Icc (0.25 : ℝ) 1) (ha : 0 ≤ a) : g * a ∈ Set.Icc (0.25 * a) a := by
  refine ⟨mul_le_mul_of_nonneg_right hg.1 ha, ?_⟩
  calc g * a ≤ 1 * a := mul_le_mul_of_nonneg_right hg.2 ha
    _ = a := one_mul a

/-- each channel has between a quarter and all of the level -/
theorem stereo_mem {sourcePos listenerPos : Vec3 ℝ} (hfar : 0.01 ≤ distance listenerPos sourcePos)
    (listenerRot : Vec3 ℝ) {door doorLav : ℝ} (hdoor : 0 ≤ door) (hlav : 0 ≤ doorLav) :
    let a := level sourcePos listenerPos door doorLav
    (computeStereoGains sourcePos listenerPos listenerRot door doorLav).1 ∈ Set.Icc (0.25 * a) a ∧
      (computeStereoGains sourcePos listenerPos listenerRot door doorLav).2 ∈ Set.Icc (0.25 * a) a := by
  intro a
  have ha : 0 ≤ a := (level_mem sourcePos listenerPos hdoor hlav).1
  have hdot : |dotRight sourcePos listenerPos listenerRot| ≤ 1 := dotRight_mem _ _ (by linarith)
  rw [computeStereoGains_of_far hfar]
  refine ⟨?_, ?_⟩
  · exact channel_mem (calcGain_mem_quarter (by rwa [abs_neg])) ha
  · exact channel_mem (calcGain_mem_quarter hdot) ha

/-- Balance and level. Each channel has between a quarter and all of the level, both together 1.25 times the level
whichever way the head is turned, and both are silent exactly from 8 m on. -/
theorem stereo_loudness (sourcePos listenerPos listenerRot : Vec3 ℝ) {door doorLav : ℝ}
    (hfar : 0.01 ≤ distance listenerPos sourcePos) (hdoor : door ∈ Set.Icc (0 : ℝ) 1)
    (hlav : doorLav ∈ Set.Icc (0 : ℝ) 1) :
    let a := falloff (distance listenerPos sourcePos) *
      doorAttenuation listenerPos.2.2 sourcePos.2.2 4.1 door 0.95 *
      doorAttenuation listenerPos.2.2 sourcePos.2.2 (-0.43) doorLav 1
    let gains := computeStereoGains sourcePos listenerPos listenerRot door doorLav
    a ∈ Set.Icc (0 : ℝ) 1 ∧ gains.1 ∈ Set.Icc (0.25 * a) a ∧ gains.2 ∈ Set.Icc (0.25 * a) a ∧
      gains.1 + gains.2 = 1.25 * a ∧
      (∀ otherRot, (computeStereoGains sourcePos listenerPos otherRot door doorLav).1 +
        (computeStereoGains sourcePos listenerPos otherRot door doorLav).2 = gains.1 + gains.2) ∧
      (gains.1 = 0 ∧ gains.2 = 0 ↔ 8 ≤ distance listenerPos sourcePos) := by
  intro a gains
  have ha : a = level sourcePos listenerPos door doorLav := mul_assoc _ _ _
  have hmem : a ∈ Set.Icc (0 : ℝ) 1 := ha ▸ level_mem sourcePos listenerPos hdoor.1 hlav.1
  have hsum : ∀ rot, (computeStereoGains sourcePos listenerPos rot door doorLav).1 +
      (computeStereoGains sourcePos listenerPos rot door doorLav).2 = 1.25 * a := by
    intro rot
    rw [stereo_sum hfar, ha]
  obtain ⟨hleft, hright⟩ := stereo_mem hfar listenerRot hdoor.1 hlav.1
  rw [← ha] at hleft hright
  refine ⟨hmem, hleft, hright, hsum listenerRot, ?_, ?_⟩
  · intro otherRot
    rw [hsum otherRot]
    exact (hsum listenerRot).symm
  · rw [← level_eq_zero_iff sourcePos listenerPos hdoor.1 hlav.1, ← ha]
    refine ⟨?_, ?_⟩
    · intro h
      have hquarter := hleft.1
      rw [h.1] at hquarter
      linarith [hmem.1]
    · intro h
      rw [h, mul_zero] at hleft hright
      exact ⟨le_antisymm hleft.2 hleft.1, le_antisymm hright.2 hright.1⟩

/-- a source 1 m to the right, every door open -/
theorem stereo_loudness_near :
    (computeStereoGains (rightOf (0, 0, 0) 0 1) (0, 0, 0) (0, 0, 0) 1 1).1 +
      (computeStereoGains (rightOf (0, 0, 0) 0 1) (0, 0, 0) (0, 0, 0) 1 1).2 =
      1.25 * (falloff (distance (0, 0, 0) (rightOf (0, 0, 0) 0 1)) *
        doorAttenuation 0 (rightOf (0, 0, 0) 0 1).2.2 4.1 1 0.95 *
        doorAttenuation 0 (rightOf (0, 0, 0) 0 1).2.2 (-0.43) 1 1) := by
  have hfar : 0.01 ≤ distance (0, 0, 0) (rightOf (0, 0, 0) 0 1) := by
    rw [distance_rightOf (0, 0, 0) 0 one_pos]
    norm_num
  exact (stereo_loudness (rightOf (0, 0, 0) 0 1) (0, 0, 0) (0, 0, 0) hfar ⟨zero_le_one, le_rfl⟩
    ⟨zero_le_one, le_rfl⟩).2.2.2.1

/-! ## Opening a door -/

theorem doorAttenuation_mono (listenerZ sourceZ doorZ : ℝ) {opening opening' openThreshold : ℝ}
    (h : opening ≤ opening') (ht : 0 < openThreshold) : doorAttenuation listenerZ sourceZ doorZ opening openThreshold ≤
      doorAttenuation listenerZ sourceZ doorZ opening' openThreshold := by
  unfold doorAttenuation
  split_ifs
  · exact le_rfl
  · have hmin : min (opening / openThreshold) 1 ≤ min (opening' / openThreshold) 1 :=
      min_le_min_right 1 (div_le_div_of_nonneg_right h ht.le)
    linarith

theorem level_mono (sourcePos listenerPos : Vec3 ℝ) {door door' doorLav doorLav' : ℝ} (hdoor : 0 ≤ door)
    (hlav : 0 ≤ doorLav) (hd : door ≤ door') (hl : doorLav ≤ doorLav') :
    level sourcePos listenerPos door doorLav ≤ level sourcePos listenerPos door' doorLav' := by
  have hcabin := doorAttenuation_mono listenerPos.2.2 sourcePos.2.2 4.1 hd (by norm_num : (0 : ℝ) < 0.95)
  have hlavatory := doorAttenuation_mono listenerPos.2.2 sourcePos.2.2 (-0.43) hl one_pos
  have hlav0 := (doorAttenuation_pos listenerPos.2.2 sourcePos.2.2 (-0.43) hlav one_pos).le
  have hcabin0 := (doorAttenuation_pos listenerPos.2.2 sourcePos.2.2 4.1 (hdoor.trans hd)
    (by norm_num : (0 : ℝ) < 0.95)).le
  exact mul_le_mul_of_nonneg_left (mul_le_mul hcabin hlavatory hlav0 hcabin0) (falloff_mem _).1

theorem computeStereoGains_mono (sourcePos listenerPos listenerRot : Vec3 ℝ) {door door' doorLav doorLav' : ℝ}
    (hdoor : 0 ≤ door) (hlav : 0 ≤ doorLav) (hd : door ≤ door') (hl : doorLav ≤ doorLav') :
    computeStereoGains sourcePos listenerPos listenerRot door doorLav ≤
      computeStereoGains sourcePos listenerPos listenerRot door' doorLav' := by
  by_cases hfar : 0.01 ≤ distance listenerPos sourcePos
  · have hlevel := level_mono sourcePos listenerPos hdoor hlav hd hl
    have hdot : |dotRight sourcePos listenerPos listenerRot| ≤ 1 := dotRight_mem _ _ (by linarith)
    rw [computeStereoGains_of_far hfar, computeStereoGains_of_far hfar]
    refine ⟨?_, ?_⟩
    · exact mul_le_mul_of_nonneg_left hlevel (calcGain_mem (by rwa [abs_neg])).1
    · exact mul_le_mul_of_nonneg_left hlevel (calcGain_mem hdot).1
  · rw [computeStereoGains_of_near (not_le.1 hfar), computeStereoGains_of_near (not_le.1 hfar)]

theorem aircraftSkinGains_mono (sourcePos listenerPos listenerRot : Vec3 ℝ)
    {door door' doorLav doorLav' doorMain doorMain' : ℝ} (hdoor : 0 ≤ door) (hlav : 0 ≤ doorLav) (hmain : 0 ≤ doorMain)
    (hd : door ≤ door') (hl : doorLav ≤ doorLav') (hm : doorMain ≤ doorMain') :
    aircraftSkinGains sourcePos listenerPos listenerRot door doorLav doorMain ≤
      aircraftSkinGains sourcePos listenerPos listenerRot door' doorLav' doorMain' := by
  have hbase : (0 : ℝ) ≤ skinBase := by norm_num [skinBase]
  have hpoint := (pointGain_mem sourcePos mainDoorPos).1
  have hhull := computeStereoGains_mono sourcePos listenerPos listenerRot hdoor hlav hd hl
  have hpath := computeStereoGains_mono mainDoorPos listenerPos listenerRot hdoor hlav hd hl
  obtain ⟨hpath1, hpath2⟩ := computeStereoGains_mem mainDoorPos listenerPos listenerRot hdoor hlav
  have hstep : pointGain sourcePos mainDoorPos * doorMain ≤ pointGain sourcePos mainDoorPos * doorMain' :=
    mul_le_mul_of_nonneg_left hm hpoint
  have hstep0 : 0 ≤ pointGain sourcePos mainDoorPos * doorMain' := mul_nonneg hpoint (hmain.trans hm)
  rw [aircraftSkinGains_sum _ _ _ _ _ hmain, aircraftSkinGains_sum _ _ _ _ _ (hmain.trans hm)]
  refine ⟨?_, ?_⟩
  · exact add_le_add (mul_le_mul_of_nonneg_right hhull.1 hbase) (mul_le_mul hstep hpath.1 hpath1.1 hstep0)
  · exact add_le_add (mul_le_mul_of_nonneg_right hhull.2 hbase) (mul_le_mul hstep hpath.2 hpath2.1 hstep0)

theorem attInside_mono {door door' : ℝ} (h : door ≤ door') (z : ℝ) : attInside door z ≤ attInside door' z := by
  unfold attInside
  dsimp only
  split_ifs with hz hfar
  · exact le_rfl
  · have hfactor := doorAttenuation_mono z 0 cabinDoorZ h (by norm_num : (0 : ℝ) < 0.95)
    have ht : 0 ≤ (1 - (z - cabinDoorZ) / paDistMax) * (1 - (z - cabinDoorZ) / paDistMax) := mul_self_nonneg _
    rw [mul_assoc, mul_assoc]
    exact mul_le_mul_of_nonneg_right hfactor ht
  · exact le_rfl

theorem paGain_mono (listenerPos : Vec3 ℝ) {door door' doorMain doorMain' : ℝ} (hdoor : 0 ≤ door)
    (hmain : 0 ≤ doorMain) (hd : door ≤ door') (hm : doorMain ≤ doorMain') :
    paGain listenerPos door doorMain ≤ paGain listenerPos door' doorMain' := by
  unfold paGain
  dsimp only
  split_ifs
  · exact mul_le_mul_of_nonneg_left (attInside_mono hd _) (by norm_num)
  · have hbase : (0 : ℝ) ≤ skinBase := by norm_num [skinBase]
    have hpoint := (pointGain_mem mainDoorPos listenerPos).1
    have hskin : skinBase + doorMain * pointGain mainDoorPos listenerPos ≤
        skinBase + doorMain' * pointGain mainDoorPos listenerPos :=
      add_le_add_right (mul_le_mul_of_nonneg_right hm hpoint) _
    have hskin0 : 0 ≤ skinBase + doorMain' * pointGain mainDoorPos listenerPos :=
      add_nonneg hbase (mul_nonneg (hmain.trans hm) hpoint)
    have hprod := mul_le_mul hskin (attInside_mono hd mainDoorPos.2.2) (attInside_mem hdoor _).1 hskin0
    exact mul_le_mul_of_nonneg_left hprod (by norm_num)

/-- Opening doors. Wherever source and listener are, no door that opens further makes a channel quieter. -/
theorem louder_with_doors (sourcePos listenerPos listenerRot : Vec3 ℝ)
    {door door' doorLav doorLav' doorMain doorMain' : ℝ} (hdoor : 0 ≤ door) (hlav : 0 ≤ doorLav) (hmain : 0 ≤ doorMain)
    (hd : door ≤ door') (hl : doorLav ≤ doorLav') (hm : doorMain ≤ doorMain') :
    computeStereoGains sourcePos listenerPos listenerRot door doorLav ≤
        computeStereoGains sourcePos listenerPos listenerRot door' doorLav' ∧
      aircraftSkinGains sourcePos listenerPos listenerRot door doorLav doorMain ≤
        aircraftSkinGains sourcePos listenerPos listenerRot door' doorLav' doorMain' ∧
      paGain listenerPos door doorMain ≤ paGain listenerPos door' doorMain' :=
  ⟨computeStereoGains_mono _ _ _ hdoor hlav hd hl, aircraftSkinGains_mono _ _ _ hdoor hlav hmain hd hl hm,
    paGain_mono _ hdoor hmain hd hm⟩

/-- the main door, from shut to open -/
theorem louder_with_doors_opened :
    aircraftSkinGains (0, 0, 0) (-3, 0.5, 5) (0, 0, 0) 1 1 0 ≤ aircraftSkinGains (0, 0, 0) (-3, 0.5, 5) (0, 0, 0) 1 1 1 :=
  (louder_with_doors (0, 0, 0) (-3, 0.5, 5) (0, 0, 0) zero_le_one zero_le_one le_rfl le_rfl le_rfl zero_le_one).2.1

end

end MumbledFlight

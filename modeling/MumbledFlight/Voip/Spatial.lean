/-
Spatial audio (`spatial.rs` and `MumbleVoipClient::spatialize`) over exact reals: the stereo pan of a source, the skin of
the fuselage, the public address, and the gains a received mono frame is scaled by.

Results, for every position, head orientation, door opening and width in range:
- `computeStereoGains_mem`, `paGain_mem`: both channels' gains lie in [0, 1].
- `aircraftSkinGains_mem`: across the hull two paths are summed, so the bound is the skin's share plus the door's,
  which reaches 1.15.
- `spatialize_bounded`: what a frame is scaled by on each of the three paths.
- `skin_gain_exceeds_one`: beside the open main door the sum does exceed 1.
-/
import Mathlib.Analysis.SpecialFunctions.Trigonometric.Basic
import Mathlib.LinearAlgebra.CrossProduct
import MumbledFlight.State

namespace MumbledFlight

noncomputable section

/-! ## Geometry -/

def xplaneToMumble (pos : Vec3 ℝ) : Vec3 ℝ := (pos.1, pos.2.1, -pos.2.2)

/-- CL650 main entry door -/
def mainDoorPos : Vec3 ℝ := (-1, 0.5, 5)

/-- the fuselage, in Mumble coordinates -/
def isInsideAircraft (pos : Vec3 ℝ) : Prop :=
  (-1.2 < pos.1 ∧ pos.1 < 1.2) ∧ (-1 < pos.2.1 ∧ pos.2.1 < 1.2) ∧ -1.7 < pos.2.2 ∧ pos.2.2 < 8

def distance (a b : Vec3 ℝ) : ℝ := √((b.1 - a.1) ^ 2 + (b.2.1 - a.2.1) ^ 2 + (b.2.2 - a.2.2) ^ 2)

/-- full volume up to 1.5 m, silence from 8 m -/
def falloff (dist : ℝ) : ℝ :=
  if dist ≤ 1.5 then 1
  else if dist ≥ 8 then 0
  else
    let t := 1 - (dist - 1.5) / (8 - 1.5)
    t * t

def pointGain (source target : Vec3 ℝ) : ℝ := falloff (distance source target)

def toRadians (degrees : ℝ) : ℝ := degrees * (Real.pi / 180)

/-- where a head turned by heading, pitch and roll looks -/
def headForward (rot : Vec3 ℝ) : Fin 3 → ℝ :=
  let hh := toRadians rot.1
  let hp := toRadians rot.2.1
  ![hp.cos * hh.sin, hp.sin, hp.cos * hh.cos]

def headTop (rot : Vec3 ℝ) : Fin 3 → ℝ :=
  let hh := toRadians rot.1
  let hp := toRadians rot.2.1
  let hr := toRadians rot.2.2
  ![-hr.sin * hh.cos + hp.sin * hr.cos * hh.sin, hp.cos * hr.cos, hr.sin * hh.sin + hp.sin * hr.cos * hh.cos]

def headRight (rot : Vec3 ℝ) : Fin 3 → ℝ :=
  let top := headTop rot
  let fwd := headForward rot
  ![top 1 * fwd 2 - top 2 * fwd 1, top 2 * fwd 0 - top 0 * fwd 2, top 0 * fwd 1 - top 1 * fwd 0]

/-! ## Gains -/

/-- from a dot product in [-1, 1] to a gain in [0.25, 1] -/
def calcGain (dot : ℝ) : ℝ :=
  let df := (dot + 1) * 0.5
  df + (1 - df) * 0.25

/-- 1 on one side of the door, else by how far it is open -/
def doorAttenuation (listenerZ sourceZ doorZ opening openThreshold : ℝ) : ℝ :=
  if (listenerZ - doorZ) * (sourceZ - doorZ) ≥ 0 then 1 else 0.15 + 0.85 * min (opening / openThreshold) 1

/-- left and right gain of a source -/
def computeStereoGains (sourcePos listenerPos listenerRot : Vec3 ℝ) (door doorLav : ℝ) : ℝ × ℝ :=
  let dist := distance listenerPos sourcePos
  if dist < 0.01 then (1, 1)
  else
    let nx := (sourcePos.1 - listenerPos.1) / dist
    let ny := (sourcePos.2.1 - listenerPos.2.1) / dist
    let nz := (sourcePos.2.2 - listenerPos.2.2) / dist
    let right := headRight listenerRot
    let dotR := nx * right 0 + ny * right 1 + nz * right 2
    let datt := falloff dist
    let doorAtt := doorAttenuation listenerPos.2.2 sourcePos.2.2 4.1 door 0.95 *
      doorAttenuation listenerPos.2.2 sourcePos.2.2 (-0.43) doorLav 1
    (calcGain (-dotR) * datt * doorAtt, calcGain dotR * datt * doorAtt)

def skinBase : ℝ := 0.15

/-- through the hull and through the main door, summed -/
def aircraftSkinGains (sourcePos listenerPos listenerRot : Vec3 ℝ) (door doorLav doorMain : ℝ) : ℝ × ℝ :=
  let hullGains := computeStereoGains sourcePos listenerPos listenerRot door doorLav
  let hull := (hullGains.1 * skinBase, hullGains.2 * skinBase)
  let doorPath :=
    if doorMain > 0 then
      let step1 := pointGain sourcePos mainDoorPos * doorMain
      let doorGains := computeStereoGains mainDoorPos listenerPos listenerRot door doorLav
      (step1 * doorGains.1, step1 * doorGains.2)
    else (0, 0)
  (hull.1 + doorPath.1, hull.2 + doorPath.2)

def cabinDoorZ : ℝ := 4.1

def paDistMax : ℝ := 8

/-- the public address inside the cabin -/
def attInside (door z : ℝ) : ℝ :=
  if z > cabinDoorZ then
    let doorFactor := doorAttenuation z 0 cabinDoorZ door 0.95
    let dist := z - cabinDoorZ
    if dist ≥ paDistMax then 0
    else
      let t := 1 - dist / paDistMax
      doorFactor * t * t
  else 1

open Classical in
def paGain (listenerPos : Vec3 ℝ) (door doorMain : ℝ) : ℝ :=
  let att :=
    if isInsideAircraft listenerPos then attInside door listenerPos.2.2
    else (skinBase + doorMain * pointGain mainDoorPos listenerPos) * attInside door mainDoorPos.2.2
  0.5 * att

/-- source and listener are on two sides of the hull -/
def HullCrossing (sourcePos : Option (Vec3 ℝ)) (state : CockpitState ℝ) : Prop :=
  ∃ spos, sourcePos = some spos ∧ ¬(isInsideAircraft (xplaneToMumble state.pos) ↔ isInsideAircraft spos)

open Classical in
/-- the gains before the width is applied; a frame without a position is the public address -/
def pathGains (sourcePos : Option (Vec3 ℝ)) (state : CockpitState ℝ) : ℝ × ℝ :=
  let lpos := xplaneToMumble state.pos
  match sourcePos with
  | none =>
    let g := paGain lpos state.door state.doorMain
    (g, g)
  | some spos =>
    if ¬(isInsideAircraft lpos ↔ isInsideAircraft spos) then
      aircraftSkinGains spos lpos state.rot state.door state.doorLav state.doorMain
    else computeStereoGains spos lpos state.rot state.door state.doorLav

/-- both channels towards their middle -/
def applyWidth (width : ℝ) (gains : ℝ × ℝ) : ℝ × ℝ :=
  if |width - 1| > 0.0001 then
    let mid := (gains.1 + gains.2) * 0.5
    (max (mid + (gains.1 - mid) * width) 0, max (mid + (gains.2 - mid) * width) 0)
  else gains

def spatialize (width : ℝ) (mono : List ℝ) (sourcePos : Option (Vec3 ℝ)) (state : CockpitState ℝ) : List ℝ :=
  let gains := applyWidth width (pathGains sourcePos state)
  mono.flatMap fun s => [s * gains.1, s * gains.2]

/-! ## The pan law -/

theorem headForward_unit (rot : Vec3 ℝ) : headForward rot ⬝ᵥ headForward rot = 1 := by
  have hp := Real.sin_sq_add_cos_sq (toRadians rot.2.1)
  have hh := Real.sin_sq_add_cos_sq (toRadians rot.1)
  simp only [headForward, Matrix.vec3_dotProduct, Matrix.cons_val]
  linear_combination (toRadians rot.2.1).cos ^ 2 * hh + hp

theorem headTop_unit (rot : Vec3 ℝ) : headTop rot ⬝ᵥ headTop rot = 1 := by
  have hp := Real.sin_sq_add_cos_sq (toRadians rot.2.1)
  have hh := Real.sin_sq_add_cos_sq (toRadians rot.1)
  have hr := Real.sin_sq_add_cos_sq (toRadians rot.2.2)
  simp only [headTop, Matrix.vec3_dotProduct, Matrix.cons_val]
  linear_combination ((toRadians rot.2.2).sin ^ 2 + (toRadians rot.2.1).sin ^ 2 * (toRadians rot.2.2).cos ^ 2) * hh +
    (toRadians rot.2.2).cos ^ 2 * hp + hr

theorem headRight_eq_cross (rot : Vec3 ℝ) : headRight rot = crossProduct (headTop rot) (headForward rot) := rfl

/-- the axis between the ears is no longer than 1 -/
theorem headRight_le_one (rot : Vec3 ℝ) : headRight rot ⬝ᵥ headRight rot ≤ 1 := by
  rw [headRight_eq_cross, cross_dot_cross, headTop_unit, headForward_unit, dotProduct_comm (headForward rot)]
  have := mul_self_nonneg (headTop rot ⬝ᵥ headForward rot)
  linarith

theorem distance_sq (a b : Vec3 ℝ) :
    distance a b ^ 2 = (b.1 - a.1) ^ 2 + (b.2.1 - a.2.1) ^ 2 + (b.2.2 - a.2.2) ^ 2 := by
  unfold distance
  apply Real.sq_sqrt
  positivity

/-- the dot product of the ear axis and the direction of the source, by Cauchy–Schwarz -/
theorem dotRight_abs_le (listener source rot : Vec3 ℝ) (hd : 0 < distance listener source) :
    |(source.1 - listener.1) / distance listener source * headRight rot 0 +
      (source.2.1 - listener.2.1) / distance listener source * headRight rot 1 +
      (source.2.2 - listener.2.2) / distance listener source * headRight rot 2| ≤ 1 := by
  set d := distance listener source with hdist
  let n : Fin 3 → ℝ := ![(source.1 - listener.1) / d, (source.2.1 - listener.2.1) / d, (source.2.2 - listener.2.2) / d]
  have hn : ∑ i, n i ^ 2 = 1 := by
    have hsq := distance_sq listener source
    rw [← hdist] at hsq
    simp only [n, Fin.sum_univ_three, Matrix.cons_val]
    field_simp
    linarith
  have hr : ∑ i, headRight rot i ^ 2 ≤ 1 := by
    have := headRight_le_one rot
    simpa only [dotProduct, ← pow_two] using this
  have hcs : (∑ i, n i * headRight rot i) ^ 2 ≤ 1 := by
    calc (∑ i, n i * headRight rot i) ^ 2
        ≤ (∑ i, n i ^ 2) * ∑ i, headRight rot i ^ 2 := Finset.sum_mul_sq_le_sq_mul_sq _ _ _
      _ = ∑ i, headRight rot i ^ 2 := by rw [hn, one_mul]
      _ ≤ 1 := hr
  have habs : |∑ i, n i * headRight rot i| ≤ 1 := by
    apply abs_le_one_iff_mul_self_le_one.2
    rw [← pow_two]
    exact hcs
  simpa only [n, Fin.sum_univ_three, Matrix.cons_val] using habs

/-! ## Bounds -/

theorem calcGain_mem {dot : ℝ} (h : |dot| ≤ 1) : calcGain dot ∈ Set.Icc (0 : ℝ) 1 := by
  obtain ⟨h1, h2⟩ := abs_le.1 h
  unfold calcGain
  constructor <;> dsimp only <;> linarith

theorem falloff_mem (dist : ℝ) : falloff dist ∈ Set.Icc (0 : ℝ) 1 := by
  unfold falloff
  split_ifs with h1 h2
  · simp
  · simp
  · have ht0 : 0 ≤ 1 - (dist - 1.5) / (8 - 1.5) := by
      have : (dist - 1.5) / (8 - 1.5) ≤ 1 := by
        rw [div_le_one (by norm_num)]
        linarith
      linarith
    have ht1 : 1 - (dist - 1.5) / (8 - 1.5) ≤ 1 := by
      have : 0 ≤ (dist - 1.5) / (8 - 1.5) := by
        apply div_nonneg
        · linarith
        · norm_num
      linarith
    exact ⟨mul_nonneg ht0 ht0, mul_le_one₀ ht1 ht0 ht1⟩

theorem pointGain_mem (source target : Vec3 ℝ) : pointGain source target ∈ Set.Icc (0 : ℝ) 1 := falloff_mem _

theorem doorAttenuation_mem (listenerZ sourceZ doorZ : ℝ) {opening openThreshold : ℝ} (ho : 0 ≤ opening)
    (ht : 0 < openThreshold) :
    doorAttenuation listenerZ sourceZ doorZ opening openThreshold ∈ Set.Icc (0 : ℝ) 1 := by
  unfold doorAttenuation
  split_ifs
  · simp
  · have h0 : 0 ≤ min (opening / openThreshold) 1 := le_min (div_nonneg ho ht.le) zero_le_one
    have h1 : min (opening / openThreshold) 1 ≤ 1 := min_le_right _ _
    constructor <;> linarith

/-- gains are closed under products -/
theorem mul_mem_unit {a b : ℝ} (ha : a ∈ Set.Icc (0 : ℝ) 1) (hb : b ∈ Set.Icc (0 : ℝ) 1) :
    a * b ∈ Set.Icc (0 : ℝ) 1 :=
  ⟨mul_nonneg ha.1 hb.1, mul_le_one₀ ha.2 hb.1 hb.2⟩

/-- both channels of a pair of gains lie between 0 and b -/
def Bounded (gains : ℝ × ℝ) (b : ℝ) : Prop := gains.1 ∈ Set.Icc 0 b ∧ gains.2 ∈ Set.Icc 0 b

theorem computeStereoGains_mem (sourcePos listenerPos listenerRot : Vec3 ℝ) {door doorLav : ℝ} (hdoor : 0 ≤ door)
    (hlav : 0 ≤ doorLav) : Bounded (computeStereoGains sourcePos listenerPos listenerRot door doorLav) 1 := by
  unfold computeStereoGains
  dsimp only
  split_ifs with hd
  · simp [Bounded]
  · have hpos : 0 < distance listenerPos sourcePos := by linarith
    have hdot := dotRight_abs_le listenerPos sourcePos listenerRot hpos
    have hatt := mul_mem_unit (doorAttenuation_mem listenerPos.2.2 sourcePos.2.2 4.1 hdoor (by norm_num : (0 : ℝ) < 0.95))
      (doorAttenuation_mem listenerPos.2.2 sourcePos.2.2 (-0.43) hlav one_pos)
    have hfall := falloff_mem (distance listenerPos sourcePos)
    refine ⟨mul_mem_unit (mul_mem_unit (calcGain_mem ?_) hfall) hatt,
      mul_mem_unit (mul_mem_unit (calcGain_mem hdot) hfall) hatt⟩
    rw [abs_neg]
    exact hdot

/-- a door that is not open adds nothing, so the two paths are always summed -/
theorem aircraftSkinGains_sum (sourcePos listenerPos listenerRot : Vec3 ℝ) (door doorLav : ℝ) {doorMain : ℝ}
    (hmain : 0 ≤ doorMain) :
    aircraftSkinGains sourcePos listenerPos listenerRot door doorLav doorMain =
      ((computeStereoGains sourcePos listenerPos listenerRot door doorLav).1 * skinBase +
          pointGain sourcePos mainDoorPos * doorMain *
            (computeStereoGains mainDoorPos listenerPos listenerRot door doorLav).1,
        (computeStereoGains sourcePos listenerPos listenerRot door doorLav).2 * skinBase +
          pointGain sourcePos mainDoorPos * doorMain *
            (computeStereoGains mainDoorPos listenerPos listenerRot door doorLav).2) := by
  unfold aircraftSkinGains
  dsimp only
  split_ifs with hopen
  · rfl
  · have hzero : doorMain = 0 := le_antisymm (not_lt.1 hopen) hmain
    simp [hzero]

/-- the skin lets 0.15 of the source through, the main door its opening times the falloff to it -/
theorem aircraftSkinGains_mem (sourcePos listenerPos listenerRot : Vec3 ℝ) {door doorLav doorMain : ℝ} (hdoor : 0 ≤ door)
    (hlav : 0 ≤ doorLav) (hmain : 0 ≤ doorMain) :
    Bounded (aircraftSkinGains sourcePos listenerPos listenerRot door doorLav doorMain)
      (skinBase + doorMain * pointGain sourcePos mainDoorPos) := by
  have hbase : (0 : ℝ) ≤ skinBase := by norm_num [skinBase]
  have hpoint := pointGain_mem sourcePos mainDoorPos
  obtain ⟨hl, hr⟩ := computeStereoGains_mem sourcePos listenerPos listenerRot hdoor hlav
  obtain ⟨dl, dr⟩ := computeStereoGains_mem mainDoorPos listenerPos listenerRot hdoor hlav
  -- one channel: a share of the hull's gain, a share of the door's
  have hchannel : ∀ {g w : ℝ}, g ∈ Set.Icc (0 : ℝ) 1 → w ∈ Set.Icc (0 : ℝ) 1 →
      g * skinBase + pointGain sourcePos mainDoorPos * doorMain * w ∈
        Set.Icc 0 (skinBase + doorMain * pointGain sourcePos mainDoorPos) := by
    intro g w hg hw
    have hstep : 0 ≤ pointGain sourcePos mainDoorPos * doorMain := mul_nonneg hpoint.1 hmain
    have h1 : g * skinBase ≤ 1 * skinBase := mul_le_mul_of_nonneg_right hg.2 hbase
    have h2 : pointGain sourcePos mainDoorPos * doorMain * w ≤ pointGain sourcePos mainDoorPos * doorMain * 1 :=
      mul_le_mul_of_nonneg_left hw.2 hstep
    refine ⟨add_nonneg (mul_nonneg hg.1 hbase) (mul_nonneg hstep hw.1), ?_⟩
    calc g * skinBase + pointGain sourcePos mainDoorPos * doorMain * w
        ≤ 1 * skinBase + pointGain sourcePos mainDoorPos * doorMain * 1 := add_le_add h1 h2
      _ = skinBase + doorMain * pointGain sourcePos mainDoorPos := by ring
  rw [aircraftSkinGains_sum _ _ _ _ _ hmain]
  exact ⟨hchannel hl dl, hchannel hr dr⟩

theorem attInside_mem {door : ℝ} (hdoor : 0 ≤ door) (z : ℝ) : attInside door z ∈ Set.Icc (0 : ℝ) 1 := by
  unfold attInside
  dsimp only
  split_ifs with hz hfar
  · simp
  · have hfactor := doorAttenuation_mem z 0 cabinDoorZ hdoor (by norm_num : (0 : ℝ) < 0.95)
    have ht : 1 - (z - cabinDoorZ) / paDistMax ∈ Set.Icc (0 : ℝ) 1 := by
      have hmax : (0 : ℝ) < paDistMax := by norm_num [paDistMax]
      have h0 : 0 ≤ (z - cabinDoorZ) / paDistMax := div_nonneg (by linarith) hmax.le
      have h1 : (z - cabinDoorZ) / paDistMax ≤ 1 := (div_le_one hmax).2 (le_of_lt (not_le.1 hfar))
      constructor <;> linarith
    exact mul_mem_unit (mul_mem_unit hfactor ht) ht
  · simp

theorem paGain_mem (listenerPos : Vec3 ℝ) {door doorMain : ℝ} (hdoor : 0 ≤ door) (hmain : doorMain ∈ Set.Icc (0 : ℝ) 1) :
    paGain listenerPos door doorMain ∈ Set.Icc (0 : ℝ) 1 := by
  unfold paGain
  dsimp only
  split_ifs
  · obtain ⟨h0, h1⟩ := attInside_mem hdoor listenerPos.2.2
    constructor <;> linarith
  · obtain ⟨h0, h1⟩ := attInside_mem hdoor mainDoorPos.2.2
    obtain ⟨hd0, hd1⟩ := mul_mem_unit hmain (pointGain_mem mainDoorPos listenerPos)
    have hsum0 : 0 ≤ skinBase + doorMain * pointGain mainDoorPos listenerPos := by
      unfold skinBase
      linarith
    have hsum1 : skinBase + doorMain * pointGain mainDoorPos listenerPos ≤ 2 := by
      unfold skinBase
      linarith
    have hprod : (skinBase + doorMain * pointGain mainDoorPos listenerPos) * attInside door mainDoorPos.2.2 ≤ 2 * 1 :=
      mul_le_mul hsum1 h1 h0 (by norm_num)
    have hprod0 := mul_nonneg hsum0 h0
    constructor <;> linarith

/-- narrowing the width moves both channels towards their middle, so no bound is left -/
theorem applyWidth_bounded {width b : ℝ} (hw : width ∈ Set.Icc (0 : ℝ) 1) {gains : ℝ × ℝ} (h : Bounded gains b) :
    Bounded (applyWidth width gains) b := by
  obtain ⟨hl, hr⟩ := h
  -- a channel of the blend is a convex combination of itself and the middle
  have hblend : ∀ {g m : ℝ}, g ∈ Set.Icc 0 b → m ∈ Set.Icc 0 b → max (m + (g - m) * width) 0 ∈ Set.Icc 0 b := by
    intro g m hg hm
    have hcomb : m + (g - m) * width ≤ b := by
      calc m + (g - m) * width = (1 - width) * m + width * g := by ring
        _ ≤ (1 - width) * b + width * b :=
          add_le_add (mul_le_mul_of_nonneg_left hm.2 (by linarith [hw.2])) (mul_le_mul_of_nonneg_left hg.2 hw.1)
        _ = b := by ring
    exact ⟨le_max_right _ _, max_le hcomb (hg.1.trans hg.2)⟩
  have hmid : (gains.1 + gains.2) * 0.5 ∈ Set.Icc 0 b := by
    obtain ⟨hl0, hl1⟩ := hl
    obtain ⟨hr0, hr1⟩ := hr
    constructor <;> linarith
  unfold applyWidth
  split_ifs
  · exact ⟨hblend hl hmid, hblend hr hmid⟩
  · exact ⟨hl, hr⟩

/-! ## A frame -/

/-- the bound on the gains of a frame's path -/
theorem pathGains_bounded (sourcePos : Option (Vec3 ℝ)) (state : CockpitState ℝ) (hdoor : 0 ≤ state.door)
    (hlav : 0 ≤ state.doorLav) (hmain : state.doorMain ∈ Set.Icc (0 : ℝ) 1) :
    (¬HullCrossing sourcePos state → Bounded (pathGains sourcePos state) 1) ∧
    ∀ spos, sourcePos = some spos → HullCrossing sourcePos state →
      Bounded (pathGains sourcePos state) (skinBase + state.doorMain * pointGain spos mainDoorPos) := by
  cases sourcePos with
  | none =>
    have hpa := paGain_mem (xplaneToMumble state.pos) hdoor hmain
    exact ⟨fun _ => ⟨hpa, hpa⟩, fun spos h => by cases h⟩
  | some spos =>
    have hcross : HullCrossing (some spos) state ↔
        ¬(isInsideAircraft (xplaneToMumble state.pos) ↔ isInsideAircraft spos) := by
      simp [HullCrossing]
    rw [hcross]
    unfold pathGains
    dsimp only
    refine ⟨?_, ?_⟩
    · intro hsame
      rw [if_neg hsame]
      exact computeStereoGains_mem _ _ _ hdoor hlav
    · intro spos' hspos hdiff
      cases hspos
      rw [if_pos hdiff]
      exact aircraftSkinGains_mem _ _ _ hdoor hlav hmain.1

/-- Spatialization. A frame of n samples becomes 2n, left and right in turn, each its sample times a gain that is not
negative; the gain is at most 1 on the public address and on one side of the hull, and across the hull at most the
skin's share plus the main door's, so at most 1.15. -/
theorem spatialize_bounded (width : ℝ) (mono : List ℝ) (sourcePos : Option (Vec3 ℝ)) (state : CockpitState ℝ)
    (hdoor : state.door ∈ Set.Icc (0 : ℝ) 1) (hlav : state.doorLav ∈ Set.Icc (0 : ℝ) 1)
    (hmain : state.doorMain ∈ Set.Icc (0 : ℝ) 1) (hwidth : width ∈ Set.Icc (0 : ℝ) 1) :
    (spatialize width mono sourcePos state).length = 2 * mono.length ∧
    ∃ gainL gainR, spatialize width mono sourcePos state = mono.flatMap (fun s => [s * gainL, s * gainR]) ∧
      (¬HullCrossing sourcePos state → gainL ∈ Set.Icc (0 : ℝ) 1 ∧ gainR ∈ Set.Icc (0 : ℝ) 1) ∧
      ∀ spos, sourcePos = some spos → HullCrossing sourcePos state →
        let bound := 0.15 + state.doorMain * pointGain spos mainDoorPos
        gainL ∈ Set.Icc 0 bound ∧ gainR ∈ Set.Icc 0 bound ∧ bound ≤ 1.15 := by
  obtain ⟨hsame, hcross⟩ := pathGains_bounded sourcePos state hdoor.1 hlav.1 hmain
  refine ⟨?_, _, _, rfl, fun h => applyWidth_bounded hwidth (hsame h), ?_⟩
  · simp [spatialize, mul_comm]
  · intro spos hspos h
    obtain ⟨hl, hr⟩ := applyWidth_bounded hwidth (hcross spos hspos h)
    have hpoint := mul_mem_unit hmain (pointGain_mem spos mainDoorPos)
    refine ⟨hl, hr, ?_⟩
    have := hpoint.2
    norm_num
    linarith

/-! ## Beside the open main door -/

/-- a listener just outside the main door, every door open, looking ahead -/
def besideDoor : CockpitState ℝ := { CockpitState.default ℝ with pos := (-1.3, 0.5, -5) }

/-- the public address there -/
theorem spatialize_bounded_besideDoor :
    ∃ gainL gainR, spatialize 1 [1] none besideDoor = [1 * gainL, 1 * gainR] ∧
      gainL ∈ Set.Icc (0 : ℝ) 1 ∧ gainR ∈ Set.Icc (0 : ℝ) 1 := by
  have hdoors : (1 : ℝ) ∈ Set.Icc (0 : ℝ) 1 := ⟨zero_le_one, le_rfl⟩
  obtain ⟨-, gainL, gainR, hout, hsame, -⟩ := spatialize_bounded 1 [1] none besideDoor hdoors hdoors hdoors hdoors
  refine ⟨gainL, gainR, hout, hsame ?_⟩
  rintro ⟨spos, h, -⟩
  cases h

theorem headRight_zero : headRight (0, 0, 0) = ![1, 0, 0] := by
  simp [headRight, headTop, headForward, toRadians]

/-- a source within 1.5 m to the right of someone looking ahead is heard at full level on the right -/
theorem computeStereoGains_right (listener source : Vec3 ℝ) {d : ℝ} (hx : source.1 - listener.1 = d)
    (hy : source.2.1 = listener.2.1) (hz : source.2.2 = listener.2.2) (hd : 0.01 ≤ d) (hd' : d ≤ 1.5)
    (door doorLav : ℝ) : (computeStereoGains source listener (0, 0, 0) door doorLav).2 = 1 := by
  have hpos : 0 < d := by linarith
  have hdist : distance listener source = d := by
    unfold distance
    rw [hx, hy, hz, sub_self, sub_self]
    simp [Real.sqrt_sq hpos.le]
  have hdoors : ∀ z opening threshold, doorAttenuation listener.2.2 source.2.2 z opening threshold = 1 := by
    intro z opening threshold
    unfold doorAttenuation
    rw [hz, if_pos (mul_self_nonneg _)]
  have hfall : falloff d = 1 := by
    unfold falloff
    rw [if_pos hd']
  unfold computeStereoGains
  dsimp only
  rw [hdist, if_neg (not_lt.2 hd), hdoors, hdoors]
  simp only [hfall, headRight_zero, hx, hy, hz, sub_self, div_self hpos.ne', Matrix.cons_val]
  norm_num [calcGain]

/-- a source just inside the open main door, heard from just outside it, is amplified on the right channel -/
theorem skin_gain_exceeds_one :
    besideDoor.door ∈ Set.Icc (0 : ℝ) 1 ∧ besideDoor.doorLav ∈ Set.Icc (0 : ℝ) 1 ∧
    besideDoor.doorMain ∈ Set.Icc (0 : ℝ) 1 ∧
    ¬∃ gainL gainR, spatialize 1 [1] (some (-1.1, 0.5, 5)) besideDoor = [1 * gainL, 1 * gainR] ∧
      gainL ∈ Set.Icc (0 : ℝ) 1 ∧ gainR ∈ Set.Icc (0 : ℝ) 1 := by
  have hlpos : xplaneToMumble besideDoor.pos = (-1.3, 0.5, 5) := by
    simp [besideDoor, xplaneToMumble]
  have hcross : ¬(isInsideAircraft (-1.3, 0.5, 5) ↔ isInsideAircraft (-1.1, 0.5, 5)) := by
    norm_num [isInsideAircraft]
  have hhull := computeStereoGains_right (-1.3, 0.5, 5) (-1.1, 0.5, 5) (d := 0.2)
    (by norm_num) rfl rfl (by norm_num) (by norm_num) 1 1
  have hdoor := computeStereoGains_right (-1.3, 0.5, 5) mainDoorPos (d := 0.3)
    (by norm_num [mainDoorPos]) rfl rfl (by norm_num) (by norm_num) 1 1
  have hpoint : pointGain (-1.1, 0.5, 5) mainDoorPos = 1 := by
    have hdist : distance (-1.1, 0.5, 5) mainDoorPos = 0.1 := by
      unfold distance
      rw [show ((mainDoorPos.1 - (-1.1, (0.5 : ℝ), (5 : ℝ)).1) ^ 2 + _ + _ : ℝ) = 0.1 ^ 2 by norm_num [mainDoorPos]]
      exact Real.sqrt_sq (by norm_num)
    unfold pointGain falloff
    rw [hdist, if_pos (by norm_num)]
  -- 0.15 through the skin and all of it through the door
  have hright : (pathGains (some (-1.1, 0.5, 5)) besideDoor).2 = 1.15 := by
    unfold pathGains
    dsimp only
    rw [hlpos, if_pos hcross]
    have hstate : besideDoor.rot = (0, 0, 0) ∧ besideDoor.door = 1 ∧ besideDoor.doorLav = 1 ∧ besideDoor.doorMain = 1 :=
      ⟨rfl, rfl, rfl, rfl⟩
    obtain ⟨h1, h2, h3, h4⟩ := hstate
    rw [h1, h2, h3, h4]
    unfold aircraftSkinGains
    dsimp only
    rw [if_pos one_pos, hhull, hdoor, hpoint]
    norm_num [skinBase]
  refine ⟨by norm_num [besideDoor, CockpitState.default], by norm_num [besideDoor, CockpitState.default],
    by norm_num [besideDoor, CockpitState.default], ?_⟩
  rintro ⟨gainL, gainR, hout, -, hr⟩
  have hwidth : applyWidth 1 (pathGains (some (-1.1, 0.5, 5)) besideDoor) =
      pathGains (some (-1.1, 0.5, 5)) besideDoor := by
    unfold applyWidth
    rw [if_neg (by norm_num)]
  simp only [spatialize, hwidth, hright, List.flatMap_cons, List.flatMap_nil, List.append_nil, one_mul,
    List.cons.injEq, and_true] at hout
  have := hr.2
  rw [← hout.2] at this
  norm_num at this

end

end MumbledFlight

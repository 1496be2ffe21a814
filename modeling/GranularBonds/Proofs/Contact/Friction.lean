import Mathlib
import GranularBonds.Proofs.Contact.Bond
import GranularBonds.Proofs.Contact.Tension
import GranularBonds.Proofs.Vec3

/-!
# Friction and the shear strength of bonds

The force in the contact plane is limited by friction and, while a bond holds,
by the shear strength of the bond.  The limit acts in one of three ways: it is
not reached, it cuts the force and the displacement down, or there is nothing
to cut and no force is left.  From these follow the bounds on the force of a
contact, and that a bond is sheared off exactly when it holds and its limit is
reached.
-/

namespace GranularBonds

/-! ## Contacts -/

section Contact

variable {α : Type} [Scalar α]

/-- An engaged pair is not too close to have a line of centers. -/
theorem Kinematics.apart_of_engaged {pair : Kinematics α} {record : ContactRecord α} {overlap : α}
    (engaged : pair.standing record = .engaged overlap) :
    ¬pair.distanceSquared < Scalar.tiny := by
  intro close
  simp only [Kinematics.standing, if_pos close] at engaged
  split at engaged
  · cases engaged
  · split at engaged
    · cases engaged
    · split at engaged <;> cases engaged

/-- The displacement of a pair at the end of a step, before it is brought into
the contact plane. -/
def ContactRecord.displacement (record : ContactRecord α) (pair : Kinematics α) (flipped : Bool)
    (timestep : α) : Vec3 α :=
  record.shearFor flipped + pair.slip * timestep

/-- Displacement and force in the contact plane at the end of a step, under a
limit. -/
def Material.plane (material : Material α) (pair : Kinematics α) (record : ContactRecord α)
    (flipped : Bool) (timestep limit : α) : Tangential α :=
  material.tangential pair (record.displacement pair flipped timestep) limit

/-- A visit that finds the pair in contact: what its force is made of, and the
displacement that is remembered. -/
structure Material.Contact (material : Material α) (pair : Kinematics α)
    (record : ContactRecord α) (flipped : Bool) (timestep : α) (force : ContactForce α)
    (after : ContactRecord α) : Prop where
  engaged : pair.standing record = .engaged force.overlap
  normal : force.normal = material.normalRate pair force.overlap * pair.distance
  limit : force.limit = material.shearLimit pair record.isCohesive force.normal
  sliding : force.sliding = (material.plane pair record flipped timestep force.limit).sliding
  sheared : force.sheared = (force.sliding && record.isCohesive)
  separated : force.separated =
    (force.sheared && decide (pair.radiusSum * pair.radiusSum < pair.distanceSquared))
  tangential : force.tangential =
    if force.separated then 0 else (material.plane pair record flipped timestep force.limit).force
  total : force.force =
    (if force.separated then 0 else pair.delta * material.normalRate pair force.overlap) +
      force.tangential
  firstTorque : force.firstTorque =
    -(pair.delta.cross force.tangential * (1 / pair.distance)) * pair.firstRadius
  secondTorque : force.secondTorque =
    -(pair.delta.cross force.tangential * (1 / pair.distance)) * pair.secondRadius
  shear : after.shear =
    if force.separated then 0
    else
      ContactRecord.turned flipped (material.plane pair record flipped timestep force.limit).shear

namespace ContactRecord

@[simp] theorem shear_sheared (record : ContactRecord α) : record.sheared.shear = record.shear := by
  unfold sheared
  split <;> rfl

/-- Of the two things that can happen to the record of a contact only one
touches its displacement. -/
theorem shear_settled (record : ContactRecord α) (sheared separated : Bool) :
    (if separated then (if sheared then record.sheared else record).apart
      else if sheared then record.sheared else record).shear =
        if separated then 0 else record.shear := by
  cases separated with
  | true => rfl
  | false =>
      cases sheared with
      | true => exact record.shear_sheared
      | false => rfl

end ContactRecord

namespace Material

variable {material : Material α} {pair : Kinematics α} {record : ContactRecord α} {flipped : Bool}
  {timestep : α}

theorem contact_engage {overlap : α} (engaged : pair.standing record = .engaged overlap) :
    material.Contact pair record flipped timestep
      (material.engage pair record flipped timestep overlap).1
      (material.engage pair record flipped timestep overlap).2 where
  engaged := engaged
  normal := rfl
  limit := rfl
  sliding := rfl
  sheared := rfl
  separated := rfl
  tangential := rfl
  total := rfl
  firstTorque := rfl
  secondTorque := rfl
  shear := ContactRecord.shear_settled _ _ _

theorem evaluate_of_engaged {overlap : α} (engaged : pair.standing record = .engaged overlap) :
    material.evaluate pair record flipped timestep =
      (.contact (material.engage pair record flipped timestep overlap).1,
        (material.engage pair record flipped timestep overlap).2) := by
  simp only [evaluate, engaged]

theorem contact_of_evaluate {force : ContactForce α}
    (contact : (material.evaluate pair record flipped timestep).1 = .contact force) :
    material.Contact pair record flipped timestep force
      (material.evaluate pair record flipped timestep).2 := by
  cases standing : pair.standing record with
  | separated => simp only [evaluate, standing, reduceCtorEq] at contact
  | overstretched overlap => simp only [evaluate, standing, reduceCtorEq] at contact
  | coincident => simp only [evaluate, standing, reduceCtorEq] at contact
  | engaged overlap =>
      rw [evaluate_of_engaged standing] at contact ⊢
      rw [← Outcome.contact.inj contact]
      exact contact_engage standing

end Material

end Contact

/-! ## Ways in which the limit acts -/

namespace Material

variable {α : Type} [Scalar α]

/-- Tangential force of a displacement before it is limited. -/
def trial (material : Material α) (pair : Kinematics α) (displacement : Vec3 α) : Vec3 α :=
  material.trialForce pair (pair.tangentPart displacement)

/-- What becomes of a displacement and its force under a limit. -/
inductive Limited (material : Material α) (pair : Kinematics α) (displacement : Vec3 α)
    (limit : α) : Tangential α → Prop where
  /-- The limit is not reached. -/
  | held : ¬limit ≤ (material.trial pair displacement).norm →
      Limited material pair displacement limit
        ⟨pair.tangentPart displacement, material.trial pair displacement, false⟩
  /-- The force is cut down to the limit, and the displacement with it. -/
  | cut : limit ≤ (material.trial pair displacement).norm → 0 < displacement.norm →
      0 < (material.trial pair displacement).norm →
      Limited material pair displacement limit
        ⟨material.cutShear pair (pair.tangentPart displacement)
            (limit / (material.trial pair displacement).norm),
          material.trial pair displacement * (limit / (material.trial pair displacement).norm),
          true⟩
  /-- There is nothing to cut, and no force is left. -/
  | slack : limit ≤ (material.trial pair displacement).norm →
      ¬(0 < displacement.norm ∧ 0 < (material.trial pair displacement).norm) →
      Limited material pair displacement limit ⟨pair.tangentPart displacement, 0, true⟩

/-- The limit acts in one way only. -/
theorem Limited.tangential_eq {material : Material α} {pair : Kinematics α}
    {displacement : Vec3 α} {limit : α} {plane : Tangential α}
    (limited : material.Limited pair displacement limit plane) :
    material.tangential pair displacement limit = plane := by
  cases limited with
  | held below => exact if_neg below
  | cut reached moved loaded => exact (if_pos reached).trans (if_pos ⟨moved, loaded⟩)
  | slack reached idle => exact (if_pos reached).trans (if_neg idle)

theorem tangential_limited (material : Material α) (pair : Kinematics α) (displacement : Vec3 α)
    (limit : α) :
    material.Limited pair displacement limit (material.tangential pair displacement limit) := by
  by_cases reached : limit ≤ (material.trial pair displacement).norm
  · by_cases cuttable : 0 < displacement.norm ∧ 0 < (material.trial pair displacement).norm
    · have cut := Limited.cut reached cuttable.1 cuttable.2
      rw [cut.tangential_eq]
      exact cut
    · have slack := Limited.slack reached cuttable
      rw [slack.tangential_eq]
      exact slack
  · have held := Limited.held reached
    rw [held.tangential_eq]
    exact held

end Material

variable {α : Type} [ExactScalar α]

namespace Material.Limited

variable {material : Material α} {pair : Kinematics α} {displacement : Vec3 α} {limit : α}
  {plane : Tangential α}

theorem sliding_iff (limited : material.Limited pair displacement limit plane) :
    plane.sliding = true ↔ limit ≤ (material.trial pair displacement).norm := by
  cases limited with
  | held below => simp only [Bool.false_eq_true, below]
  | cut reached => simp only [reached]
  | slack reached => simp only [reached]

/-- The force that is left has the direction of the force that was limited. -/
theorem exists_factor (limited : material.Limited pair displacement limit plane)
    (nonnegative : 0 ≤ limit) :
    ∃ factor : α, 0 ≤ factor ∧ plane.force = material.trial pair displacement * factor := by
  cases limited with
  | held => exact ⟨1, zero_le_one, (Vec3.mul_one _).symm⟩
  | cut => exact ⟨_, div_nonneg nonnegative (Vec3.norm_nonneg _), rfl⟩
  | slack => exact ⟨0, le_refl 0, (Vec3.mul_zero _).symm⟩

/-- A force that is cut has the limit as its length. -/
theorem norm_cut (trial : Vec3 α) (nonnegative : 0 ≤ limit) (positive : 0 < trial.norm) :
    (trial * (limit / trial.norm)).norm = limit := by
  rw [Vec3.norm_mul_of_nonneg trial (div_nonneg nonnegative positive.le)]
  exact mul_div_cancel₀ limit positive.ne'

theorem norm_force_le (limited : material.Limited pair displacement limit plane)
    (nonnegative : 0 ≤ limit) : plane.force.norm ≤ limit := by
  cases limited with
  | held below => exact (not_le.mp below).le
  | cut reached moved positive => exact (norm_cut _ nonnegative positive).le
  | slack => exact Vec3.norm_zero.trans_le nonnegative

/-- Sliding uses the limit up, unless there is nothing to slide. -/
theorem norm_force_eq (limited : material.Limited pair displacement limit plane)
    (nonnegative : 0 ≤ limit) (sliding : plane.sliding = true) (moved : displacement ≠ 0)
    (loaded : material.trial pair displacement ≠ 0) : plane.force.norm = limit := by
  cases limited with
  | held => cases sliding
  | cut reached moved positive => exact norm_cut _ nonnegative positive
  | slack reached idle =>
      exact absurd ⟨Vec3.norm_pos_iff.mpr moved, Vec3.norm_pos_iff.mpr loaded⟩ idle

end Material.Limited

/-! ## Shear failure -/

namespace ContactRecord.Exit

variable {record after : ContactRecord α} {force : ContactForce α}

/-- A bond is sheared off in a visit when it held before and counts as sheared
off afterwards. -/
theorem sheared_iff (exit : record.Exit (.contact force) after) :
    force.sheared = true ↔ record.bond = .bonded ∧ after.bond = .brokenShear := by
  cases exit with
  | held force shear whole =>
      have kept : (record.displaced shear).bond = record.bond := rfl
      rw [whole, kept]
      constructor
      · intro sheared
        cases sheared
      · intro broken
        rw [broken.1] at broken
        cases broken.2
  | sheared force shear cohesive sheared =>
      have bonded := record.isCohesive_iff.mp cohesive
      have broken : (record.displaced shear).sheared.bond = .brokenShear := by
        simp only [ContactRecord.sheared, displaced, isCohesive, bonded]
        rfl
      simp only [sheared, bonded, broken, and_self]
  | severed force shear cohesive sheared =>
      have bonded := record.isCohesive_iff.mp cohesive
      have broken : (record.displaced shear).sheared.apart.bond = .brokenShear := by
        simp only [ContactRecord.sheared, apart, displaced, isCohesive, bonded]
        rfl
      simp only [sheared, bonded, broken, and_self]

/-- The visit that shears a bond off is counted. -/
theorem shearBreaks_eq (exit : record.Exit (.contact force) after) :
    after.shearBreaks = record.shearBreaks + force.sheared.toNat := by
  cases exit with
  | held force shear whole =>
      rw [whole]
      rfl
  | sheared force shear cohesive sheared =>
      have holds : (record.displaced shear).isCohesive = true := cohesive
      rw [sheared, ContactRecord.sheared, if_pos holds]
      rfl
  | severed force shear cohesive sheared =>
      have holds : (record.displaced shear).isCohesive = true := cohesive
      rw [sheared, ContactRecord.sheared, if_pos holds]
      rfl

/-- A contact that comes apart keeps no displacement. -/
theorem shear_of_separated (exit : record.Exit (.contact force) after)
    (separated : force.separated = true) : after.shear = 0 := by
  cases exit with
  | held force shear whole together =>
      rw [together] at separated
      cases separated
  | sheared force shear cohesive sheared together =>
      rw [together] at separated
      cases separated
  | severed => rfl

end ContactRecord.Exit

/-! ## Bounds on a contact -/

namespace Kinematics

variable {pair : Kinematics α} {record : ContactRecord α} {overlap : α}

theorem distanceSquared_pos_of_engaged (engaged : pair.standing record = .engaged overlap) :
    0 < pair.distanceSquared :=
  ExactScalar.tiny_pos.trans_le (not_lt.mp (apart_of_engaged engaged))

/-- Surfaces are apart when the squares of the distances say so. -/
theorem radiusSum_lt_distance_iff (firstPositive : 0 < pair.firstRadius)
    (secondPositive : 0 < pair.secondRadius) :
    pair.radiusSum * pair.radiusSum < pair.distanceSquared ↔
      pair.firstRadius + pair.secondRadius < pair.distance := by
  have sum : 0 ≤ pair.radiusSum := (add_pos firstPositive secondPositive).le
  have square : pair.distance * pair.distance = pair.distanceSquared :=
    Vec3.norm_mul_self pair.delta
  rw [← square]
  exact (mul_self_lt_mul_self_iff sum (Vec3.norm_nonneg pair.delta)).symm

end Kinematics

namespace Material

variable {material : Material α} {pair : Kinematics α}

/-- The limit is that of friction, and more while a bond holds. -/
theorem shearLimit_eq (cohesive : Bool) (normal : α) :
    material.shearLimit pair cohesive normal = material.friction * |normal| +
      if cohesive then Scalar.pi * min pair.firstRadius pair.secondRadius * material.shearStrength
      else 0 := by
  have smaller : pair.radiusMin = min pair.firstRadius pair.secondRadius :=
    Scalar.minimum_eq_min _ _
  cases cohesive with
  | false => exact (add_zero _).symm
  | true =>
      simp only [shearLimit, bondShearForce, if_true, smaller]
      rfl

theorem shearLimit_nonneg (valid : material.validate = .ok ())
    (firstPositive : 0 < pair.firstRadius) (secondPositive : 0 < pair.secondRadius)
    (cohesive : Bool) (normal : α) :
    0 ≤ material.shearLimit pair cohesive normal := by
  have constants := (validate_eq_ok_iff.mp valid).1
  have friction : 0 ≤ material.friction :=
    constants ("friction_coefficient", _) (by simp [named])
  have strength : 0 ≤ material.shearStrength :=
    constants ("cohesive_shear_strength", _) (by simp [named])
  have circle : 0 < (Scalar.pi : α) := ExactScalar.pi_pos
  have bond : 0 ≤
      Scalar.pi * min pair.firstRadius pair.secondRadius * material.shearStrength :=
    mul_nonneg (mul_nonneg circle.le (lt_min firstPositive secondPositive).le) strength
  rw [shearLimit_eq]
  cases cohesive with
  | false => exact add_nonneg (mul_nonneg friction (abs_nonneg normal)) le_rfl
  | true => exact add_nonneg (mul_nonneg friction (abs_nonneg normal)) bond

/-- Friction and cohesion cap the force in the contact plane.  Take a contact of
a validated material between particles of positive radii, whatever the record of
the pair and the way it is visited.  Its limit is that of friction, raised by
the shear strength of a bond that holds.  The force in the plane is a part of
the uncapped one, and no larger than the limit.  The contact slides exactly when
the uncapped force reaches the limit, and then it uses the limit up, unless it
comes apart or nothing is there to slide.  Its bond is sheared off exactly when
it holds and the contact slides, and the contact comes apart exactly when this
happens with the surfaces apart; then no force, no torque and no displacement
are left. -/
theorem contact_within_limit {material : Material α} (valid : material.validate = .ok ())
    {pair : Kinematics α} (firstPositive : 0 < pair.firstRadius)
    (secondPositive : 0 < pair.secondRadius) (record : ContactRecord α) (flipped : Bool)
    (timestep : α) {force : ContactForce α}
    (contact : (material.evaluate pair record flipped timestep).1 = .contact force) :
    let displacement := record.shearFor flipped + pair.slip * timestep
    let trial := -(pair.tangentPart displacement * material.tangentialStiffness +
      pair.slip * (pair.mass * material.slipDamping))
    let after := (material.evaluate pair record flipped timestep).2
    let breaks := record.bond = .bonded ∧ after.bond = .brokenShear
    force.limit = material.friction * |force.normal| +
        (if record.isCohesive then
          Scalar.pi * min pair.firstRadius pair.secondRadius * material.shearStrength
        else 0) ∧
      force.tangential.norm ≤ force.limit ∧
      (∃ factor : α, 0 ≤ factor ∧ force.tangential = trial * factor) ∧
      (force.sliding = true ↔ force.limit ≤ trial.norm) ∧
      (force.sliding = true → displacement ≠ 0 → trial ≠ 0 → force.separated = false →
        force.tangential.norm = force.limit) ∧
      (breaks ↔ record.bond = .bonded ∧ force.sliding = true) ∧
      (force.sheared = true ↔ breaks) ∧
      after.shearBreaks = record.shearBreaks + force.sheared.toNat ∧
      (force.separated = true ↔ breaks ∧ pair.firstRadius + pair.secondRadius < pair.distance) ∧
      (force.separated = true →
        force.force = 0 ∧ force.firstTorque = 0 ∧ force.secondTorque = 0 ∧ after.shear = 0) := by
  have parts := contact_of_evaluate contact
  intro displacement trial after breaks
  have exit : record.Exit (.contact force) after := by
    rw [← contact]
    exact material.evaluate_exit pair record flipped timestep
  have nonnegative : 0 ≤ force.limit := by
    rw [parts.limit]
    exact shearLimit_nonneg valid firstPositive secondPositive _ _
  have limited : material.Limited pair displacement force.limit
      (material.plane pair record flipped timestep force.limit) :=
    material.tangential_limited pair displacement force.limit
  have broken : force.sheared = true ↔ breaks := exit.sheared_iff
  refine ⟨parts.limit.trans (shearLimit_eq _ _), ?_, ?_, ?_, ?_, ?_, broken,
    exit.shearBreaks_eq, ?_, ?_⟩
  · rw [parts.tangential]
    split
    · exact Vec3.norm_zero.trans_le nonnegative
    · exact limited.norm_force_le nonnegative
  · rw [parts.tangential]
    split
    · exact ⟨0, le_rfl, (Vec3.mul_zero trial).symm⟩
    · exact limited.exists_factor nonnegative
  · rw [parts.sliding]
    exact limited.sliding_iff
  · intro slides moved loaded together
    rw [parts.tangential, together]
    exact limited.norm_force_eq nonnegative (parts.sliding.symm.trans slides) moved loaded
  · rw [← broken, parts.sheared, Bool.and_eq_true, record.isCohesive_iff, and_comm]
  · rw [parts.separated, Bool.and_eq_true, broken, decide_eq_true_eq,
      Kinematics.radiusSum_lt_distance_iff firstPositive secondPositive]
  · intro separated
    have still : force.tangential = 0 := by rw [parts.tangential, if_pos separated]
    refine ⟨?_, ?_, ?_, exit.shear_of_separated separated⟩
    · rw [parts.total, if_pos separated, still, add_zero]
    · rw [parts.firstTorque, still, Vec3.cross_zero, Vec3.zero_mul, neg_zero, Vec3.zero_mul]
    · rw [parts.secondTorque, still, Vec3.cross_zero, Vec3.zero_mul, neg_zero, Vec3.zero_mul]

end Material

/-! ## Two spheres that pass by each other -/

theorem Vec3.norm_across (value : ℝ) : (⟨0, value, 0⟩ : Vec3 ℝ).norm = |value| := by
  have squared : 0 * 0 + value * value + 0 * 0 = value ^ 2 := by ring
  change Real.sqrt (0 * 0 + value * value + 0 * 0) = |value|
  rw [squared, Real.sqrt_sq_eq_abs]

namespace Kinematics

/-- Two unit spheres that pass by each other at unit speed. -/
noncomputable def passing (distance mass : ℝ) : Kinematics ℝ :=
  { Kinematics.atRest ⟨distance, 0, 0⟩ 1 1 mass with velocity := ⟨0, 1, 0⟩ }

variable (distance mass : ℝ)

theorem approach_passing : (passing distance mass).approach = 0 := by
  change 0 * distance + 1 * 0 + 0 * 0 = (0 : ℝ)
  ring

theorem slip_passing : (passing distance mass).slip = ⟨0, 1, 0⟩ := by
  have spinless : (passing distance mass).firstSpin = 0 ∧ (passing distance mass).secondSpin = 0 :=
    ⟨rfl, rfl⟩
  simp only [slip, approach_passing, spinless, Vec3.zero_mul, add_zero, Vec3.cross_zero, zero_mul,
    Vec3.mul_zero, sub_zero]
  rfl

theorem tangentPart_passing (shear : ℝ) :
    (passing distance mass).tangentPart ⟨0, shear, 0⟩ = ⟨0, shear, 0⟩ := by
  have across : (⟨0, shear, 0⟩ : Vec3 ℝ).dot (passing distance mass).delta = 0 := by
    change 0 * distance + shear * 0 + 0 * 0 = 0
    ring
  simp only [tangentPart, across, zero_mul, Vec3.mul_zero, sub_zero]

theorem distance_passing {distance : ℝ} (positive : 0 < distance) :
    (passing distance mass).distance = distance := by
  have squared : distance * distance + 0 * 0 + 0 * 0 = distance ^ 2 := by ring
  change Real.sqrt (distance * distance + 0 * 0 + 0 * 0) = distance
  rw [squared, Real.sqrt_sq positive.le]

/-- Spheres at some distance have a line of centers. -/
theorem apart_passing {distance : ℝ} (far : 1 ≤ distance) :
    ¬(passing distance mass).distanceSquared < Scalar.tiny := by
  have small : (2 : ℝ) ^ (-1022 : ℤ) ≤ 1 := zpow_le_one_of_nonpos₀ one_le_two (by decide)
  change ¬distance * distance + 0 * 0 + 0 * 0 < (2 : ℝ) ^ (-1022 : ℤ)
  nlinarith

/-- Unit spheres at distance one are in contact. -/
theorem engaged_passing : (passing 1 mass).standing .fresh = .engaged 1 := by
  have distance := distance_passing mass one_pos
  have overlap : (passing 1 mass).overlap 0 = 1 := by
    rw [Kinematics.overlap, distance]
    change (1 + 1 - 1 - 0 : ℝ) = 1
    norm_num
  have together : ¬(passing 1 mass).radiusSum < (passing 1 mass).distance := by
    rw [distance]
    change ¬(1 + 1 : ℝ) < 1
    norm_num
  have positive : ¬(1 : ℝ) < 0 := by norm_num
  have free : (ContactRecord.fresh : ContactRecord ℝ).isCohesive = false := rfl
  have gap : (ContactRecord.fresh : ContactRecord ℝ).initialGap = 0 := rfl
  simp only [standing, gap, overlap, free, together, positive, decide_false, Bool.and_false,
    Bool.false_eq_true, false_and, if_false]
  exact if_neg (apart_passing mass le_rfl)

end Kinematics

/-- What they slide in their first step. -/
theorem ContactRecord.displacement_passing {record : ContactRecord ℝ} (unmoved : record.shear = 0)
    (distance mass : ℝ) : record.displacement (.passing distance mass) false 1 = ⟨0, 1, 0⟩ := by
  have start : record.shearFor false = 0 := unmoved
  rw [displacement, start, Kinematics.slip_passing, Vec3.mul_one, zero_add]

namespace Material

/-- The force that would hold spheres that pass by each other. -/
theorem trialForce_passing (material : Material ℝ) (distance mass shear : ℝ) :
    material.trialForce (.passing distance mass) ⟨0, shear, 0⟩ =
      ⟨0, -(shear * material.tangentialStiffness + mass * material.slipDamping), 0⟩ := by
  rw [trialForce, Kinematics.slip_passing]
  ext
  · change -(0 * material.tangentialStiffness + 0 * (mass * material.slipDamping)) = 0
    ring
  · change -(shear * material.tangentialStiffness + 1 * (mass * material.slipDamping)) = _
    rw [one_mul]
  · change -(0 * material.tangentialStiffness + 0 * (mass * material.slipDamping)) = 0
    ring

/-- A bond across a gap of one radius whose particles pass by each other is
sheared off, and nothing is left of the contact. -/
theorem contact_within_limit_passingBy :
    let record : ContactRecord ℝ := .bonded (-1) (.bounded 1)
    let result := (standard : Material ℝ).evaluate (.passing 3 1) record false 1
    ∃ force, result.1 = .contact force ∧ force.sheared = true ∧ force.separated = true ∧
      force.force = 0 ∧ result.2.shear = 0 := by
  intro record result
  have overlap : (Kinematics.passing 3 1).overlap record.initialGap = 0 := by
    rw [Kinematics.overlap, Kinematics.distance_passing 1 three_pos]
    change (1 + 1 - 3 - -1 : ℝ) = 0
    norm_num
  have cohesive : record.isCohesive = true := rfl
  have engaged : (Kinematics.passing 3 1).standing record = .engaged 0 := by
    simp only [Kinematics.standing, overlap, cohesive, lt_irrefl, false_and, if_false,
      Bool.not_true, Bool.false_and, Bool.false_eq_true]
    exact if_neg (Kinematics.apart_passing 1 (by norm_num))
  let force := ((standard : Material ℝ).engage (.passing 3 1) record false 1 0).1
  have visited : (standard : Material ℝ).Contact (.passing 3 1) record false 1 force _ :=
    contact_engage engaged
  have contact : result.1 = .contact force := congrArg Prod.fst (evaluate_of_engaged engaged)
  obtain ⟨limit, -, -, sliding, -, breaks, sheared, -, separated, nothing⟩ :=
    contact_within_limit validate_standard one_pos one_pos record false 1 contact
  have normal : force.normal = 0 := by
    have rate : (standard : Material ℝ).normalRate (.passing 3 1) 0 = 0 := by
      simp only [normalRate, Kinematics.approach_passing, mul_zero, zero_mul, sub_zero]
    rw [visited.normal]
    exact (congrArg (· * (Kinematics.passing 3 1).distance) rate).trans (zero_mul _)
  have slides : force.sliding = true := by
    have start : record.shearFor false + (Kinematics.passing 3 1).slip * (1 : ℝ) = ⟨0, 1, 0⟩ :=
      ContactRecord.displacement_passing rfl 3 1
    have trial := (standard : Material ℝ).trialForce_passing 3 1 1
    apply sliding.mpr
    rw [start, Kinematics.tangentPart_passing]
    change _ ≤ Vec3.norm ((standard : Material ℝ).trialForce (.passing 3 1) ⟨0, 1, 0⟩)
    rw [trial, Vec3.norm_across, abs_neg, limit, normal, if_pos cohesive]
    change (1 / (2 : Nat) : ℝ) * |0| + Real.pi * min 1 1 * (100 : Nat) ≤
      |(1 : ℝ) * ((200000 : Nat) * (2 : Nat) / (7 : Nat)) + 1 * (25 : Nat)|
    have circle := Real.pi_le_four
    norm_num
    linarith
  have broken := breaks.mpr ⟨rfl, slides⟩
  have parted : force.separated = true := by
    apply separated.mpr ⟨broken, ?_⟩
    rw [Kinematics.distance_passing 1 three_pos]
    change (1 + 1 : ℝ) < 3
    norm_num
  obtain ⟨still, -, -, gone⟩ := nothing parted
  exact ⟨force, contact, sheared.mpr broken, parted, still, gone⟩

end Material

end GranularBonds

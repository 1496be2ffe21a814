import Mathlib
import GranularBonds.Proofs.Contact.Repetition

/-!
# Bonds at rest

A bond is formed so that it neither pushes nor pulls where it was formed.  There
a pair at rest stands at the border of two decisions.  Its overlap is zero, which
does not tear a bond, not even one without tensile strength.  Its tangential
force is zero, which reaches the limit exactly when the limit is zero.  Main
statement: a new bond with shear strength stays as it is, however often the pair
is visited at rest, and a new bond without it is sheared off by the first visit.
-/

namespace GranularBonds

variable {α : Type} [ExactScalar α]

/-- A visit of a pair with given radii and at a given distance, seen from either
side, that neither moves nor spins. -/
structure Visit.Rests (visit : Visit α) (first second distance : α) : Prop where
  radii : visit.HasRadii first second
  distance : visit.pair.distance = distance
  velocity : visit.pair.velocity = 0
  firstSpin : visit.pair.firstSpin = 0
  secondSpin : visit.pair.secondSpin = 0

/-- A bond that holds as it was formed at a given distance, without
displacement. -/
structure ContactRecord.Unstrained (record : ContactRecord α) (first second distance : α) :
    Prop where
  bond : record.bond = .bonded
  gap : record.initialGap = first + second - distance
  shear : record.shear = 0

/-- A contact that exerts nothing and has no overlap. -/
structure ContactForce.Idle (force : ContactForce α) : Prop where
  total : force.force = 0
  firstTorque : force.firstTorque = 0
  secondTorque : force.secondTorque = 0
  overlap : force.overlap = 0

/-- A bond is unstrained when it is formed. -/
theorem Material.unstrained_firstRecord {material : Material α} {first second distance : α}
    (near : distance ≤ material.bondDistance first second) :
    (material.firstRecord first second distance).Unstrained first second distance := by
  rw [firstRecord, if_pos near]
  exact ⟨rfl, rfl, rfl⟩

/-- Contact alone does not strain a bond. -/
theorem ContactRecord.Unstrained.touched {record : ContactRecord α} {first second distance : α}
    (unstrained : record.Unstrained first second distance) :
    record.touched.Unstrained first second distance :=
  ⟨unstrained.bond, unstrained.gap, unstrained.shear⟩

/-- Without slip and displacement nothing pulls in the contact plane. -/
theorem Material.trial_zero {material : Material α} {pair : Kinematics α} (still : pair.slip = 0) :
    material.trial pair 0 = 0 := by
  rw [trial, Kinematics.tangentPart_of_inPlane .zero, trialForce, still, Vec3.zero_mul,
    Vec3.zero_mul, add_zero, neg_zero]

/-! ## Visits at rest -/

namespace Visit.Rests

variable {visit : Visit α} {first second distance : α}

theorem approach (rests : visit.Rests first second distance) : visit.pair.approach = 0 := by
  rw [Kinematics.approach, rests.velocity, Vec3.zero_dot]

theorem slip (rests : visit.Rests first second distance) : visit.pair.slip = 0 := by
  simp only [Kinematics.slip, rests.approach, rests.velocity, rests.firstSpin, rests.secondSpin,
    zero_mul, Vec3.mul_zero, Vec3.zero_mul, Vec3.cross_zero, sub_zero, add_zero]

variable {record : ContactRecord α}

/-- Formation and evaluation see the same overlap. -/
theorem overlap (rests : visit.Rests first second distance)
    (unstrained : record.Unstrained first second distance) :
    visit.pair.overlap record.initialGap = 0 := by
  rw [Kinematics.overlap, rests.radii.radiusSum, rests.distance, unstrained.gap, sub_self]

/-- A pair at rest whose centers do not coincide is in contact under its bond.
The limit of the bond does not matter: nothing pulls at an overlap of zero. -/
theorem standing (rests : visit.Rests first second distance)
    (unstrained : record.Unstrained first second distance)
    (apart : Scalar.tiny ≤ distance * distance) :
    visit.pair.standing record = .engaged 0 := by
  have cohesive : record.isCohesive = true := record.isCohesive_iff.mpr unstrained.bond
  have square : visit.pair.distanceSquared = distance * distance := by
    rw [← rests.distance]
    exact (Vec3.norm_mul_self visit.pair.delta).symm
  simp only [Kinematics.standing, rests.overlap unstrained, cohesive, lt_irrefl, false_and,
    if_false, Bool.not_true, Bool.false_and, Bool.false_eq_true]
  rw [square]
  exact if_neg (not_lt.mpr apart)

/-- At rest there is nothing in the contact plane, and it slides when no force
is enough to reach the limit. -/
theorem plane_eq (rests : visit.Rests first second distance)
    (unstrained : record.Unstrained first second distance) (material : Material α) (limit : α) :
    material.plane visit.pair record visit.flipped visit.timestep limit =
      ⟨0, 0, decide (limit ≤ 0)⟩ := by
  have stored : record.shearFor visit.flipped = 0 :=
    (ContactRecord.turned_eq_zero_iff visit.flipped record.shear).mpr unstrained.shear
  have unmoved : record.displacement visit.pair visit.flipped visit.timestep = 0 := by
    rw [ContactRecord.displacement, stored, rests.slip, Vec3.zero_mul, add_zero]
  have pull : material.trial visit.pair 0 = 0 := Material.trial_zero rests.slip
  have flat : visit.pair.tangentPart 0 = 0 := Kinematics.tangentPart_of_inPlane .zero
  have length : (material.trial visit.pair 0).norm = 0 := by rw [pull, Vec3.norm_zero]
  rw [Material.plane, unmoved]
  by_cases reached : limit ≤ 0
  · have slack := Material.Limited.slack (length.symm ▸ reached)
      fun both => both.1.ne Vec3.norm_zero.symm
    rw [slack.tangential_eq, flat, decide_eq_true reached]
  · have held := Material.Limited.held (length.symm ▸ reached)
    rw [held.tangential_eq, flat, pull, decide_eq_false reached]

/-- A contact under an unstrained bond at rest exerts nothing.  Its bond is
sheared off when it adds nothing to the limit of the tangential force, and
otherwise the record is as it was, in contact. -/
theorem idle (rests : visit.Rests first second distance)
    (unstrained : record.Unstrained first second distance)
    (firstPositive : 0 < first) (secondPositive : 0 < second) {material : Material α}
    {force : ContactForce α} {after : ContactRecord α}
    (contact : material.Contact visit.pair record visit.flipped visit.timestep force after)
    (exit : record.Exit (.contact force) after) (level : force.overlap = 0) :
    force.Idle ∧ (force.sheared = true ↔ material.shearStrength ≤ 0) ∧
      (force.sheared = false → after = record.touched) := by
  have cohesive : record.isCohesive = true := record.isCohesive_iff.mpr unstrained.bond
  have rate : material.normalRate visit.pair force.overlap = 0 := by
    rw [level, Material.normalRate, rests.approach, mul_zero, zero_mul, mul_zero, zero_mul,
      sub_zero]
  have plane := rests.plane_eq unstrained material force.limit
  have still : force.tangential = 0 := by
    rw [contact.tangential, plane]
    exact ite_self 0
  have torque (radius : α) :
      -(visit.pair.delta.cross force.tangential * (1 / visit.pair.distance)) * radius = 0 := by
    rw [still, Vec3.cross_zero, Vec3.zero_mul, neg_zero, Vec3.zero_mul]
  have total : force.force = 0 := by
    rw [contact.total, still, rate, Vec3.mul_zero, ite_self, add_zero]
  refine ⟨⟨total, contact.firstTorque.trans (torque _), contact.secondTorque.trans (torque _),
    level⟩, ?_, ?_⟩
  · have smaller : 0 < min visit.pair.firstRadius visit.pair.secondRadius := by
      rcases rests.radii with ⟨rfl, rfl⟩ | ⟨rfl, rfl⟩
      · exact lt_min firstPositive secondPositive
      · exact lt_min secondPositive firstPositive
    have width : 0 < Scalar.pi * min visit.pair.firstRadius visit.pair.secondRadius :=
      mul_pos ExactScalar.pi_pos smaller
    have limit : force.limit =
        Scalar.pi * min visit.pair.firstRadius visit.pair.secondRadius *
          material.shearStrength := by
      rw [contact.limit, Material.shearLimit_eq, if_pos cohesive, contact.normal, rate, zero_mul,
        abs_zero, mul_zero, zero_add]
    rw [contact.sheared, contact.sliding, plane, cohesive, Bool.and_true, decide_eq_true_eq, limit,
      ← not_lt, ← not_lt, mul_pos_iff_of_pos_left width]
  · intro whole
    have kept : after.shear = 0 := by
      rw [contact.shear, plane]
      split
      · rfl
      · exact (ContactRecord.turned_eq_zero_iff visit.flipped 0).mpr rfl
    cases exit with
    | held force shear =>
        have same : shear = 0 := kept
        rw [same, ← unstrained.shear]
        rfl
    | sheared force shear cohesive sheared =>
        rw [sheared] at whole
        cases whole
    | severed force shear cohesive sheared =>
        rw [sheared] at whole
        cases whole

/-- A visit at rest under an unstrained bond. -/
theorem evaluate (rests : visit.Rests first second distance)
    (unstrained : record.Unstrained first second distance)
    (firstPositive : 0 < first) (secondPositive : 0 < second)
    (apart : Scalar.tiny ≤ distance * distance) (material : Material α) :
    ∃ force, (visit.evaluate material record).1 = .contact force ∧ force.Idle ∧
      (force.sheared = true ↔ material.shearStrength ≤ 0) ∧
      (force.sheared = false → (visit.evaluate material record).2 = record.touched) := by
  have engaged := rests.standing unstrained apart
  have evaluated : visit.evaluate material record = _ := Material.evaluate_of_engaged engaged
  rw [evaluated]
  exact ⟨_, rfl, rests.idle unstrained firstPositive secondPositive
    (Material.contact_engage engaged) (material.engage_exit ..) rfl⟩

end Visit.Rests

namespace Material

variable {material : Material α} {first second distance : α}

/-- A bond with shear strength stays as it is under any number of visits at
rest. -/
theorem follow_at_rest (firstPositive : 0 < first) (secondPositive : 0 < second)
    (apart : Scalar.tiny ≤ distance * distance) (strong : 0 < material.shearStrength)
    {record : ContactRecord α} (unstrained : record.Unstrained first second distance)
    {visits : List (Visit α)} (rest : ∀ visit ∈ visits, visit.Rests first second distance) :
    ∀ result ∈ material.follow record visits,
      (∃ force, result.1 = .contact force ∧ force.Idle) ∧ result.2 = record.touched := by
  induction visits generalizing record with
  | nil => exact List.forall_mem_nil _
  | cons visit later ih =>
      have here := (List.forall_mem_cons.mp rest).1
      have rest := (List.forall_mem_cons.mp rest).2
      rcases here.evaluate unstrained firstPositive secondPositive apart material with
        ⟨force, contact, idle, sheared, kept⟩
      have whole : force.sheared = false := by
        rw [← Bool.not_eq_true, sheared]
        exact not_le.mpr strong
      have after : (visit.evaluate material record).2 = record.touched := kept whole
      refine List.forall_mem_cons.mpr ⟨⟨⟨force, contact, idle⟩, after⟩, fun result member => ?_⟩
      obtain ⟨contact, same⟩ := ih (after ▸ unstrained.touched) rest result member
      have again : record.touched.touched = record.touched := rfl
      exact ⟨contact, (same.trans (congrArg ContactRecord.touched after)).trans again⟩

/-- A new bond rests exactly when it has shear strength.  Take the record of a
pair with positive radii that bonds at some distance of its centers at which
they do not coincide, and visits that find the pair at rest at this distance,
from whatever side and for whatever timestep.  With shear strength every one of
them is a contact without force, torque and overlap, and the record changes in
nothing but that the pair touches: the bond, its gap, its limit and the counters
stay, whatever the tensile strength.  Without shear strength the first visit
exerts nothing either, and it shears the bond off. -/
theorem newBond_at_rest (material : Material α) {first second distance : α}
    (firstPositive : 0 < first) (secondPositive : 0 < second)
    (near : distance ≤ material.bondDistance first second)
    (apart : Scalar.tiny ≤ distance * distance) :
    let bond := material.firstRecord first second distance
    bond.bond = .bonded ∧
      (0 < material.shearStrength → ∀ visits : List (Visit α),
        (∀ visit ∈ visits, visit.Rests first second distance) →
        ∀ result ∈ material.follow bond visits,
          (∃ force, result.1 = .contact force ∧ force.Idle) ∧ result.2 = bond.touched) ∧
      (material.shearStrength ≤ 0 → ∀ visit : Visit α, visit.Rests first second distance →
        ∃ force, (visit.evaluate material bond).1 = .contact force ∧ force.Idle ∧
          force.sheared = true ∧ (visit.evaluate material bond).2.bond = .brokenShear) := by
  intro bond
  have unstrained := unstrained_firstRecord near
  refine ⟨unstrained.bond, ?_, ?_⟩
  · intro strong visits rest
    exact follow_at_rest firstPositive secondPositive apart strong unstrained rest
  · intro weak visit rests
    rcases rests.evaluate unstrained firstPositive secondPositive apart material with
      ⟨force, contact, idle, sheared, -⟩
    have exit : bond.Exit (.contact force) (visit.evaluate material bond).2 := by
      rw [← contact]
      exact material.evaluate_exit ..
    exact ⟨force, contact, idle, sheared.mpr weak,
      (exit.sheared_iff.mp (sheared.mpr weak)).2⟩

/-- Unit spheres in touch, without tensile strength: their bond holds over two
visits.  Without shear strength it does not hold over one. -/
theorem newBond_at_rest_touching :
    let visit : Visit ℝ := ⟨.atRest ⟨2, 0, 0⟩ 1 1 1, false, 1⟩
    let brittle : Material ℝ := { (standard : Material ℝ) with tensileStrength := 0 }
    let slippery : Material ℝ := { (standard : Material ℝ) with shearStrength := 0 }
    (∀ result ∈ brittle.follow (brittle.firstRecord 1 1 2) [visit, visit],
        result.2.bond = .bonded) ∧
      (visit.evaluate slippery (slippery.firstRecord 1 1 2)).2.bond = .brokenShear := by
  intro visit brittle slippery
  have rests : visit.Rests 1 1 2 := by
    refine ⟨.inl ⟨rfl, rfl⟩, ?_, rfl, rfl, rfl⟩
    change Real.sqrt (2 * 2 + 0 * 0 + 0 * 0) = 2
    norm_num
  have near : (2 : ℝ) ≤ 1 + 1 + (1 - 1) * Scalar.minimum 1 1 := by norm_num
  have apart : (Scalar.tiny : ℝ) ≤ 2 * 2 := by
    have small : (2 : ℝ) ^ (-1022 : ℤ) ≤ 1 := zpow_le_one_of_nonpos₀ one_le_two (by decide)
    change (2 : ℝ) ^ (-1022 : ℤ) ≤ 2 * 2
    linarith
  have strong : 0 < brittle.shearStrength := by
    change (0 : ℝ) < (100 : Nat)
    norm_num
  obtain ⟨bonded, holds, -⟩ := newBond_at_rest brittle one_pos one_pos near apart
  obtain ⟨-, -, breaks⟩ := newBond_at_rest slippery one_pos one_pos near apart
  have rest : ∀ other ∈ [visit, visit], other.Rests 1 1 2 := by
    intro other member
    rw [List.mem_pair, or_self] at member
    exact member ▸ rests
  constructor
  · intro result member
    rw [(holds strong _ rest result member).2]
    exact bonded
  · rcases breaks le_rfl visit rests with ⟨force, -, -, -, broken⟩
    exact broken

end Material

end GranularBonds

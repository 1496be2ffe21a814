import Mathlib
import GranularBonds.Contact.ForceLaw
import GranularBonds.Contact.PairKey
import GranularBonds.Proofs.ExactArithmetic

/-!
# Reversal of a pair

A pair can be visited from either of its particles.  In exact arithmetic both
visits leave the same record, and the outcome of one is the outcome of the
other with its vectors reversed and its torques exchanged.  The law holds of
one visit, and therefore of whole histories in which the side is chosen anew
at every step.
-/

namespace GranularBonds

variable {α : Type} [ExactScalar α]

/-! ## What the other side sees -/

/-- The same contact as the second particle sees it. -/
def ContactForce.mirrored (force : ContactForce α) : ContactForce α :=
  { force with
    force := -force.force
    firstTorque := force.secondTorque
    secondTorque := force.firstTorque
    tangential := -force.tangential }

/-- The same outcome as the second particle sees it. -/
def Outcome.mirrored : Outcome α → Outcome α
  | separated => separated
  | torn overlap => torn overlap
  | coincident => coincident
  | contact force => contact force.mirrored

namespace ContactRecord

/-- The two sides of a pair see opposite displacements. -/
theorem turned_not (flipped : Bool) (shear : Vec3 α) :
    turned (!flipped) shear = -turned flipped shear := by
  cases flipped <;> simp [turned]

theorem shearFor_not (record : ContactRecord α) (flipped : Bool) :
    record.shearFor (!flipped) = -record.shearFor flipped :=
  turned_not flipped record.shear

/-- What one side stores is what the other side stores of the opposite
displacement. -/
theorem withShear_not_neg (record : ContactRecord α) (flipped : Bool) (shear : Vec3 α) :
    record.withShear (!flipped) (-shear) = record.withShear flipped shear := by
  cases flipped <;> simp [withShear, turned]

end ContactRecord

/-! ## Parity of the parts of the force law -/

namespace Kinematics

variable (pair : Kinematics α)

@[simp] theorem distanceSquared_reversed : pair.reversed.distanceSquared = pair.distanceSquared :=
  Vec3.normSquared_neg pair.delta

@[simp] theorem distance_reversed : pair.reversed.distance = pair.distance :=
  Vec3.norm_neg pair.delta

@[simp] theorem radiusSum_reversed : pair.reversed.radiusSum = pair.radiusSum :=
  add_comm pair.secondRadius pair.firstRadius

@[simp] theorem radiusMin_reversed : pair.reversed.radiusMin = pair.radiusMin :=
  Scalar.minimum_comm pair.secondRadius pair.firstRadius

@[simp] theorem inverseSquare_reversed : pair.reversed.inverseSquare = pair.inverseSquare := by
  simp only [inverseSquare, distanceSquared_reversed]

@[simp] theorem approach_reversed : pair.reversed.approach = pair.approach :=
  Vec3.neg_dot_neg pair.velocity pair.delta

@[simp] theorem overlap_reversed (initialGap : α) :
    pair.reversed.overlap initialGap = pair.overlap initialGap := by
  simp only [overlap, radiusSum_reversed, distance_reversed]

/-- Whether a pair is in contact does not depend on the side. -/
@[simp] theorem standing_reversed (record : ContactRecord α) :
    pair.reversed.standing record = pair.standing record := by
  simp only [standing, overlap_reversed, radiusSum_reversed, distance_reversed,
    distanceSquared_reversed]

@[simp] theorem slip_reversed : pair.reversed.slip = -pair.slip := by
  have straight : pair.reversed.velocity -
      pair.reversed.delta * (pair.reversed.approach * pair.reversed.inverseSquare) =
        -(pair.velocity - pair.delta * (pair.approach * pair.inverseSquare)) := by
    rw [approach_reversed, inverseSquare_reversed]
    simp only [reversed, Vec3.neg_mul]
    abel
  have rolling : pair.reversed.firstSpin * pair.reversed.firstRadius +
      pair.reversed.secondSpin * pair.reversed.secondRadius =
        pair.firstSpin * pair.firstRadius + pair.secondSpin * pair.secondRadius := by
    simp only [reversed]
    exact add_comm _ _
  simp only [slip]
  rw [straight, rolling, distance_reversed]
  simp only [reversed, Vec3.neg_cross]
  abel

@[simp] theorem tangentPart_reversed (shear : Vec3 α) :
    pair.reversed.tangentPart (-shear) = -pair.tangentPart shear := by
  have along : (-shear).dot pair.reversed.delta = shear.dot pair.delta :=
    Vec3.neg_dot_neg shear pair.delta
  simp only [tangentPart]
  rw [along, inverseSquare_reversed]
  simp only [reversed, Vec3.neg_mul]
  abel

end Kinematics

namespace Material

variable (material : Material α) (pair : Kinematics α)

@[simp] theorem normalRate_reversed (overlap : α) :
    material.normalRate pair.reversed overlap = material.normalRate pair overlap := by
  simp only [normalRate, Kinematics.distance_reversed, Kinematics.approach_reversed,
    Kinematics.inverseSquare_reversed]
  simp only [Kinematics.reversed]

@[simp] theorem shearLimit_reversed (cohesive : Bool) (normal : α) :
    material.shearLimit pair.reversed cohesive normal =
      material.shearLimit pair cohesive normal := by
  simp only [shearLimit, Kinematics.radiusMin_reversed]

@[simp] theorem trialForce_reversed (shear : Vec3 α) :
    material.trialForce pair.reversed (-shear) = -material.trialForce pair shear := by
  simp only [trialForce, Kinematics.slip_reversed, Vec3.neg_mul]
  simp only [Kinematics.reversed]
  abel

@[simp] theorem cutShear_reversed (shear : Vec3 α) (ratio : α) :
    material.cutShear pair.reversed (-shear) ratio = -material.cutShear pair shear ratio := by
  simp only [cutShear, Kinematics.slip_reversed, Vec3.neg_mul]
  split
  case isTrue =>
    simp only [Kinematics.reversed]
    rw [← neg_add, Vec3.neg_mul]
    abel
  case isFalse => rfl

end Material

/-- The tangential state as the second particle sees it. -/
def Tangential.mirrored (plane : Tangential α) : Tangential α :=
  ⟨-plane.shear, -plane.force, plane.sliding⟩

namespace Material

variable (material : Material α) (pair : Kinematics α)

theorem tangential_reversed (displacement : Vec3 α) (limit : α) :
    material.tangential pair.reversed (-displacement) limit =
      (material.tangential pair displacement limit).mirrored := by
  simp only [tangential, Kinematics.tangentPart_reversed, trialForce_reversed, Vec3.norm_neg,
    cutShear_reversed, Vec3.neg_mul]
  split
  · split
    · rfl
    · simp only [Tangential.mirrored, neg_zero]
  · rfl

theorem engage_reversed (record : ContactRecord α) (flipped : Bool) (timestep overlap : α) :
    material.engage pair.reversed record (!flipped) timestep overlap =
      ((material.engage pair record flipped timestep overlap).1.mirrored,
        (material.engage pair record flipped timestep overlap).2) := by
  have displaced : record.shearFor (!flipped) + pair.reversed.slip * timestep =
      -(record.shearFor flipped + pair.slip * timestep) := by
    rw [ContactRecord.shearFor_not, Kinematics.slip_reversed, Vec3.neg_mul, neg_add]
  simp only [engage, normalRate_reversed, Kinematics.distance_reversed, shearLimit_reversed,
    displaced, tangential_reversed, Kinematics.radiusSum_reversed,
    Kinematics.distanceSquared_reversed, Tangential.mirrored,
    ContactRecord.withShear_not_neg]
  generalize material.normalRate pair overlap = rate
  generalize material.tangential pair (record.shearFor flipped + pair.slip * timestep)
    (material.shearLimit pair record.isCohesive (rate * pair.distance)) = plane
  -- Only whether anything is left of the contact decides about its vectors.
  generalize (plane.sliding && record.isCohesive &&
    decide (pair.radiusSum * pair.radiusSum < pair.distanceSquared)) = separated
  cases separated with
  | true => simp [ContactForce.mirrored, Kinematics.reversed]
  | false =>
      simp only [Bool.false_eq_true, if_false, ContactForce.mirrored, Kinematics.reversed,
        Vec3.neg_mul, Vec3.neg_cross, Vec3.cross_neg, neg_neg, neg_add]

/-- A visit from the other side leaves the same record, and sees the mirrored
outcome. -/
theorem evaluate_reversed (record : ContactRecord α) (flipped : Bool) (timestep : α) :
    material.evaluate pair.reversed record (!flipped) timestep =
      ((material.evaluate pair record flipped timestep).1.mirrored,
        (material.evaluate pair record flipped timestep).2) := by
  simp only [evaluate, Kinematics.standing_reversed]
  cases pair.standing record with
  | separated => rfl
  | overstretched overlap => rfl
  | coincident => rfl
  | engaged overlap =>
      simp only [engage_reversed]
      rfl

end Material

/-! ## Histories of a pair -/

/-- One visit of a pair: its motion, the orientation in which it is seen, and
the length of the step. -/
structure Visit (α : Type) where
  pair : Kinematics α
  flipped : Bool
  timestep : α

/-- The same visit from the other side. -/
def Visit.turned (visit : Visit α) : Visit α :=
  { visit with pair := visit.pair.reversed, flipped := !visit.flipped }

namespace Material

/-- The visits of a history one after the other, each with its outcome and the
record that it leaves. -/
def follow (material : Material α) (record : ContactRecord α) :
    List (Visit α) → List (Outcome α × ContactRecord α)
  | [] => []
  | visit :: later =>
      let result := material.evaluate visit.pair record visit.flipped visit.timestep
      result :: material.follow result.2 later

/-- A visit whose side is chosen freely. -/
theorem evaluate_side (material : Material α) (record : ContactRecord α) (visit : Visit α)
    (other : Bool) :
    let seen := if other then visit.turned else visit
    let result := material.evaluate visit.pair record visit.flipped visit.timestep
    material.evaluate seen.pair record seen.flipped seen.timestep =
      (if other then result.1.mirrored else result.1, result.2) := by
  cases other with
  | true => exact material.evaluate_reversed visit.pair record visit.flipped visit.timestep
  | false => rfl

/-- In exact arithmetic it does not matter from which side a pair is visited,
however the sides alternate: every visit leaves the record that it leaves from
the first side, and its outcome is the same up to mirroring where the side is
the other one.  The two orders of two tags stand for the two sides. -/
theorem follow_sides (material : Material α) (record : ContactRecord α)
    (plan : List (Visit α × Bool)) :
    material.follow record
        (plan.map fun (visit, other) => if other then visit.turned else visit) =
      List.zipWith
        (fun (_, other) (outcome, after) =>
          (if other then outcome.mirrored else outcome, after))
        plan (material.follow record (plan.map Prod.fst)) ∧
    ∀ first second : Tag, first ≠ second →
      (PairKey.oriented second first).1 = (PairKey.oriented first second).1 ∧
        (PairKey.oriented second first).2 = !(PairKey.oriented first second).2 := by
  constructor
  · induction plan generalizing record with
    | nil => rfl
    | cons step later ih =>
        rcases step with ⟨visit, other⟩
        simp only [List.map_cons, follow, List.zipWith_cons_cons]
        rw [material.evaluate_side record visit other, ih]
  · intro first second different
    exact ⟨PairKey.ofTags_comm second first, PairKey.oriented_swap_snd different⟩

end Material

end GranularBonds

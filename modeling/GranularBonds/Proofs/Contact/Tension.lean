import Mathlib
import GranularBonds.Bonding
import GranularBonds.Proofs.Contact.Pass
import GranularBonds.Proofs.Contact.Past
import GranularBonds.Proofs.ExactArithmetic

/-!
# Bonds under tension

A bond tears when its pair is first pulled apart, beyond the distance at which
it bonded, by as much as the bond allows.  The gap and the limit are fixed when
the bond forms and do not change as long as it holds, so the law holds at every
visit of a course, whatever the visits before it did.
-/

namespace GranularBonds

/-! ## Tearing as a standing -/

section Standing

variable {α : Type} [Scalar α]

/-- A pair is overstretched when its bond holds and its overlap is below zero
by its limit or more.  Nothing else about the pair counts. -/
theorem Kinematics.standing_eq_overstretched_iff {pair : Kinematics α} {record : ContactRecord α}
    {overlap : α} :
    pair.standing record = .overstretched overlap ↔
      record.isCohesive = true ∧ overlap = pair.overlap record.initialGap ∧ overlap < 0 ∧
        record.tensileLimit.isReachedBy (Scalar.abs overlap) = true := by
  constructor
  · intro standing
    have cohesive := pair.isCohesive_of_standing_overstretched record standing
    simp only [Kinematics.standing, cohesive, Bool.not_true, Bool.false_and, Bool.false_eq_true,
      and_false, if_false] at standing
    split at standing
    case isTrue stretched =>
      rw [← Standing.overstretched.inj standing]
      exact ⟨cohesive, rfl, stretched⟩
    case isFalse => split at standing <;> cases standing
  · intro found
    rcases found with ⟨cohesive, rfl, stretched⟩
    simp only [Kinematics.standing, cohesive, Bool.not_true, Bool.false_and, Bool.false_eq_true,
      and_false, if_false, if_pos stretched]

theorem Visit.evaluate_eq_torn_iff {material : Material α} {visit : Visit α}
    {record : ContactRecord α} {overlap : α} :
    (visit.evaluate material record).1 = .torn overlap ↔
      visit.pair.standing record = .overstretched overlap := by
  simp only [Visit.evaluate, Material.evaluate]
  cases visit.pair.standing record <;> simp

/-- A visit that tears the bond leaves the pair apart, without displacement
and without a bond. -/
theorem Visit.evaluate_of_torn {material : Material α} {visit : Visit α}
    {record : ContactRecord α} {overlap : α}
    (torn : (visit.evaluate material record).1 = .torn overlap) :
    (visit.evaluate material record).2.shear = 0 ∧
      (visit.evaluate material record).2.touching = false ∧
      (visit.evaluate material record).2.isCohesive = false := by
  have standing := Visit.evaluate_eq_torn_iff.mp torn
  have cohesive : record.apart.isCohesive = true :=
    (Kinematics.standing_eq_overstretched_iff.mp standing).1
  simp only [Visit.evaluate, Material.evaluate, standing, ContactRecord.torn, if_pos cohesive]
  exact ⟨rfl, rfl, rfl⟩

/-- A bond that is gone stays gone. -/
theorem Material.isCohesive_recordAfter_of_free (material : Material α)
    {record : ContactRecord α} (free : record.isCohesive = false) (visits : List (Visit α)) :
    (material.recordAfter record visits).isCohesive = false := by
  cases cohesive : (material.recordAfter record visits).isCohesive with
  | false => rfl
  | true =>
      have held := ((material.continues_recordAfter record visits).of_isCohesive cohesive).1
      rw [free] at held
      cases held

end Standing

variable {α : Type} [ExactScalar α]

/-! ## Limits of tension -/

/-- What a visit sees of a pair with given radii, from either side. -/
def Visit.HasRadii (visit : Visit α) (first second : α) : Prop :=
  (visit.pair.firstRadius = first ∧ visit.pair.secondRadius = second) ∨
    (visit.pair.firstRadius = second ∧ visit.pair.secondRadius = first)

theorem Visit.HasRadii.radiusSum {visit : Visit α} {first second : α}
    (radii : visit.HasRadii first second) : visit.pair.radiusSum = first + second := by
  rcases radii with ⟨rfl, rfl⟩ | ⟨rfl, rfl⟩
  · rfl
  · exact add_comm _ _

namespace Material

variable {material : Material α}

/-- A material is valid when no constant is below zero and the friction is
within its limit. -/
theorem validate_eq_ok_iff :
    material.validate = .ok () ↔
      (∀ constant ∈ material.named, 0 ≤ constant.2) ∧
        material.friction ≤ (frictionLimit : α) := by
  have accepted : ∀ constant : String × α,
      checkConstant constant.1 constant.2 = .ok () ↔ 0 ≤ constant.2 := by
    intro constant
    simp only [checkConstant, Scalar.isFinite, Bool.not_true, Bool.false_eq_true, if_false]
    split
    case isTrue below => simpa using below
    case isFalse above => simpa using above
  have constants : (forM material.named fun constant => checkConstant constant.1 constant.2) =
      .ok () ↔ ∀ constant ∈ material.named, 0 ≤ constant.2 := by
    rw [forM_eq_ok_iff]
    exact forall₂_congr fun constant _ => accepted constant
  rw [← constants]
  constructor
  · intro valid
    rcases bind_eq_ok_iff.mp valid with ⟨_, checked, within⟩
    refine ⟨checked, ?_⟩
    by_contra above
    rw [if_pos (not_le.mp above)] at within
    cases within
  · intro found
    rcases found with ⟨checked, within⟩
    exact bind_eq_ok_iff.mpr ⟨(), checked, if_neg (not_lt.mpr within)⟩

/-- The pull at which a bond between particles of given radii tears. -/
def tensileForce (material : Material α) (first second : α) : α :=
  Scalar.pi * min first second * material.tensileStrength

theorem tensileForce_nonneg (valid : material.validate = .ok ()) {first second : α}
    (firstPositive : 0 < first) (secondPositive : 0 < second) :
    0 ≤ material.tensileForce first second := by
  have strength : 0 ≤ material.tensileStrength :=
    (validate_eq_ok_iff.mp valid).1 ("tensile_strength", _) (by simp [named])
  have circle : 0 < (Scalar.pi : α) := ExactScalar.pi_pos
  exact mul_nonneg (mul_nonneg circle.le (lt_min firstPositive secondPositive).le) strength

/-- The limit that a bond gets is the stretch at which the spring pulls with
the tensile force. -/
theorem nonnegative_tensileLimit (valid : material.validate = .ok ()) {first second : α}
    (firstPositive : 0 < first) (secondPositive : 0 < second)
    (stiff : 0 < material.normalStiffness) :
    (material.tensileLimit (Scalar.minimum first second)).nonnegative =
      .bounded (material.tensileForce first second / material.normalStiffness) := by
  have bound := div_nonneg (tensileForce_nonneg valid firstPositive secondPositive) stiff.le
  rw [tensileLimit, if_pos stiff, Scalar.minimum_eq_min]
  simp only [TensileLimit.nonnegative, Scalar.nonnegativePart]
  split
  case isTrue => rfl
  case isFalse notPositive =>
    exact congrArg TensileLimit.bounded (le_antisymm bound (not_lt.mp notPositive))

/-- A bond remembers the overlap and the limit with which it was formed, as
long as it holds. -/
theorem bond_recordAfter {first second start : α}
    (bonded : (material.firstRecord first second start).isCohesive = true)
    (visits : List (Visit α))
    (held : (material.recordAfter (material.firstRecord first second start) visits).isCohesive =
      true) :
    (material.recordAfter (material.firstRecord first second start) visits).initialGap =
        first + second - start ∧
      (material.recordAfter (material.firstRecord first second start) visits).tensileLimit =
        (material.tensileLimit (Scalar.minimum first second)).nonnegative := by
  have formed : material.firstRecord first second start =
      .bonded (first + second - start)
        (material.tensileLimit (Scalar.minimum first second)) := by
    unfold firstRecord at bonded ⊢
    split at bonded
    case isTrue near => rw [if_pos near]
    case isFalse => cases bonded
  obtain ⟨-, gap, limit⟩ := (material.continues_recordAfter _ visits).of_isCohesive held
  rw [gap, limit, formed]
  exact ⟨rfl, rfl⟩

/-- A visit tears a bond that was formed at some distance when the bond holds
until then, the pair is farther apart, and its limit is reached. -/
theorem evaluate_torn_iff {first second start : α}
    (bonded : (material.firstRecord first second start).isCohesive = true)
    (earlier : List (Visit α)) {visit : Visit α} (radii : visit.HasRadii first second) :
    let before := material.recordAfter (material.firstRecord first second start) earlier
    (∃ overlap, (visit.evaluate material before).1 = .torn overlap) ↔
      before.isCohesive = true ∧ start < visit.pair.distance ∧
        (material.tensileLimit (Scalar.minimum first second)).nonnegative.isReachedBy
          (visit.pair.distance - start) = true := by
  intro before
  have overlap : before.isCohesive = true →
      visit.pair.overlap before.initialGap = start - visit.pair.distance := by
    intro held
    rw [Kinematics.overlap, radii.radiusSum, (bond_recordAfter bonded earlier held).1]
    ring
  have apart : start < visit.pair.distance → Scalar.abs (start - visit.pair.distance) =
      visit.pair.distance - start := by
    intro farther
    exact (abs_of_neg (sub_neg.mpr farther)).trans (neg_sub _ _)
  simp only [Visit.evaluate_eq_torn_iff, Kinematics.standing_eq_overstretched_iff]
  constructor
  · intro found
    rcases found with ⟨_, held, rfl, negative, reached⟩
    rw [overlap held] at negative reached
    have farther : start < visit.pair.distance := sub_neg.mp negative
    rw [apart farther, (bond_recordAfter bonded earlier held).2] at reached
    exact ⟨held, farther, reached⟩
  · intro found
    rcases found with ⟨held, farther, reached⟩
    refine ⟨start - visit.pair.distance, held, (overlap held).symm, sub_neg.mpr farther, ?_⟩
    rw [apart farther, (bond_recordAfter bonded earlier held).2]
    exact reached

/-- A bond tears at first passage.  Take a bond of a validated material, formed
at some distance, and any course of visits of its pair.  With stiffness, a
visit tears the bond exactly when the bond holds until then and the pair is
pulled beyond the distance of its forming by the tensile force over the
stiffness or more; a visit that finds the bond holding and does not tear it
pulls with less than the tensile force.  Whatever tears the bond exerts no
force and leaves the pair apart without displacement, and no later visit tears
it again.  Without stiffness nothing tears it. -/
theorem torn_iff_first_passage (valid : material.validate = .ok ()) {first second start : α}
    (firstPositive : 0 < first) (secondPositive : 0 < second)
    (bonded : (material.firstRecord first second start).isCohesive = true)
    (earlier : List (Visit α)) {visit : Visit α} (radii : visit.HasRadii first second) :
    let before := material.recordAfter (material.firstRecord first second start) earlier
    let result := visit.evaluate material before
    (0 < material.normalStiffness →
      ((∃ overlap, result.1 = .torn overlap) ↔
        before.isCohesive = true ∧ start < visit.pair.distance ∧
          Scalar.pi * min first second * material.tensileStrength / material.normalStiffness ≤
            visit.pair.distance - start) ∧
      ((¬∃ overlap, result.1 = .torn overlap) → before.isCohesive = true →
        start < visit.pair.distance →
          material.normalStiffness * (visit.pair.distance - start) <
            Scalar.pi * min first second * material.tensileStrength)) ∧
    (∀ overlap, result.1 = .torn overlap →
      result.1.force? = none ∧ result.2.shear = 0 ∧ result.2.touching = false ∧
        ∀ between (next : Visit α) nextOverlap,
          (next.evaluate material (material.recordAfter result.2 between)).1 ≠
            .torn nextOverlap) ∧
    (material.normalStiffness = 0 → ∀ overlap, result.1 ≠ .torn overlap) := by
  intro before result
  have tears := evaluate_torn_iff bonded earlier radii
  refine ⟨fun stiff => ?_, fun overlap torn => ?_, fun soft overlap torn => ?_⟩
  · have passage : (∃ overlap, result.1 = .torn overlap) ↔
        before.isCohesive = true ∧ start < visit.pair.distance ∧
          material.tensileForce first second / material.normalStiffness ≤
            visit.pair.distance - start := by
      rw [nonnegative_tensileLimit valid firstPositive secondPositive stiff] at tears
      simpa only [TensileLimit.isReachedBy, decide_eq_true_eq] using tears
    refine ⟨passage, fun whole held farther => ?_⟩
    have within : visit.pair.distance - start <
        material.tensileForce first second / material.normalStiffness := by
      by_contra reached
      exact whole (passage.mpr ⟨held, farther, not_lt.mp reached⟩)
    rw [mul_comm]
    exact (lt_div_iff₀ stiff).mp within
  · obtain ⟨shear, apart, free⟩ := Visit.evaluate_of_torn torn
    refine ⟨by rw [torn]; rfl, shear, apart, fun between next nextOverlap again => ?_⟩
    -- What would tear again would need a bond.
    have gone := material.isCohesive_recordAfter_of_free free between
    have held := (Kinematics.standing_eq_overstretched_iff.mp
      (Visit.evaluate_eq_torn_iff.mp again)).1
    rw [gone] at held
    cases held
  · have reached := (tears.mp ⟨overlap, torn⟩).2.2
    rw [tensileLimit, if_neg (by rw [soft]; exact lt_irrefl _)] at reached
    simp [TensileLimit.nonnegative, TensileLimit.isReachedBy, Scalar.isInfinite,
      Scalar.isFinite] at reached

theorem validate_standard : (standard : Material ℝ).validate = .ok () := by
  rw [validate_eq_ok_iff]
  have nonneg (count : Nat) : (0 : ℝ) ≤ (Scalar.toNatCast : NatCast ℝ).natCast count :=
    Nat.cast_nonneg (α := ℝ) count
  constructor
  · simp only [named, standard, List.forall_mem_cons]
    exact ⟨nonneg _, div_nonneg (mul_nonneg (nonneg _) (nonneg _)) (nonneg _), nonneg _, nonneg _,
      div_nonneg zero_le_one (nonneg _), nonneg _, nonneg _, zero_le_one, List.forall_mem_nil _⟩
  · change (1 : ℝ) / (2 : Nat) ≤ (10000 : Nat)
    norm_num

/-- A sphere that bonded to another one in touch with it is pulled away by its
own radius, and the bond tears at once. -/
theorem torn_iff_first_passage_pulledAway :
    let visit : Visit ℝ := ⟨.atRest ⟨3, 0, 0⟩ 1 1 1, false, 1⟩
    let result := visit.evaluate .standard ((standard : Material ℝ).firstRecord 1 1 2)
    (∃ overlap, result.1 = .torn overlap) ∧ result.2.touching = false := by
  intro visit result
  have bonded : ((standard : Material ℝ).firstRecord 1 1 2).isCohesive = true := by
    rw [firstRecord, if_pos]
    · rfl
    · change (2 : ℝ) ≤ 1 + 1 + (1 - 1) * Scalar.minimum 1 1
      norm_num
  have distance : visit.pair.distance = 3 := by
    change Real.sqrt (3 * 3 + 0 * 0 + 0 * 0) = 3
    norm_num
  have stiff : 0 < (standard : Material ℝ).normalStiffness := by
    change (0 : ℝ) < (200000 : Nat)
    norm_num
  have radii : visit.HasRadii 1 1 := .inl ⟨rfl, rfl⟩
  obtain ⟨passage, parted, -⟩ :=
    torn_iff_first_passage validate_standard one_pos one_pos bonded [] radii
  have torn : ∃ overlap, result.1 = .torn overlap := by
    refine (passage stiff).1.mpr ⟨bonded, ?_, ?_⟩
    · rw [distance]
      norm_num
    · rw [distance]
      change Real.pi * min 1 1 * (100 : Nat) / (200000 : Nat) ≤ 3 - 2
      have circle := Real.pi_le_four
      norm_num
      linarith
  rcases torn with ⟨overlap, torn⟩
  exact ⟨⟨overlap, torn⟩, (parted overlap torn).2.2.1⟩

end Material

end GranularBonds

import Mathlib
import GranularBonds.Proofs.Contact.Plane

/-!
# Visits that are repeated

When the limit cuts a tangential force down, the displacement is cut with it so
that the same force comes out again.  So a pair without a bond that is visited a
second time in the same motion, without further displacement, does what it did.
There is one exception: the force is not zero and all of its displacement was
cut away, so that the second visit finds nothing to slide.
-/

namespace GranularBonds

/-! ## Contacts without a bond -/

section Frictional

variable {α : Type} [Scalar α]

/-- The contact of a pair without a bond, with a given force in its plane. -/
def Material.frictional (material : Material α) (pair : Kinematics α) (overlap : α)
    (plane : Tangential α) : ContactForce α :=
  let rate := material.normalRate pair overlap
  let twist : Vec3 α := pair.delta.cross plane.force * (1 / pair.distance)
  { force := pair.delta * rate + plane.force
    firstTorque := -twist * pair.firstRadius
    secondTorque := -twist * pair.secondRadius
    tangential := plane.force
    normal := rate * pair.distance
    limit := material.shearLimit pair false (rate * pair.distance)
    overlap
    sliding := plane.sliding
    sheared := false
    separated := false }

/-- The limit of a contact without a bond. -/
def Material.frictionLimitOf (material : Material α) (pair : Kinematics α) (overlap : α) : α :=
  material.shearLimit pair false (material.normalRate pair overlap * pair.distance)

theorem Material.engage_of_free (material : Material α) (pair : Kinematics α)
    {record : ContactRecord α} (free : record.isCohesive = false) (flipped : Bool)
    (timestep overlap : α) :
    let plane := material.plane pair record flipped timestep (material.frictionLimitOf pair overlap)
    material.engage pair record flipped timestep overlap =
      (material.frictional pair overlap plane, (record.withShear flipped plane.shear).touched) := by
  simp only [engage, free, Bool.and_false, Bool.false_and, Bool.false_eq_true, if_false]
  rfl

end Frictional

variable {α : Type} [ExactScalar α]

/-- A displacement that was stored in one visit is read as it was by the
next. -/
theorem ContactRecord.displacement_stored (record : ContactRecord α) (pair : Kinematics α)
    (flipped : Bool) (shear : Vec3 α) :
    (record.withShear flipped shear).touched.displacement pair flipped 0 = shear := by
  have stored : (record.withShear flipped shear).touched.shearFor flipped = shear := by
    cases flipped with
    | true => exact neg_neg shear
    | false => rfl
  rw [displacement, stored, Vec3.mul_zero, add_zero]

theorem ContactRecord.turned_eq_zero_iff (flipped : Bool) (shear : Vec3 α) :
    ContactRecord.turned flipped shear = 0 ↔ shear = 0 := by
  cases flipped with
  | true => exact neg_eq_zero
  | false => exact Iff.rfl

/-! ## Displacements that pull as a damper does -/

namespace Material

variable {material : Material α} {pair : Kinematics α}

/-- The displacement that would pull as the damper does. -/
def damperShare (material : Material α) (pair : Kinematics α) : Vec3 α :=
  pair.slip * (pair.mass * material.slipDamping / material.tangentialStiffness)

theorem cutShear_of_stiff (stiff : 0 < material.tangentialStiffness) (shear : Vec3 α) (ratio : α) :
    material.cutShear pair shear ratio =
      (shear + material.damperShare pair) * ratio - material.damperShare pair :=
  if_pos stiff

/-- Spring and damper together pull as a spring of the displacement and the
damper's share does. -/
theorem trialForce_of_stiff (stiff : 0 < material.tangentialStiffness) (shear : Vec3 α) :
    material.trialForce pair shear =
      -((shear + material.damperShare pair) * material.tangentialStiffness) := by
  have damper : pair.slip * (pair.mass * material.slipDamping) =
      material.damperShare pair * material.tangentialStiffness := by
    rw [damperShare, Vec3.mul_mul, div_mul_cancel₀ _ stiff.ne']
  rw [trialForce, damper, Vec3.add_mul]

/-- The displacement that goes with a cut force brings the cut force out
again. -/
theorem trialForce_cutShear (stiff : 0 < material.tangentialStiffness) (shear : Vec3 α)
    (ratio : α) :
    material.trialForce pair (material.cutShear pair shear ratio) =
      material.trialForce pair shear * ratio := by
  rw [trialForce_of_stiff stiff, trialForce_of_stiff stiff, cutShear_of_stiff stiff,
    sub_add_cancel, Vec3.neg_mul, Vec3.mul_mul, Vec3.mul_mul, mul_comm ratio]

theorem cutShear_one (stiff : 0 < material.tangentialStiffness) (shear : Vec3 α) :
    material.cutShear pair shear 1 = shear := by
  rw [cutShear_of_stiff stiff, Vec3.mul_one, add_sub_cancel_right]

theorem trial_of_inPlane {shear : Vec3 α} (inside : pair.InPlane shear) :
    material.trial pair shear = material.trialForce pair shear := by
  rw [trial, Kinematics.tangentPart_of_inPlane inside]

end Material

/-! ## Limits that are applied again -/

namespace Material

variable {material : Material α} {pair : Kinematics α} {displacement : Vec3 α} {limit : α}
  {plane : Tangential α}

/-- What is in the plane already pulls as it did before it was brought there. -/
theorem trial_tangentPart (apart : pair.distanceSquared ≠ 0) (displacement : Vec3 α) :
    material.trial pair (pair.tangentPart displacement) = material.trial pair displacement :=
  material.trial_of_inPlane (Kinematics.tangentPart_inPlane apart displacement)

/-- A displacement that was cut brings the cut force out again. -/
theorem trial_cutShear (apart : pair.distanceSquared ≠ 0)
    (stiff : 0 < material.tangentialStiffness) (displacement : Vec3 α) (ratio : α) :
    material.trial pair (material.cutShear pair (pair.tangentPart displacement) ratio) =
      material.trial pair displacement * ratio := by
  have inside := Kinematics.tangentPart_inPlane apart displacement
  rw [trial_of_inPlane (cutShear_inPlane apart inside ratio), trialForce_cutShear stiff]
  rfl

/-- A limit leaves alone what it left before, unless its force is not zero and
all of its displacement was cut away. -/
theorem Limited.again (limited : material.Limited pair displacement limit plane)
    (apart : pair.distanceSquared ≠ 0) (stiff : 0 < material.tangentialStiffness)
    (nonnegative : 0 ≤ limit)
    (lasting : plane.sliding = true → displacement ≠ 0 →
      material.trial pair displacement ≠ 0 → 0 < limit → plane.shear ≠ 0) :
    material.Limited pair plane.shear limit plane := by
  have kept : pair.tangentPart plane.shear = plane.shear :=
    Kinematics.tangentPart_of_inPlane (limited.inPlane apart).1
  cases limited with
  | held below =>
      have pull := material.trial_tangentPart apart displacement
      have held := Limited.held (pull.symm ▸ below)
      rw [kept, pull] at held
      exact held
  | cut reached moved loaded =>
      have pull := material.trial_cutShear apart stiff displacement
        (limit / (material.trial pair displacement).norm)
      have length := norm_cut (material.trial pair displacement) nonnegative loaded
      rw [← pull] at length
      rcases nonnegative.lt_or_eq with positive | zero
      · have left := lasting rfl (Vec3.norm_pos_iff.mp moved) (Vec3.norm_pos_iff.mp loaded) positive
        have cut := Limited.cut length.ge (Vec3.norm_pos_iff.mpr left) (length.symm ▸ positive)
        rw [kept, length, div_self positive.ne', cutShear_one stiff, Vec3.mul_one, pull] at cut
        exact cut
      · have nothing : material.trial pair displacement *
            (limit / (material.trial pair displacement).norm) = 0 := by
          rw [← pull, ← Vec3.norm_eq_zero_iff, length, ← zero]
        have slack := Limited.slack length.ge fun both => (zero.trans length.symm).not_lt both.2
        rw [kept] at slack
        rw [nothing]
        exact slack
  | slack reached idle =>
      have pull := material.trial_tangentPart apart displacement
      have moved : 0 < (pair.tangentPart displacement).norm → 0 < displacement.norm := by
        intro left
        rw [Vec3.norm_pos_iff] at left ⊢
        intro none
        apply left
        rw [none]
        exact Kinematics.tangentPart_of_inPlane .zero
      have slack := Limited.slack (pull.symm ▸ reached)
        fun both => idle ⟨moved both.1, pull ▸ both.2⟩
      rw [kept] at slack
      exact slack

/-- Where all displacement was cut away, the damper alone pulls with the
limit. -/
theorem Limited.norm_trial_of_shear_eq_zero
    (limited : material.Limited pair displacement limit plane)
    (apart : pair.distanceSquared ≠ 0) (stiff : 0 < material.tangentialStiffness)
    (nonnegative : 0 ≤ limit) (sliding : plane.sliding = true) (moved : displacement ≠ 0)
    (loaded : material.trial pair displacement ≠ 0) (gone : plane.shear = 0) :
    (material.trial pair 0).norm = limit := by
  cases limited with
  | held => cases sliding
  | slack reached idle =>
      exact absurd ⟨Vec3.norm_pos_iff.mpr moved, Vec3.norm_pos_iff.mpr loaded⟩ idle
  | cut reached moved loaded =>
      change material.cutShear pair _ _ = 0 at gone
      rw [← gone, material.trial_cutShear apart stiff]
      exact norm_cut _ nonnegative loaded

/-- Then nothing is left to slide. -/
theorem again_of_norm_trial (damped : (material.trial pair 0).norm = limit) :
    material.Limited pair 0 limit ⟨0, 0, true⟩ := by
  have kept : pair.tangentPart 0 = 0 := Kinematics.tangentPart_of_inPlane .zero
  have slack := Limited.slack damped.ge fun both => Vec3.norm_pos_iff.mp both.1 rfl
  rw [kept] at slack
  exact slack

end Material

/-! ## Visits -/

namespace Material

/-- A visit exhausts the displacement of its pair when it finds a contact that
slides, with a displacement and a force that could be cut, and leaves no
displacement although a force is allowed. -/
def Exhausts (material : Material α) (pair : Kinematics α) (record : ContactRecord α)
    (flipped : Bool) (timestep : α) : Prop :=
  ∃ force, (material.evaluate pair record flipped timestep).1 = .contact force ∧
    force.sliding = true ∧ record.displacement pair flipped timestep ≠ 0 ∧
    material.trial pair (record.displacement pair flipped timestep) ≠ 0 ∧ 0 < force.limit ∧
    (material.evaluate pair record flipped timestep).2.shear = 0

variable {material : Material α} {pair : Kinematics α} {record : ContactRecord α} {flipped : Bool}
  {timestep : α}

theorem frictionLimitOf_nonneg (valid : material.validate = .ok ()) (pair : Kinematics α)
    (overlap : α) : 0 ≤ material.frictionLimitOf pair overlap := by
  have friction : 0 ≤ material.friction :=
    (validate_eq_ok_iff.mp valid).1 ("friction_coefficient", _) (by simp [named])
  exact mul_nonneg friction (abs_nonneg _)

/-- A pair without a bond that was found in contact is found so again, and the
next visit goes on from the displacement that was left. -/
theorem evaluate_again_of_engaged (material : Material α) (flipped : Bool) (timestep : α)
    {overlap : α} (free : record.isCohesive = false)
    (engaged : pair.standing record = .engaged overlap) :
    let limit := material.frictionLimitOf pair overlap
    let plane := material.plane pair record flipped timestep limit
    let later := material.tangential pair plane.shear limit
    material.evaluate pair record flipped timestep =
        (.contact (material.frictional pair overlap plane),
          (record.withShear flipped plane.shear).touched) ∧
      material.evaluate pair (record.withShear flipped plane.shear).touched flipped 0 =
        (.contact (material.frictional pair overlap later),
          (record.withShear flipped later.shear).touched) := by
  intro limit plane later
  constructor
  · rw [evaluate_of_engaged engaged, engage_of_free material pair free]
  · have again : pair.standing (record.withShear flipped plane.shear).touched = .engaged overlap :=
      engaged
    have loose : (record.withShear flipped plane.shear).touched.isCohesive = false := free
    rw [evaluate_of_engaged again, engage_of_free material pair loose, Material.plane,
      ContactRecord.displacement_stored]
    rfl

/-- A visit that leaves some displacement, or has no force, is repeated without
any difference. -/
theorem evaluate_again_of_not_exhausts (valid : material.validate = .ok ())
    (stiff : 0 < material.tangentialStiffness) (free : record.isCohesive = false)
    (lasting : ¬material.Exhausts pair record flipped timestep) :
    material.evaluate pair (material.evaluate pair record flipped timestep).2 flipped 0 =
      material.evaluate pair record flipped timestep := by
  cases standing : pair.standing record with
  | separated =>
      have again : pair.standing record.apart = .separated := standing
      simp only [evaluate, standing, again]
      rfl
  | overstretched overlap =>
      have cohesive := pair.isCohesive_of_standing_overstretched record standing
      rw [free] at cohesive
      cases cohesive
  | coincident =>
      have again : pair.standing record.touched = .coincident := standing
      simp only [evaluate, standing, again]
      rfl
  | engaged overlap =>
      obtain ⟨first, second⟩ :=
        material.evaluate_again_of_engaged flipped timestep free standing
      have limited := material.tangential_limited pair
        (record.displacement pair flipped timestep) (material.frictionLimitOf pair overlap)
      have same := limited.again (Kinematics.distanceSquared_pos_of_engaged standing).ne' stiff
        (frictionLimitOf_nonneg valid pair overlap) (by
          intro sliding moved loaded positive gone
          apply lasting
          rw [Exhausts, first]
          exact ⟨_, rfl, sliding, moved, loaded, positive,
            (ContactRecord.turned_eq_zero_iff flipped _).mpr gone⟩)
      rw [first, second]
      simp only [plane, same.tangential_eq]

/-- What is known of a visit that exhausts its displacement. -/
theorem Exhausts.parts (valid : material.validate = .ok ())
    (stiff : 0 < material.tangentialStiffness) (free : record.isCohesive = false)
    (exhausts : material.Exhausts pair record flipped timestep) :
    ∃ overlap, pair.standing record = .engaged overlap ∧
      let limit := material.frictionLimitOf pair overlap
      let plane := material.plane pair record flipped timestep limit
      plane.shear = 0 ∧ plane.force.norm = limit ∧ 0 < limit ∧
        (material.trial pair 0).norm = limit := by
  rcases exhausts with ⟨force, contact, sliding, moved, loaded, positive, gone⟩
  have engaged := (contact_of_evaluate contact).engaged
  generalize force.overlap = overlap at engaged
  have visited := (material.evaluate_again_of_engaged flipped timestep free engaged).1
  rw [visited] at contact gone
  cases contact
  have none := (ContactRecord.turned_eq_zero_iff flipped _).mp gone
  have nonnegative := frictionLimitOf_nonneg valid pair overlap
  have limited := material.tangential_limited pair
    (record.displacement pair flipped timestep) (material.frictionLimitOf pair overlap)
  have apart := (Kinematics.distanceSquared_pos_of_engaged engaged).ne'
  exact ⟨overlap, engaged, none, limited.norm_force_eq nonnegative sliding moved loaded, positive,
    limited.norm_trial_of_shear_eq_zero apart stiff nonnegative sliding moved loaded none⟩

/-- A visit that exhausts the displacement leaves the record as the next one
does, but the next one has no tangential force. -/
theorem evaluate_again_of_exhausts (valid : material.validate = .ok ())
    (stiff : 0 < material.tangentialStiffness) (free : record.isCohesive = false)
    (exhausts : material.Exhausts pair record flipped timestep) :
    let first := material.evaluate pair record flipped timestep
    let again := material.evaluate pair first.2 flipped 0
    again.2 = first.2 ∧ ∃ force later, first.1 = .contact force ∧ again.1 = .contact later ∧
      force.tangential.norm = force.limit ∧ 0 < force.limit ∧ later.tangential = 0 := by
  obtain ⟨overlap, engaged, gone, length, positive, damped⟩ := exhausts.parts valid stiff free
  obtain ⟨visited, repeated⟩ :=
    material.evaluate_again_of_engaged flipped timestep free engaged
  have slack := (again_of_norm_trial damped).tangential_eq
  simp only [gone, slack] at visited repeated
  simp only [visited, repeated]
  exact ⟨trivial, _, _, rfl, rfl, length, positive, rfl⟩

/-- Without damping no displacement is exhausted. -/
theorem not_exhausts_of_undamped (valid : material.validate = .ok ())
    (stiff : 0 < material.tangentialStiffness) (free : record.isCohesive = false)
    (undamped : material.slipDamping = 0) :
    ¬material.Exhausts pair record flipped timestep := by
  intro exhausts
  obtain ⟨overlap, engaged, -, -, positive, damped⟩ := exhausts.parts valid stiff free
  have still : material.trial pair 0 = 0 := by
    rw [trial_of_inPlane .zero, trialForce, undamped, mul_zero, Vec3.mul_zero, Vec3.zero_mul,
      add_zero, neg_zero]
  rw [still, Vec3.norm_zero] at damped
  exact positive.ne damped

/-- A force that was limited is reproduced by the displacement that was stored
with it.  Visit a pair without a bond twice in the same motion, the second time
without a timestep.  With tangential stiffness the second visit has the outcome
and leaves the record of the first, unless the first one exhausts the
displacement; then the second visit leaves the same record and has no tangential
force, where the first one had a force as large as its limit.  Without damping
this never happens. -/
theorem evaluate_again_iff (valid : material.validate = .ok ())
    (stiff : 0 < material.tangentialStiffness) (pair : Kinematics α)
    (free : record.isCohesive = false) (flipped : Bool) (timestep : α) :
    let first := material.evaluate pair record flipped timestep
    let again := material.evaluate pair first.2 flipped 0
    (again = first ↔ ¬material.Exhausts pair record flipped timestep) ∧
      (material.Exhausts pair record flipped timestep →
        again.2 = first.2 ∧ ∃ force later, first.1 = .contact force ∧ again.1 = .contact later ∧
          force.tangential.norm = force.limit ∧ 0 < force.limit ∧ later.tangential = 0) ∧
      (material.slipDamping = 0 → again = first) := by
  intro first again
  refine ⟨⟨?_, evaluate_again_of_not_exhausts valid stiff free⟩,
    evaluate_again_of_exhausts valid stiff free, ?_⟩
  · intro same exhausts
    obtain ⟨-, force, later, visited, repeated, length, positive, nothing⟩ :=
      evaluate_again_of_exhausts valid stiff free exhausts
    have equal : later = force := by
      apply Outcome.contact.inj
      rw [← visited, ← repeated]
      exact congrArg Prod.fst same
    rw [equal] at nothing
    rw [nothing, Vec3.norm_zero] at length
    exact positive.ne length
  · intro undamped
    exact evaluate_again_of_not_exhausts valid stiff free
      (not_exhausts_of_undamped valid stiff free undamped)

/-- Two overlapping spheres pass by each other so fast that the damper alone
pulls with the friction limit.  What they slide in their first step is cut away,
and a visit that repeats the step has no tangential force. -/
theorem evaluate_again_iff_fastPassing :
    let first := (standard : Material ℝ).evaluate (.passing 1 4000) .fresh false 1
    let again := (standard : Material ℝ).evaluate (.passing 1 4000) first.2 false 0
    again ≠ first ∧ ∃ force later, first.1 = .contact force ∧ again.1 = .contact later ∧
      0 < force.tangential.norm ∧ later.tangential = 0 := by
  intro first again
  have free : (ContactRecord.fresh : ContactRecord ℝ).isCohesive = false := rfl
  have stiffness : (standard : Material ℝ).tangentialStiffness = 400000 / 7 := by
    change ((200000 : Nat) : ℝ) * (2 : Nat) / (7 : Nat) = 400000 / 7
    norm_num
  have damping : (standard : Material ℝ).slipDamping = 25 := by
    change ((25 : Nat) : ℝ) = 25
    norm_num
  have stiff : 0 < (standard : Material ℝ).tangentialStiffness := by
    rw [stiffness]
    norm_num
  have distance := Kinematics.distance_passing 4000 one_pos
  have engaged := Kinematics.engaged_passing 4000
  have limit : (standard : Material ℝ).frictionLimitOf (.passing 1 4000) 1 = 100000 := by
    rw [frictionLimitOf, normalRate, distance, Kinematics.approach_passing]
    change (1 / (2 : Nat) : ℝ) *
      |(((200000 : Nat) : ℝ) * 1 * (1 / 1) - 4000 * (50 : Nat) * 0 * _) * 1| = 100000
    norm_num
  have start : (ContactRecord.fresh : ContactRecord ℝ).displacement (.passing 1 4000) false 1 =
      ⟨0, 1, 0⟩ :=
    ContactRecord.displacement_passing rfl 1 4000
  have trial : (standard : Material ℝ).trial (.passing 1 4000) ⟨0, 1, 0⟩ =
      ⟨0, -(1100000 / 7), 0⟩ := by
    rw [Material.trial, Kinematics.tangentPart_passing, trialForce_passing, stiffness, damping]
    norm_num
  have length : ((standard : Material ℝ).trial (.passing 1 4000) ⟨0, 1, 0⟩).norm = 1100000 / 7 := by
    rw [trial, Vec3.norm_across, abs_neg]
    norm_num
  have moved : (⟨0, 1, 0⟩ : Vec3 ℝ).norm = 1 := by rw [Vec3.norm_across, abs_one]
  have cut : (standard : Material ℝ).cutShear (.passing 1 4000) ⟨0, 1, 0⟩ (100000 / (1100000 / 7)) =
      0 := by
    rw [cutShear_of_stiff stiff, damperShare, Kinematics.slip_passing, stiffness, damping]
    ext
    · change (0 + 0 * _) * _ - 0 * _ = (0 : ℝ)
      ring
    · change (1 + 1 * (4000 * 25 / (400000 / 7))) * (100000 / (1100000 / 7)) -
        1 * (4000 * 25 / (400000 / 7)) = (0 : ℝ)
      norm_num
    · change (0 + 0 * _) * _ - 0 * _ = (0 : ℝ)
      ring
  have reached : 100000 ≤ ((standard : Material ℝ).trial (.passing 1 4000) ⟨0, 1, 0⟩).norm := by
    rw [length]
    norm_num
  have plane := Limited.cut reached (by rw [moved]; norm_num) (by rw [length]; norm_num)
  rw [Kinematics.tangentPart_passing, length, cut] at plane
  have exhausts : (standard : Material ℝ).Exhausts (.passing 1 4000) .fresh false 1 := by
    have visited := (standard.evaluate_again_of_engaged false 1 free engaged).1
    rw [Material.plane, start, limit, plane.tangential_eq] at visited
    rw [Exhausts, visited, start]
    refine ⟨_, rfl, rfl, ?_, ?_, ?_, rfl⟩
    · rw [← Vec3.norm_pos_iff, moved]
      exact one_pos
    · rw [← Vec3.norm_pos_iff, length]
      norm_num
    · change 0 < (standard : Material ℝ).frictionLimitOf (.passing 1 4000) 1
      rw [limit]
      norm_num
  obtain ⟨differs, known, -⟩ :=
    evaluate_again_iff validate_standard stiff (.passing 1 4000) free false 1
  obtain ⟨-, force, later, visited, repeated, full, positive, nothing⟩ := known exhausts
  exact ⟨fun same => differs.mp same exhausts, force, later, visited, repeated,
    full.symm ▸ positive, nothing⟩

end Material

end GranularBonds

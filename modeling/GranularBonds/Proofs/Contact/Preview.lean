import Mathlib
import GranularBonds.Contact.Preview
import GranularBonds.Proofs.Contact.Friction
import GranularBonds.Proofs.Contact.Tally

/-!
# Previews of a contact

A preview is the outcome of an evaluation and a few numbers taken from it.  Its
states of the bond are those of the record before and after, and it announces a
break exactly when the evaluation breaks the bond.  Main statement: in exact
arithmetic its normal and tangential components add up to the force of the pair,
and are zero where there is none, unless the bond is sheared off with the
surfaces apart.  The force of such a contact is taken away afterwards, and its
normal component stays in the preview.
-/

namespace GranularBonds

/-! ## Parts of a preview -/

section Parts

variable {α : Type} [Scalar α] (material : Material α) (pair : Kinematics α)
  (record : ContactRecord α) (flipped : Bool) (timestep : α)

namespace Material

@[simp] theorem outcome_preview :
    (material.preview pair record flipped timestep).outcome =
      (material.evaluate pair record flipped timestep).1 := by
  simp only [preview]
  cases (material.evaluate pair record flipped timestep).1 <;> rfl

@[simp] theorem bondBefore_preview :
    (material.preview pair record flipped timestep).bondBefore = record.bond := by
  simp only [preview]
  cases (material.evaluate pair record flipped timestep).1 <;> rfl

@[simp] theorem bondAfter_preview :
    (material.preview pair record flipped timestep).bondAfter =
      (material.evaluate pair record flipped timestep).2.bond := by
  simp only [preview]
  cases (material.evaluate pair record flipped timestep).1 <;> rfl

/-- The components of a pair in contact are those of its force. -/
theorem components_of_contact {force : ContactForce α}
    (contact : (material.evaluate pair record flipped timestep).1 = .contact force) :
    (material.preview pair record flipped timestep).normal = force.normal ∧
      (material.preview pair record flipped timestep).tangential = force.tangential := by
  simp only [preview, contact, and_self]

/-- A pair without a contact force has no components. -/
theorem components_of_free
    (free : (material.evaluate pair record flipped timestep).1.force? = none) :
    (material.preview pair record flipped timestep).normal = 0 ∧
      (material.preview pair record flipped timestep).tangential = 0 := by
  simp only [preview]
  cases outcome : (material.evaluate pair record flipped timestep).1 with
  | separated | torn | coincident => exact ⟨rfl, rfl⟩
  | contact force =>
      rw [outcome] at free
      cases free

end Material

omit [Scalar α] in
theorem Outcome.isBroken_of_break? {outcome : Outcome α} {state : BondState}
    (breaks : outcome.break? = some state) : state.isBroken = true := by
  cases outcome with
  | separated | coincident => cases breaks
  | torn overlap =>
      cases breaks
      rfl
  | contact force =>
      cases sheared : force.sheared with
      | false => simp [break?, sheared] at breaks
      | true =>
          simp only [break?, sheared, if_true, Option.some.injEq] at breaks
          rw [← breaks]
          rfl

/-- A preview announces a break exactly when the evaluation breaks the bond. -/
theorem Material.breaksBond_preview :
    (material.preview pair record flipped timestep).breaksBond =
      (material.evaluate pair record flipped timestep).1.break?.isSome := by
  have exit : record.Exit _ _ := material.evaluate_exit pair record flipped timestep
  have kept := exit.bond_eq
  rw [Preview.breaksBond, bondBefore_preview, bondAfter_preview, kept]
  cases breaks : (material.evaluate pair record flipped timestep).1.break? with
  | none => cases record.bond <;> rfl
  | some state =>
      rw [exit.bonded_of_break? breaks, Option.getD_some, Outcome.isBroken_of_break? breaks]
      rfl

end Parts

variable {α : Type} [ExactScalar α]

/-! ## Sums of components -/

/-- The components of a preview tell the force that the pair would exert: along
the line of centers and in the contact plane they add up to it, and a pair that
would exert none has none of them. -/
structure Preview.AddsUp (preview : Preview α) (pair : Kinematics α) : Prop where
  contact : ∀ force, preview.outcome = .contact force →
    force.force = pair.delta * (preview.normal / pair.delta.norm) + preview.tangential
  idle : preview.outcome.force? = none ∨ preview.isActive = false →
    preview.normal = 0 ∧ preview.tangential = 0

namespace Material

namespace Contact

variable {material : Material α} {pair : Kinematics α} {record after : ContactRecord α}
  {flipped : Bool} {timestep : α} {force : ContactForce α}

/-- A contact that stays together pushes along the line of centers by its normal
force. -/
theorem force_of_together
    (contact : material.Contact pair record flipped timestep force after)
    (together : force.separated = false) :
    force.force = pair.delta * (force.normal / pair.delta.norm) + force.tangential := by
  have far : pair.distance ≠ 0 := by
    intro same
    have square : pair.distance * pair.distance = pair.distanceSquared :=
      Vec3.norm_mul_self pair.delta
    rw [same, mul_zero] at square
    exact (Kinematics.distanceSquared_pos_of_engaged contact.engaged).ne square
  have rate : force.normal / pair.delta.norm = material.normalRate pair force.overlap := by
    rw [contact.normal]
    exact mul_div_cancel_right₀ _ far
  rw [contact.total, together, rate]
  rfl

/-- Of a contact that comes apart no force is left. -/
theorem force_of_separated
    (contact : material.Contact pair record flipped timestep force after)
    (separated : force.separated = true) : force.force = 0 ∧ force.tangential = 0 := by
  have plane : force.tangential = 0 := by rw [contact.tangential, if_pos separated]
  refine ⟨?_, plane⟩
  rw [contact.total, if_pos separated, plane, add_zero]

end Contact

/-- The components of a preview are those of its contact force. -/
theorem parts_preview {material : Material α} {pair : Kinematics α} {record : ContactRecord α}
    {flipped : Bool} {timestep : α} {force : ContactForce α}
    (contact : (material.preview pair record flipped timestep).outcome = .contact force) :
    (material.preview pair record flipped timestep).normal = force.normal ∧
      (material.preview pair record flipped timestep).tangential = force.tangential ∧
      material.Contact pair record flipped timestep force
        (material.evaluate pair record flipped timestep).2 := by
  rw [outcome_preview] at contact
  obtain ⟨normal, tangential⟩ := material.components_of_contact pair record flipped timestep contact
  exact ⟨normal, tangential, contact_of_evaluate contact⟩

/-- The components add up where a contact that comes apart loses no normal
force. -/
theorem addsUp_of_lossless {material : Material α} {pair : Kinematics α}
    {record : ContactRecord α} {flipped : Bool} {timestep : α}
    (lossless : ∀ force, (material.preview pair record flipped timestep).outcome = .contact force →
      force.separated = true → force.normal = 0) :
    (material.preview pair record flipped timestep).AddsUp pair := by
  constructor
  · intro force contact
    obtain ⟨normal, tangential, parts⟩ := parts_preview contact
    rw [normal, tangential]
    cases separated : force.separated with
    | false => exact parts.force_of_together separated
    | true =>
        obtain ⟨total, plane⟩ := parts.force_of_separated separated
        rw [total, plane, lossless force contact separated, zero_div, Vec3.mul_zero, add_zero]
  · intro idle
    cases reached : (material.preview pair record flipped timestep).outcome with
    | separated | torn | coincident =>
        apply material.components_of_free
        rw [← outcome_preview, reached]
        rfl
    | contact force =>
        obtain ⟨normal, tangential, parts⟩ := parts_preview reached
        have separated : force.separated = true := by
          rcases idle with none | inactive
          · rw [reached] at none
            cases none
          · rw [Preview.isActive, reached] at inactive
            exact Bool.not_eq_eq_eq_not.mp inactive
        rw [normal, tangential]
        exact ⟨lossless force reached separated, (parts.force_of_separated separated).2⟩

/-- The components of a preview add up to the force of the pair, and vanish with
it, if and only if no normal force is lost with a bond that is sheared off while
the surfaces are apart.  There force and tangential component are zero, and the
normal one is still that of the spring and the damper. -/
theorem preview_adds_up_iff (material : Material α) (pair : Kinematics α)
    (record : ContactRecord α) (flipped : Bool) (timestep : α) :
    let preview := material.preview pair record flipped timestep
    (preview.AddsUp pair ↔
      ¬∃ force, preview.outcome = .contact force ∧ force.separated = true ∧
        force.normal ≠ 0) ∧
    ∀ force, preview.outcome = .contact force → force.separated = true →
      force.force = 0 ∧ preview.tangential = 0 ∧ preview.normal =
        (material.normalStiffness * force.overlap * (1 / pair.distance) -
          pair.mass * material.normalDamping * pair.approach * pair.inverseSquare) *
            pair.distance := by
  intro preview
  constructor
  · constructor
    · intro addsUp lost
      rcases lost with ⟨force, contact, separated, nonzero⟩
      have inactive : preview.isActive = false := by
        simp only [Preview.isActive, contact, separated, Bool.not_true]
      have none := (addsUp.idle (.inr inactive)).1
      rw [(parts_preview contact).1] at none
      exact nonzero none
    · intro kept
      apply addsUp_of_lossless
      intro force contact separated
      by_contra nonzero
      exact kept ⟨force, contact, separated, nonzero⟩
  · intro force contact separated
    obtain ⟨normal, tangential, parts⟩ := parts_preview contact
    obtain ⟨total, plane⟩ := parts.force_of_separated separated
    refine ⟨total, tangential.trans plane, ?_⟩
    rw [normal]
    exact parts.normal

end Material

/-- Unit spheres whose bond is pressed together are in contact, across whatever
gap they bonded. -/
theorem Kinematics.engaged_passing_of_bonded {distance gap : ℝ} (far : 1 ≤ distance)
    (pressed : 0 ≤ 2 - distance - gap) (mass : ℝ) (limit : TensileLimit ℝ) :
    (passing distance mass).standing (.bonded gap limit) = .engaged (2 - distance - gap) := by
  have overlap : (passing distance mass).overlap gap = 2 - distance - gap := by
    rw [Kinematics.overlap, distance_passing mass (one_pos.trans_le far)]
    change (1 + 1 - distance - gap : ℝ) = _
    ring
  have cohesive : (ContactRecord.bonded gap limit).isCohesive = true := rfl
  have bridged : (ContactRecord.bonded gap limit).initialGap = gap := rfl
  simp only [standing, bridged, overlap, cohesive, not_lt.mpr pressed, false_and, if_false,
    Bool.not_true, Bool.false_and, Bool.false_eq_true]
  exact if_neg (apart_passing mass far)

/-- Two unit spheres bonded across a gap of one radius, with a little pressure on
the bond, pass by each other.  The bond is sheared off and no force is left, and
the preview still reports a normal component. -/
theorem Material.not_adds_up_shearedAcross :
    let pair : Kinematics ℝ := .passing 3 1
    let record : ContactRecord ℝ := .bonded (-(1 + 1 / 1000)) (.bounded 1)
    (standard : Material ℝ).validate = .ok () ∧ 0 < pair.firstRadius ∧ 0 < pair.secondRadius ∧
      ¬((standard : Material ℝ).preview pair record false 1).AddsUp pair := by
  intro pair record
  refine ⟨validate_standard, one_pos, one_pos, fun addsUp => ?_⟩
  have distance : pair.distance = 3 := Kinematics.distance_passing 1 three_pos
  have engaged : pair.standing record = .engaged (2 - 3 - -(1 + 1 / 1000)) :=
    Kinematics.engaged_passing_of_bonded (by norm_num) (by norm_num) 1 _
  have cohesive : record.isCohesive = true := rfl
  let force := ((standard : Material ℝ).engage pair record false 1 (2 - 3 - -(1 + 1 / 1000))).1
  have contact : ((standard : Material ℝ).evaluate pair record false 1).1 = .contact force :=
    congrArg Prod.fst (evaluate_of_engaged engaged)
  have parts : (standard : Material ℝ).Contact pair record false 1 force _ :=
    contact_engage engaged
  have normal : force.normal = 200 := by
    rw [parts.normal, normalRate, Kinematics.approach_passing, distance]
    change ((200000 : Nat) * (2 - 3 - -(1 + 1 / 1000)) * (1 / 3) - 1 * (50 : Nat) * 0 *
      pair.inverseSquare : ℝ) * 3 = 200
    norm_num
  have slides : force.sliding = true := by
    have limited := (standard : Material ℝ).tangential_limited pair
      (record.displacement pair false 1) force.limit
    have moved : record.displacement pair false 1 = ⟨0, 1, 0⟩ :=
      ContactRecord.displacement_passing rfl 3 1
    rw [parts.sliding]
    apply limited.sliding_iff.mpr
    rw [parts.limit, normal, shearLimit_eq, if_pos cohesive, moved, trial,
      Kinematics.tangentPart_passing, trialForce_passing, Vec3.norm_across, abs_neg]
    change (1 / (2 : Nat) : ℝ) * |200| + Real.pi * min 1 1 * (100 : Nat) ≤
      |(1 : ℝ) * ((200000 : Nat) * (2 : Nat) / (7 : Nat)) + 1 * (25 : Nat)|
    have circle := Real.pi_le_four
    norm_num
    linarith
  have separated : force.separated = true := by
    rw [parts.separated, parts.sheared, slides, cohesive, Bool.and_self, Bool.true_and,
      decide_eq_true_eq]
    change ((1 + 1) * (1 + 1) : ℝ) < 3 * 3 + 0 * 0 + 0 * 0
    norm_num
  have outcome := (standard : Material ℝ).outcome_preview pair record false 1
  have idle : ((standard : Material ℝ).preview pair record false 1).isActive = false := by
    rw [Preview.isActive, outcome, contact]
    simp only [separated, Bool.not_true]
  have none := (addsUp.idle (.inr idle)).1
  rw [((standard : Material ℝ).components_of_contact pair record false 1 contact).1, normal] at none
  norm_num at none

end GranularBonds

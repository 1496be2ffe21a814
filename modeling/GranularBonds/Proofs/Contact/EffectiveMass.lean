import Mathlib
import GranularBonds.Proofs.Contact.PassSum

/-!
# Sides of a reduced mass

The motion of a pair can be gathered from either of its particles.  Of two
frozen particles the second counts as the anchor, so that the mass of the first
is what damping scales with.  Main statement: from the other side the motion is
the reversed one, but that two frozen particles leave each the mass of the one
that comes first, which is the same mass only if they have the same.
-/

namespace GranularBonds

variable {α : Type} [ExactScalar α]

namespace ContactMass

/-- Two sides have the same mass if both are frozen. -/
def Alike (first second : ContactMass α) : Prop :=
  first.frozen = true → second.frozen = true → first.resolved = second.resolved

theorem reduced_of_frozen (first : ContactMass α) {second : ContactMass α}
    (anchor : second.frozen = true) : first.reduced second = first.resolved :=
  if_pos anchor

/-- Masses reduce to the same from both sides exactly if the sides are alike. -/
theorem reduced_comm_iff {first second : ContactMass α} :
    second.reduced first = first.reduced second ↔ first.Alike second := by
  constructor
  · intro same firstFrozen secondFrozen
    rw [reduced_of_frozen second firstFrozen, reduced_of_frozen first secondFrozen] at same
    exact same.symm
  · exact reduced_comm first second

end ContactMass

namespace Kinematics

/-- Gathered from the other side a motion is reversed, but for its mass. -/
theorem ofParticles_turned (bodies : Option (BodyCache α)) (index other : Nat)
    (first second : Particle α) :
    ofParticles bodies other index second first =
      { (ofParticles bodies index other first second).reversed with
        mass := (second.contactMass bodies other).reduced (first.contactMass bodies index) } := by
  simp only [ofParticles, reversed, neg_sub]

theorem ofParticles_turned_iff {bodies : Option (BodyCache α)} {index other : Nat}
    {first second : Particle α} :
    ofParticles bodies other index second first =
        (ofParticles bodies index other first second).reversed ↔
      (first.contactMass bodies index).Alike (second.contactMass bodies other) := by
  rw [← ContactMass.reduced_comm_iff, ofParticles_turned]
  constructor
  · exact congrArg mass
  · intro same
    rw [same]
    rfl

end Kinematics

namespace Assembly

/-- The motion of a pair, gathered from one side and from the other.  In every
field but the mass it is reversed.  It is so in the mass too, and then every
visit does the mirrored thing and leaves the same record, exactly if the
particles are not both frozen or have the same mass.  Of two frozen particles
the one that comes first gives its own mass. -/
theorem kinematics_turned (assembly : Assembly α) (bodies : Option (BodyCache α))
    {index other : Nat} (here : index < assembly.size) (there : other < assembly.size) :
    ∃ first second pair back,
      assembly.get? index = some first ∧ assembly.get? other = some second ∧
        assembly.kinematics bodies index other = .ok pair ∧
        assembly.kinematics bodies other index = .ok back ∧
        back = { pair.reversed with mass := back.mass } ∧
        (back = pair.reversed ↔
          (first.frozen = true → second.frozen = true →
            (first.contactMass bodies index).resolved =
              (second.contactMass bodies other).resolved)) ∧
        (first.frozen = true → second.frozen = true →
          pair.mass = (first.contactMass bodies index).resolved ∧
            back.mass = (second.contactMass bodies other).resolved) ∧
        (back = pair.reversed →
          ∀ (material : Material α) (record : ContactRecord α) (flipped : Bool) (timestep : α),
            material.evaluate back record (!flipped) timestep =
              ((material.evaluate pair record flipped timestep).1.mirrored,
                (material.evaluate pair record flipped timestep).2)) := by
  have first : assembly.get? index = some assembly.particles[index] :=
    List.getElem?_eq_getElem here
  have second : assembly.get? other = some assembly.particles[other] :=
    List.getElem?_eq_getElem there
  refine ⟨_, _, .ofParticles bodies index other _ _, .ofParticles bodies other index _ _,
    first, second, ?_, ?_, Kinematics.ofParticles_turned .., Kinematics.ofParticles_turned_iff,
    ?_, ?_⟩
  · rw [kinematics, particle_eq_ok_iff.mpr first, particle_eq_ok_iff.mpr second]
    rfl
  · rw [kinematics, particle_eq_ok_iff.mpr first, particle_eq_ok_iff.mpr second]
    rfl
  · intro firstFrozen secondFrozen
    exact ⟨ContactMass.reduced_of_frozen _ secondFrozen,
      ContactMass.reduced_of_frozen _ firstFrozen⟩
  · intro turned material record flipped timestep
    rw [turned, material.evaluate_reversed]

/-- A frozen sphere and a free one of another mass. -/
noncomputable def sphereOnAnchor (mass : ℝ) : Assembly ℝ :=
  .ofOwned [{ Particle.atRest ⟨1⟩ 0 1 1 with frozen := true }, .atRest ⟨2⟩ ⟨1, 0, 0⟩ 1 mass]

theorem kinematics_turned_sphereOnAnchor :
    ∃ pair back, (sphereOnAnchor 2).kinematics none 0 1 = .ok pair ∧
      (sphereOnAnchor 2).kinematics none 1 0 = .ok back ∧ back = pair.reversed := by
  have here : 0 < (sphereOnAnchor 2).size := Nat.zero_lt_two
  have there : 1 < (sphereOnAnchor 2).size := Nat.one_lt_two
  rcases (sphereOnAnchor 2).kinematics_turned none here there with
    ⟨first, second, pair, back, -, there, gathered, turned, -, same, -⟩
  refine ⟨pair, back, gathered, turned, same.mpr fun _ frozen => ?_⟩
  cases there
  cases frozen

/-- Two frozen spheres in contact, the second of another mass. -/
noncomputable def twoAnchors (mass : ℝ) : Assembly ℝ :=
  .ofOwned [{ Particle.atRest ⟨1⟩ 0 1 1 with frozen := true },
    { Particle.atRest ⟨2⟩ ⟨1, 0, 0⟩ 1 mass with frozen := true }]

theorem kinematics_turned_ne_twoAnchors :
    (∀ particle ∈ (twoAnchors 2).particles, 0 < particle.mass) ∧
      ∃ pair back, (twoAnchors 2).kinematics none 0 1 = .ok pair ∧
        (twoAnchors 2).kinematics none 1 0 = .ok back ∧ pair.mass = 1 ∧ back.mass = 2 ∧
          back ≠ pair.reversed := by
  constructor
  · simp [twoAnchors, ofOwned, ofGhosts, Particle.atRest]
  · refine ⟨_, _, rfl, rfl, rfl, rfl, fun same => ?_⟩
    have masses : (2 : ℝ) = 1 := congrArg Kinematics.mass same
    norm_num at masses

end Assembly

end GranularBonds

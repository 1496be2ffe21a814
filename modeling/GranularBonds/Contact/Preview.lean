import GranularBonds.Contact.ForceLaw

/-!
# Previews

What a pair would do in the next step, computed on a copy of its record.
-/

namespace GranularBonds

/-- The next step of a pair. -/
structure Preview (α : Type) where
  outcome : Outcome α
  /-- Force along the line of centers, positive if it pushes apart. -/
  normal : α
  /-- Force in the contact plane on the first particle. -/
  tangential : Vec3 α
  limit : α
  overlap : α
  /-- How far the bond may be pulled, as it is recorded before the step. -/
  tensileLimit : TensileLimit α
  bondBefore : BondState
  bondAfter : BondState

namespace Preview

variable {α : Type}

/-- Whether the pair would be in contact after the step. -/
def isActive (preview : Preview α) : Bool :=
  match preview.outcome with
  | .contact force => !force.separated
  | _ => false

/-- Whether the step would break the bond. -/
def breaksBond (preview : Preview α) : Bool :=
  preview.bondBefore.isCohesive && preview.bondAfter.isBroken

end Preview

/-- Evaluate a pair and keep its record as it is. -/
def Material.preview {α : Type} [Scalar α] (material : Material α) (pair : Kinematics α)
    (record : ContactRecord α) (flipped : Bool) (timestep : α) : Preview α :=
  let (outcome, after) := material.evaluate pair record flipped timestep
  let forceFree (overlap : α) : Preview α :=
    { outcome, normal := 0, tangential := 0, limit := 0, overlap
      tensileLimit := record.tensileLimit
      bondBefore := record.bond
      bondAfter := after.bond }
  match outcome with
  | .contact force =>
      { forceFree force.overlap with
        normal := force.normal, tangential := force.tangential, limit := force.limit }
  | .torn overlap => forceFree overlap
  | .separated | .coincident => forceFree (pair.overlap record.initialGap)

end GranularBonds

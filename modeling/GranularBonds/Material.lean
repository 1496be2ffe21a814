import GranularBonds.Fault

/-!
# Material

The constants of the contact law: the springs and dampers of granular contact,
Coulomb friction, and the strength and reach of bonds.
-/

namespace GranularBonds

/-- Constants of the contact law, the same for the whole run. -/
structure Material (α : Type) where
  /-- Force per unit of overlap. -/
  normalStiffness : α
  /-- Force per unit of tangential displacement. -/
  tangentialStiffness : α
  /-- Damping of the normal velocity, per unit of effective mass. -/
  normalDamping : α
  /-- Damping of the tangential velocity, per unit of effective mass. -/
  tangentialDamping : α
  /-- Coulomb coefficient. -/
  friction : α
  /-- Whether tangential velocities are damped at all. -/
  damped : Bool
  /-- Force per unit length at which a bond tears. -/
  tensileStrength : α
  /-- Force per unit length that a bond adds to the tangential limit. -/
  shearStrength : α
  /-- Bonds form across gaps of up to `reach - 1` times the smaller radius. -/
  reach : α

/-- How far a bonded pair may be pulled apart before it tears. -/
inductive TensileLimit (α : Type) where
  | bounded (distance : α)
  /-- Without stiffness there is no pull that could tear a bond. -/
  | unbounded

namespace TensileLimit

variable {α : Type} [Scalar α]

/-- A pull over this distance tears the bond. -/
def isReachedBy (limit : TensileLimit α) (distance : α) : Bool :=
  match limit with
  | bounded bound => decide (bound ≤ distance)
  | unbounded => Scalar.isInfinite distance

/-- The limit without a negative or undefined distance, which count as zero. -/
def nonnegative : TensileLimit α → TensileLimit α
  | bounded distance => bounded (Scalar.nonnegativePart distance)
  | unbounded => unbounded

end TensileLimit

namespace Material

variable {α : Type} [Scalar α]

/-- Constants that serve where none are given. -/
def standard : Material α where
  normalStiffness := (200000 : Nat)
  tangentialStiffness := ((200000 : Nat) : α) * (2 : Nat) / (7 : Nat)
  normalDamping := (50 : Nat)
  tangentialDamping := (25 : Nat)
  friction := 1 / (2 : Nat)
  damped := true
  tensileStrength := (100 : Nat)
  shearStrength := (100 : Nat)
  reach := 1

/-- Largest friction coefficient that is accepted. -/
def frictionLimit : Nat := 10000

/-- Every numeric constant with its name, in the order in which they are
examined. -/
def named (material : Material α) : List (String × α) :=
  [("normal_stiffness", material.normalStiffness),
   ("tangential_stiffness", material.tangentialStiffness),
   ("normal_damping", material.normalDamping),
   ("tangential_damping", material.tangentialDamping),
   ("friction_coefficient", material.friction),
   ("tensile_strength", material.tensileStrength),
   ("cohesive_shear_strength", material.shearStrength),
   ("enlarge_factor", material.reach)]

/-- Refuse a constant that is not finite or below zero. -/
def checkConstant (name : String) (value : α) : Except (Fault α) Unit :=
  if !Scalar.isFinite value then .error (.parameter name (.number value) .notFinite)
  else if value < 0 then .error (.parameter name (.number value) .negative)
  else .ok ()

/-- Refuse the first constant that is not finite or below zero, and then a
friction coefficient above the limit. -/
def validate (material : Material α) : Except (Fault α) Unit := do
  material.named.forM fun (name, value) => checkConstant name value
  if (frictionLimit : α) < material.friction then
    .error (.parameter "friction_coefficient" (.number material.friction) (.above frictionLimit))

/-- Tangential damping that is applied. -/
def slipDamping (material : Material α) : α :=
  if material.damped then material.tangentialDamping else 0

/-- The tensile limit of a bond between particles of which the smaller has
the given radius. -/
def tensileLimit (material : Material α) (radius : α) : TensileLimit α :=
  if 0 < material.normalStiffness then
    .bounded (Scalar.pi * radius * material.tensileStrength / material.normalStiffness)
  else
    .unbounded

/-- What a bond adds to the limit of the tangential force. -/
def bondShearForce (material : Material α) (radius : α) : α :=
  Scalar.pi * radius * material.shearStrength

/-- Largest distance of two centers at which a bond forms. -/
def bondDistance (material : Material α) (first second : α) : α :=
  first + second + (material.reach - 1) * Scalar.minimum first second

end Material

end GranularBonds

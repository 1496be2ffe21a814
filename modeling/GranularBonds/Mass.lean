import GranularBonds.Scalar

/-!
# Masses in contact

Damping scales with the reduced mass of a pair.  A particle of a rigid body
counts with the mass of the body, and a frozen one leaves the mass of its
partner.
-/

namespace GranularBonds

/-- What one side of a contact brings to the reduced mass. -/
structure ContactMass (α : Type) where
  mass : α
  /-- Mass of the rigid body that the particle belongs to. -/
  bodyMass : Option α
  frozen : Bool

namespace ContactMass

variable {α : Type} [Scalar α]

/-- The mass that counts: that of the body where it is above zero, and the
particle's own otherwise. -/
def resolved (side : ContactMass α) : α :=
  match side.bodyMass with
  | some mass => if 0 < mass then mass else side.mass
  | none => side.mass

/-- Reduced mass of a pair.  A frozen second side counts before a frozen
first one. -/
def reduced (first second : ContactMass α) : α :=
  if second.frozen then first.resolved
  else if first.frozen then second.resolved
  else first.resolved * second.resolved / (first.resolved + second.resolved)

end ContactMass

end GranularBonds

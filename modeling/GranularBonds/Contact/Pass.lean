import GranularBonds.Contact.ForceLaw
import GranularBonds.Contact.Ledger
import GranularBonds.Neighbors

/-!
# Passes over a neighbor list

One step of all listed pairs: each is evaluated on its record, and its forces
and torques are added to its particles.
-/

namespace GranularBonds

/-- Counts of one pass. -/
structure PassReport where
  /-- Pairs that were visited. -/
  visited : Nat
  /-- Pairs with a contact force. -/
  active : Nat
  /-- Bonds that tore. -/
  torn : Nat
  /-- Bonds that were sheared off. -/
  sheared : Nat
  /-- Bonds that were sheared off while the surfaces were apart. -/
  separated : Nat
  /-- Pairs with coinciding centers. -/
  coincident : Nat
  deriving DecidableEq, Repr

namespace PassReport

/-- Nothing visited. -/
def none : PassReport := ⟨0, 0, 0, 0, 0, 0⟩

/-- Count one more pair. -/
def counting {α : Type} (report : PassReport) (outcome : Outcome α) : PassReport :=
  let report := { report with visited := report.visited + 1 }
  match outcome with
  | .separated => report
  | .torn _ => { report with torn := report.torn + 1 }
  | .coincident => { report with coincident := report.coincident + 1 }
  | .contact force =>
      { report with
        active := report.active + 1
        sheared := report.sheared + force.sheared.toNat
        separated := report.separated + (force.sheared && force.separated).toNat }

end PassReport

/-- What stays the same during a pass. -/
structure PassContext (α : Type) where
  material : Material α
  bodies : Option (BodyCache α)
  timestep : α
  /-- Whether forces are added to both members of a pair, ghost or not. -/
  loadsBoth : Bool

/-- What changes during a pass. -/
structure PassState (α : Type) where
  assembly : Assembly α
  ledger : Ledger α
  report : PassReport

namespace PassContext

variable {α : Type} [Scalar α]

/-- Add the force of a contact to its members.  A ghost as second member is
left to its owner unless both members are to be loaded. -/
def load (context : PassContext α) (assembly : Assembly α) (first second : Nat)
    (outcome : Outcome α) : Assembly α :=
  match outcome with
  | .contact force =>
      let assembly := assembly.load first force.force force.firstTorque
      if context.loadsBoth || assembly.isOwned second then
        assembly.load second (-force.force) force.secondTorque
      else
        assembly
  | _ => assembly

/-- Visit one pair. -/
def visit (context : PassContext α) (first : Nat) (state : PassState α) (second : Nat) :
    Except (Fault α) (PassState α) := do
  let firstParticle ← state.assembly.particle first
  let secondParticle ← state.assembly.particle second
  let (key, flipped) := PairKey.oriented firstParticle.tag secondParticle.tag
  let pair := Kinematics.ofParticles context.bodies first second firstParticle secondParticle
  let (outcome, record) :=
    context.material.evaluate pair (state.ledger.getOrFresh key) flipped context.timestep
  return {
    assembly := context.load state.assembly first second outcome
    ledger := state.ledger.insert key record
    report := state.report.counting outcome }

/-- Visit all neighbors of one particle.  The particle is looked up even when
it has none. -/
def visitEntry (context : PassContext α) (state : PassState α) (entry : Nat × List Nat) :
    Except (Fault α) (PassState α) := do
  let _ ← state.assembly.particle entry.1
  entry.2.foldlM (context.visit entry.1) state

/-- Visit all pairs of a list, after a look whether they are all there. -/
def run (context : PassContext α) (list : NeighborList) (assembly : Assembly α)
    (ledger : Ledger α) : Except (Fault α) (PassState α) := do
  list.check assembly
  list.entries.foldlM context.visitEntry ⟨assembly, ledger, .none⟩

end PassContext

end GranularBonds

import GranularBonds.Contact.Ledger
import GranularBonds.Neighbors

/-!
# Bonding

At the start of a run every listed pair within bonding distance gets a bond.
The overlap at that moment is the one at which the pair pushes with no force.
-/

namespace GranularBonds

/-- How many pairs bonded and how many did not. -/
structure BondingReport where
  bonded : Nat
  unbonded : Nat
  deriving DecidableEq, Repr

namespace BondingReport

/-- Number of pairs. -/
def total (report : BondingReport) : Nat := report.bonded + report.unbonded

/-- Count one more pair. -/
def counting (report : BondingReport) (bonded : Bool) : BondingReport :=
  if bonded then { report with bonded := report.bonded + 1 }
  else { report with unbonded := report.unbonded + 1 }

end BondingReport

variable {α : Type} [Scalar α]

namespace Material

/-- The first record of a pair with given radii and distance. -/
def firstRecord (material : Material α) (first second distance : α) : ContactRecord α :=
  if distance ≤ material.bondDistance first second then
    .bonded (first + second - distance)
      (material.tensileLimit (Scalar.minimum first second))
  else
    .fresh

/-- Give the pair at two positions its first record. -/
def bondPair (material : Material α) (assembly : Assembly α)
    (state : BondingReport × Ledger α) (pair : Nat × Nat) :
    Except (Fault α) (BondingReport × Ledger α) := do
  let first ← assembly.particle pair.1
  let second ← assembly.particle pair.2
  let distance := (first.position - second.position).norm
  let record := material.firstRecord first.radius second.radius distance
  return (state.1.counting record.isCohesive,
    state.2.insert (.ofTags first.tag second.tag) record)

/-- Give every listed pair its first record, in place of any it had. -/
def formBonds (material : Material α) (assembly : Assembly α) (list : NeighborList)
    (ledger : Ledger α) : Except (Fault α) (BondingReport × Ledger α) :=
  list.pairs.foldlM (material.bondPair assembly) (⟨0, 0⟩, ledger)

end Material

end GranularBonds

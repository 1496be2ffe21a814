import GranularBonds.Assembly
import GranularBonds.Exchange

/-!
# Cutoffs

How near two kinds of particles must come to interact: the sum of their
largest radii.  Two frozen particles never interact, so the largest radius of
each kind is kept for free and for frozen particles apart.
-/

namespace GranularBonds

/-- Largest radii of every kind, from kind zero on. -/
structure CutoffTable (α : Type) where
  free : List α
  frozen : List α

namespace CutoffTable

variable {σ α : Type} [Scalar α]

/-- A table without kinds. -/
def empty : CutoffTable α := ⟨[], []⟩

/-- A table of zeros for a number of kinds.  Its length is a word unless the number
of kinds is the largest word, and no run of so many kinds is ever set up. -/
def zeros (kinds : UInt64) : CutoffTable α :=
  ⟨List.replicate (kinds.toNat + 1) 0, List.replicate (kinds.toNat + 1) 0⟩

/-- Make room for a radius of a kind; kinds past the table are passed over. -/
def raise (radii : List α) (kind : Nat) (radius : α) : List α :=
  radii.modify kind fun largest => Scalar.maximum largest radius

/-- Make room for a free particle that will be inserted during the run. -/
def withInserted (table : CutoffTable α) (inserted : Nat × α) : CutoffTable α :=
  { table with free := raise table.free inserted.1 inserted.2 }

/-- Make room for a particle that is present. -/
def withParticle (table : CutoffTable α) (particle : Particle α) : CutoffTable α :=
  if particle.frozen then
    { table with frozen := raise table.frozen particle.kind particle.radius }
  else
    { table with free := raise table.free particle.kind particle.radius }

/-- The table of this worker's particles and insertions. -/
def ofWorker (assembly : Assembly α) (inserted : List (Nat × α)) : CutoffTable α :=
  assembly.owned.foldl withParticle
    (inserted.foldl withInserted (zeros assembly.kindWord))

/-- The table over all workers. -/
def build (exchange : Exchange σ α) (assembly : Assembly α) (inserted : List (Nat × α))
    (state : σ) : CutoffTable α × σ :=
  let table := ofWorker assembly inserted
  let (free, state) := exchange.reduceMax table.free state
  let (frozen, state) := exchange.reduceMax table.frozen state
  (⟨free, frozen⟩, state)

/-- Largest radius of the free particles of a kind. -/
def freeRadius (table : CutoffTable α) (kind : Nat) : α := table.free.getD kind 0

/-- Largest radius of the frozen particles of a kind. -/
def frozenRadius (table : CutoffTable α) (kind : Nat) : α := table.frozen.getD kind 0

/-- Distance within which two kinds interact. -/
def cutoff (table : CutoffTable α) (first second : Nat) : α :=
  let bothFree := table.freeRadius first + table.freeRadius second
  let firstFrozen := table.frozenRadius first + table.freeRadius second
  let secondFrozen := table.freeRadius first + table.frozenRadius second
  Scalar.maximum (Scalar.maximum bothFree firstFrozen) secondFrozen

end CutoffTable

end GranularBonds

import GranularBonds.Contact.Ledger
import GranularBonds.Mass.BodyCache
import GranularBonds.Material.Settings
import GranularBonds.Species.Cutoff
import GranularBonds.Species.PairTable

/-!
# Interactions

The interaction of all particles of a run on one worker: its material, which
kinds interact, what the setup has fixed, and the memory of all contacts.
-/

namespace GranularBonds

/-- State of an interaction. -/
structure Interaction (α : Type) where
  material : Material α
  table : PairTable
  cutoffs : CutoffTable α
  ledger : Ledger α
  /-- Whether the ledger ever held a record; storage once taken is kept. -/
  tookStorage : Bool
  bodies : BodyCache α
  /-- Whether body masses count at present. -/
  usesBodies : Bool
  /-- Kinds and radii of particles to be inserted during the run. -/
  inserted : List (Nat × α)
  /-- Length of a step, known once the run is set up. -/
  timestep : Option α
  /-- Whether forces are added to both members of a pair, ghost or not. -/
  loadsBoth : Bool
  /-- Whether the bonds of this run have been formed. -/
  bondsFormed : Bool

namespace Interaction

variable {α : Type} [Scalar α]

/-- An interaction that has not been set up, with a given pair table. -/
def start (material : Material α) (table : PairTable) : Interaction α where
  material := material
  table := table
  cutoffs := .empty
  ledger := .empty
  tookStorage := false
  bodies := .empty
  usesBodies := false
  inserted := []
  timestep := none
  loadsBoth := true
  bondsFormed := false

/-- A new interaction of a number of kinds. -/
def create (material : Material α) (kinds : UInt64) : Except (Fault α) (Interaction α) := do
  material.validate
  if kinds = 0 then .error (.setup .noKinds)
  else .ok (start material (.empty kinds))

/-- A new interaction with the material of nine settings. -/
def ofSettings (settings : List String) (kinds : UInt64) :
    Except (Fault Float) (Interaction Float) := do
  let material ← Material.ofSettings settings
  create material kinds

omit [Scalar α] in
/-- Announce particles of a kind and radius that will be inserted during the
run. -/
def withInserted (interaction : Interaction α) (kind : Nat) (radius : α) : Interaction α :=
  { interaction with inserted := interaction.inserted ++ [(kind, radius)] }

/-- Body masses, while they count. -/
def activeBodies (interaction : Interaction α) : Option (BodyCache α) :=
  if interaction.usesBodies then some interaction.bodies else none

omit [Scalar α] in
/-- Whether the interaction holds storage for records or body masses. -/
def holdsStorage (interaction : Interaction α) : Bool :=
  interaction.tookStorage || !interaction.bodies.masses.isEmpty

end Interaction

end GranularBonds

import GranularBonds.Proofs.Bonding
import GranularBonds.Proofs.Mass.BodyCache
import GranularBonds.Proofs.Neighbors
import Mathlib.Logic.Equiv.Defs

/-!
# Particles in another order

Positions in an assembly are good for one step, and two workers may hold the
same particles in different orders.  Everything that a pass remembers goes by
tags, and what goes by positions, the loads and the body masses, is found again
at the new ones.  Main statement: when a list is renumbered with the particles
and keeps its order, a pass over it leaves the same ledger and the same report,
and every particle has the same load.
-/

namespace GranularBonds

variable {α : Type}

/-! ## Assemblies -/

/-- The same particles, each at the position that an order gives it, the owned
ones still in front of the ghosts. -/
structure Assembly.Renumbered (order : Equiv.Perm Nat) (left right : Assembly α) : Prop where
  size : right.size = left.size
  kindCount : right.kindCount = left.kindCount
  get? : ∀ index, right.get? (order index) = left.get? index
  owned : ∀ index < left.size, right.isOwned (order index) = left.isOwned index

namespace Assembly.Renumbered

variable {order : Equiv.Perm Nat} {left right : Assembly α}

theorem lt_size (renumbered : Renumbered order left right) (index : Nat) :
    order index < right.size ↔ index < left.size := by
  have same := congrArg Option.isSome (renumbered.get? index)
  simp only [Assembly.get?] at same
  rw [Bool.eq_iff_iff, isSome_getElem?, isSome_getElem?] at same
  exact same

theorem particle (renumbered : Renumbered order left right) (index : Nat) :
    right.particle (order index) = left.particle index := by
  rw [Assembly.particle, renumbered.get?, Assembly.particle]

theorem modify (renumbered : Renumbered order left right) (index : Nat)
    (change : Particle α → Particle α) :
    Renumbered order (left.modify index change) (right.modify (order index) change) where
  size := by simpa using renumbered.size
  kindCount := renumbered.kindCount
  get? other := by
    simp only [Assembly.get?_modify, renumbered.get?, order.injective.eq_iff]
  owned other inside := renumbered.owned other (by simpa using inside)

theorem isOwned_iff (renumbered : Renumbered order left right) {index : Nat}
    (inside : index < left.size) :
    order index < right.ownedCount ↔ index < left.ownedCount := by
  have both := renumbered.owned index inside
  simpa only [Assembly.isOwned, decide_eq_decide] using both

/-- Both own the same particles. -/
theorem mem_owned_iff (renumbered : Renumbered order left right) (particle : Particle α) :
    particle ∈ right.owned ↔ particle ∈ left.owned := by
  have listed : ∀ assembly : Assembly α, particle ∈ assembly.owned ↔
      ∃ index < assembly.ownedCount, assembly.get? index = some particle := by
    intro assembly
    simp only [Assembly.owned, List.mem_iff_getElem?, List.getElem?_take,
      Option.ite_none_right_eq_some, Assembly.get?]
  rw [listed, listed]
  constructor
  · intro found
    rcases found with ⟨index, own, here⟩
    have place : order (order.symm index) = index := order.apply_symm_apply index
    rw [← place, renumbered.get?] at here
    have inside := (List.getElem?_eq_some_iff.mp here).1
    exact ⟨order.symm index, (renumbered.isOwned_iff inside).mp (place.symm ▸ own), here⟩
  · intro found
    rcases found with ⟨index, own, here⟩
    have inside := (List.getElem?_eq_some_iff.mp here).1
    exact ⟨order index, (renumbered.isOwned_iff inside).mpr own, (renumbered.get? index).trans here⟩

end Assembly.Renumbered

/-! ## Faults -/

/-- The same fault, where the positions are others. -/
def Fault.renumbered (order : Equiv.Perm Nat) : Fault α → Fault α
  | .particleIndex index count => .particleIndex (order index) count
  | fault => fault

/-! ## Lists -/

namespace NeighborList

/-- The same pairs in the same order, each position replaced. -/
def renumbered (order : Equiv.Perm Nat) (list : NeighborList) : NeighborList :=
  ⟨list.entries.map fun entry => (order entry.1, entry.2.map order)⟩

variable {order : Equiv.Perm Nat} {left right : Assembly α}

theorem pairs_renumbered (order : Equiv.Perm Nat) (list : NeighborList) :
    (list.renumbered order).pairs = list.pairs.map (Prod.map order order) := by
  simp only [pairs, renumbered, List.flatMap_map, List.map_flatMap, List.map_map]
  rfl

theorem fits_renumbered (same : left.Renumbered order right) (list : NeighborList) :
    (list.renumbered order).Fits right ↔ list.Fits left := by
  simp only [Fits, renumbered, List.forall_mem_map, same.lt_size]

theorem outside?_renumbered (same : left.Renumbered order right) (list : NeighborList) :
    (list.renumbered order).outside? right = (list.outside? left).map order := by
  have outside : ∀ index, decide (right.size ≤ order index) = decide (left.size ≤ index) := by
    intro index
    rw [decide_eq_decide, ← Nat.not_lt, ← Nat.not_lt, same.lt_size]
  have positions : ((list.renumbered order).pairs.flatMap fun pair => [pair.1, pair.2]) =
      (list.pairs.flatMap fun pair => [pair.1, pair.2]).map order := by
    simp only [pairs_renumbered, List.flatMap_map, List.map_flatMap]
    rfl
  rw [outside?, outside?, positions, List.find?_map]
  simp only [Function.comp_def, outside]

theorem check_renumbered (same : left.Renumbered order right) (list : NeighborList) :
    (list.renumbered order).check right = (list.check left).mapError (Fault.renumbered order) := by
  rw [check, check, outside?_renumbered same, same.size]
  cases list.outside? left <;> rfl

theorem misfit_renumbered (same : left.Renumbered order right) (list : NeighborList) :
    (list.renumbered order).misfit right = (list.misfit left).renumbered order := by
  rw [misfit, misfit, check_renumbered same]
  cases list.check left <;> rfl

end NeighborList

variable [Scalar α]

/-! ## Encounters -/

/-- The encounter of the same particles at their new positions. -/
def Encounter.renumbered (order : Equiv.Perm Nat) (encounter : Encounter α) : Encounter α :=
  { encounter with first := order encounter.first, second := order encounter.second }

theorem Encounter.at?_renumbered {order : Equiv.Perm Nat} {left right : Assembly α}
    (same : left.Renumbered order right) (pair : Nat × Nat) :
    at? right (Prod.map order order pair) = (at? left pair).map (renumbered order) := by
  simp only [at?, Assembly.get?_cleared, Prod.map_fst, Prod.map_snd, same.get?]
  cases left.get? pair.1 <;> cases left.get? pair.2 <;> rfl

theorem NeighborList.encounters_renumbered {order : Equiv.Perm Nat} {left right : Assembly α}
    (same : left.Renumbered order right) (list : NeighborList) :
    (list.renumbered order).encounters right =
      (list.encounters left).map (Encounter.renumbered order) := by
  rw [encounters, encounters, pairs_renumbered, List.filterMap_map, List.map_filterMap]
  congr 1
  funext pair
  exact Encounter.at?_renumbered same pair

/-! ## Passes -/

/-- Two caches tell the same body masses of the particles of an assembly, which
are at the positions of an order in the second. -/
def BodyCache.Agree (order : Equiv.Perm Nat) (size : Nat) (left right : Option (BodyCache α)) :
    Prop :=
  ∀ index < size,
    (right.bind fun cache => cache.get? (order index)) = left.bind fun cache => cache.get? index

/-- The motion of two particles is the same at their new positions. -/
theorem BodyCache.Agree.ofParticles {order : Equiv.Perm Nat} {size : Nat}
    {left right : Option (BodyCache α)} (agree : Agree order size left right) {first second : Nat}
    (firstInside : first < size) (secondInside : second < size)
    (firstParticle secondParticle : Particle α) :
    Kinematics.ofParticles right (order first) (order second) firstParticle secondParticle =
      .ofParticles left first second firstParticle secondParticle := by
  simp only [Kinematics.ofParticles, Particle.contactMass, agree first firstInside,
    agree second secondInside]

/-- The same pass, with body masses by the new positions. -/
structure PassContext.Renumbered (order : Equiv.Perm Nat) (size : Nat)
    (left right : PassContext α) : Prop where
  material : right.material = left.material
  timestep : right.timestep = left.timestep
  loadsBoth : right.loadsBoth = left.loadsBoth
  bodies : BodyCache.Agree order size left.bodies right.bodies

/-- The same state of a pass, with the particles at their new positions. -/
structure PassState.Renumbered (order : Equiv.Perm Nat) (left right : PassState α) : Prop where
  assembly : left.assembly.Renumbered order right.assembly
  ledger : right.ledger = left.ledger
  report : right.report = left.report

namespace PassContext.Renumbered

variable {order : Equiv.Perm Nat} {size : Nat} {left right : PassContext α}

theorem load (same : left.Renumbered order size right) {assembly other : Assembly α}
    (particles : assembly.Renumbered order other) (first : Nat) {second : Nat}
    (inside : second < assembly.size) (outcome : Outcome α) :
    (left.load assembly first second outcome).Renumbered order
      (right.load other (order first) (order second) outcome) := by
  cases outcome with
  | separated | torn | coincident => exact particles
  | contact force =>
      have loaded : (assembly.load first force.force force.firstTorque).Renumbered order
          (other.load (order first) force.force force.firstTorque) :=
        particles.modify first _
      have owned := loaded.owned second (by simpa [Assembly.load] using inside)
      simp only [PassContext.load, same.loadsBoth, owned]
      split
      · exact loaded.modify second _
      · exact loaded

theorem meet (same : left.Renumbered order size right) {state other : PassState α}
    (states : state.Renumbered order other) (fixed : state.assembly.size = size)
    {encounter : Encounter α} (first : encounter.first < size) (second : encounter.second < size) :
    (left.meet state encounter).Renumbered order (right.meet other (encounter.renumbered order)) := by
  have evaluated : ∀ record, (encounter.renumbered order).evaluate right record =
      encounter.evaluate left record := by
    intro record
    have pair := same.bodies.ofParticles first second encounter.firstParticle
      encounter.secondParticle
    simp only [Encounter.evaluate, Encounter.kinematics, same.material, same.timestep]
    exact congrArg (left.material.evaluate · record encounter.flipped left.timestep) pair
  have key : (encounter.renumbered order).key = encounter.key := rfl
  constructor
  case assembly =>
    simp only [PassContext.meet, evaluated, key, states.ledger]
    exact same.load states.assembly encounter.first (fixed ▸ second) _
  case ledger => simp only [PassContext.meet, evaluated, key, states.ledger]
  case report => simp only [PassContext.meet, evaluated, key, states.ledger, states.report]

theorem foldl_meet (same : left.Renumbered order size right) {encounters : List (Encounter α)}
    (inside : ∀ encounter ∈ encounters, encounter.first < size ∧ encounter.second < size)
    {state other : PassState α} (states : state.Renumbered order other)
    (fixed : state.assembly.size = size) :
    (encounters.foldl left.meet state).Renumbered order
      ((encounters.map (Encounter.renumbered order)).foldl right.meet other) := by
  induction encounters generalizing state other with
  | nil => exact states
  | cons encounter later ih =>
      obtain ⟨⟨first, second⟩, inside⟩ := List.forall_mem_cons.mp inside
      exact ih inside (same.meet states fixed first second)
        ((left.size_meet state encounter).trans fixed)

/-- A pass over a renumbered list is the same pass: it is answered alike, leaves
the same ledger and report, and every particle has the same load. -/
theorem run {assembly other : Assembly α} (same : left.Renumbered order assembly.size right)
    (particles : assembly.Renumbered order other) (list : NeighborList) (ledger : Ledger α) :
    (∃ fault, left.run list assembly ledger = .error fault ∧
      right.run (list.renumbered order) other ledger = .error (fault.renumbered order)) ∨
    ∃ after ending, left.run list assembly ledger = .ok after ∧
      right.run (list.renumbered order) other ledger = .ok ending ∧
      after.Renumbered order ending := by
  by_cases fits : list.Fits assembly
  · have moved := (NeighborList.fits_renumbered particles list).mpr fits
    refine .inr ⟨_, _, left.run_eq_ok_iff.mpr ⟨fits, rfl⟩, right.run_eq_ok_iff.mpr ⟨moved, rfl⟩, ?_⟩
    rw [NeighborList.encounters_renumbered particles]
    have start : PassState.Renumbered order ⟨assembly, ledger, .none⟩ ⟨other, ledger, .none⟩ :=
      ⟨particles, rfl, rfl⟩
    apply same.foldl_meet _ start rfl
    exact fun encounter member => (NeighborList.pair_of_mem_encounters member).2
  · have misfit := mt (NeighborList.fits_renumbered particles list).mp fits
    refine .inl ⟨_, left.run_of_not_fits fits ledger, ?_⟩
    rw [right.run_of_not_fits misfit ledger, NeighborList.misfit_renumbered particles]

end PassContext.Renumbered

/-! ## Bonding -/

/-- Bonds are formed of the particles, wherever they are. -/
theorem Material.foldl_bond_renumbered (material : Material α) (order : Equiv.Perm Nat)
    (encounters : List (Encounter α)) (state : BondingReport × Ledger α) :
    (encounters.map (Encounter.renumbered order)).foldl material.bond state =
      encounters.foldl material.bond state := by
  rw [List.foldl_map]
  rfl

end GranularBonds

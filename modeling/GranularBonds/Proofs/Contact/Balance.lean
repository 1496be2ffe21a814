import Mathlib
import GranularBonds.Proofs.Contact.Replica
import GranularBonds.Proofs.Neighbors

/-!
# Loads on both members of a pair

A contact pushes its members with opposite forces.  Where both are loaded, a
pass changes single forces and not their sum.  Where a ghost that stands second
is left to its owner, a pass does the same with everything but the ghosts, and
nothing with these.
-/

namespace GranularBonds

/-! ## The sum of all forces -/

section Sum

variable {α : Type} [ExactScalar α]

namespace Assembly

/-- Sum of the forces on all particles, ghosts included. -/
def totalForce (assembly : Assembly α) : Vec3 α := (assembly.particles.map Particle.force).sum

theorem totalForce_load (assembly : Assembly α) {index : Nat} (inside : index < assembly.size)
    (force torque : Vec3 α) :
    (assembly.load index force torque).totalForce = assembly.totalForce + force := by
  simp only [totalForce, load, modify, size] at inside ⊢
  generalize assembly.particles = particles at inside ⊢
  induction particles generalizing index with
  | nil => cases inside
  | cons particle later ih =>
      cases index with
      | zero =>
          simp only [List.modify_zero_cons, List.map_cons, List.sum_cons, Particle.loaded]
          exact add_right_comm ..
      | succ index =>
          simp only [List.modify_succ_cons, List.map_cons, List.sum_cons]
          rw [ih (Nat.lt_of_succ_lt_succ inside), add_assoc]

end Assembly

namespace PassContext

variable (context : PassContext α)

/-- What a contact gives to one member it takes from the other. -/
theorem totalForce_passLoad (loadsBoth : context.loadsBoth = true) {assembly : Assembly α}
    {first second : Nat} (firstInside : first < assembly.size)
    (secondInside : second < assembly.size) (outcome : Outcome α) :
    (context.load assembly first second outcome).totalForce = assembly.totalForce := by
  cases outcome with
  | separated | torn | coincident => rfl
  | contact force =>
      have inside : second < (assembly.load first force.force force.firstTorque).size := by
        rwa [Assembly.load, Assembly.size_modify]
      simp only [load, loadsBoth, Bool.true_or, if_true]
      rw [Assembly.totalForce_load _ inside, Assembly.totalForce_load _ firstInside,
        add_neg_cancel_right]

theorem totalForce_foldl_meet (loadsBoth : context.loadsBoth = true) (state : PassState α)
    {encounters : List (Encounter α)} (inside : ∀ encounter ∈ encounters,
      encounter.first < state.assembly.size ∧ encounter.second < state.assembly.size) :
    (encounters.foldl context.meet state).assembly.totalForce = state.assembly.totalForce := by
  induction encounters generalizing state with
  | nil => rfl
  | cons encounter later ih =>
      obtain ⟨here, inside⟩ := List.forall_mem_cons.mp inside
      rw [List.foldl_cons, ih]
      · exact context.totalForce_passLoad loadsBoth here.1 here.2 _
      · rwa [context.size_meet]

end PassContext

end Sum

/-! ## Passes that leave ghosts to their owners -/

variable {α : Type} [Scalar α]

namespace Assembly

theorem owned_load (assembly : Assembly α) (index : Nat) (force torque : Vec3 α) :
    (assembly.load index force torque).owned =
      assembly.owned.modify index fun particle => particle.loaded force torque :=
  List.take_modify ..

/-- One assembly has had its ghosts left alone since it was the first one, and
another one, with the same owned particles, perhaps not. -/
structure Spares (assembly both single : Assembly α) : Prop where
  bothCount : both.ownedCount = assembly.ownedCount
  singleCount : single.ownedCount = assembly.ownedCount
  owned : single.owned = both.owned
  ghosts : single.ghosts = assembly.ghosts

namespace Spares

variable {assembly both single : Assembly α}

omit [Scalar α] in
theorem refl (assembly : Assembly α) : assembly.Spares assembly assembly := ⟨rfl, rfl, rfl, rfl⟩

/-- Owned particles are loaded in both. -/
theorem load (spares : assembly.Spares both single) {index : Nat}
    (own : assembly.isOwned index = true) (force torque : Vec3 α) :
    assembly.Spares (both.load index force torque) (single.load index force torque) where
  bothCount := spares.bothCount
  singleCount := spares.singleCount
  owned := by rw [owned_load, owned_load, spares.owned]
  ghosts := by
    have before : index < single.ownedCount := spares.singleCount ▸ of_decide_eq_true own
    rw [← spares.ghosts]
    exact List.drop_modify_of_lt _ index single.ownedCount single.particles before

/-- A ghost is loaded in one of them. -/
theorem load_ghost (spares : assembly.Spares both single) {index : Nat}
    (foreign : assembly.isOwned index = false) (force torque : Vec3 α) :
    assembly.Spares (both.load index force torque) single where
  bothCount := spares.bothCount
  singleCount := spares.singleCount
  owned := by
    have past : both.owned.length ≤ index := by
      simp only [isOwned, decide_eq_false_iff_not, Nat.not_lt] at foreign
      exact (List.length_take_le ..).trans (spares.bothCount ▸ foreign)
    rw [owned_load, List.modify_eq_self past, spares.owned]
  ghosts := spares.ghosts

end Spares

end Assembly

namespace PassContext

/-- The pass that loads both members of a pair, or that leaves a ghost as
second member to its owner. -/
def loading (context : PassContext α) (both : Bool) : PassContext α :=
  { context with loadsBoth := both }

/-- The loads of a pair with an owned particle first differ on a ghost
alone. -/
theorem spares_passLoad (context : PassContext α) {assembly both single : Assembly α}
    (spares : assembly.Spares both single) {first : Nat} (own : assembly.isOwned first = true)
    (second : Nat) (outcome : Outcome α) :
    assembly.Spares ((context.loading true).load both first second outcome)
      ((context.loading false).load single first second outcome) := by
  cases outcome with
  | separated | torn | coincident => exact spares
  | contact force =>
      have once := spares.load own force.force force.firstTorque
      simp only [load, loading, Bool.true_or, if_true, Bool.false_or]
      rw [Assembly.isOwned, once.singleCount]
      split
      case isTrue there => exact once.load there _ _
      case isFalse there => exact once.load_ghost (Bool.eq_false_iff.mpr there) _ _

end PassContext

/-- A state in which ghosts have been left alone since the pass began, beside
the one in which they perhaps have not. -/
structure PassState.Spares (assembly : Assembly α) (both single : PassState α) : Prop where
  ledger : single.ledger = both.ledger
  report : single.report = both.report
  assembly : assembly.Spares both.assembly single.assembly

namespace PassState.Spares

variable {assembly : Assembly α} {both single : PassState α}

/-- Both passes do the same with a pair, its loads on ghosts apart. -/
theorem meet (spares : Spares assembly both single) (context : PassContext α)
    {encounter : Encounter α} (own : assembly.isOwned encounter.first = true) :
    Spares assembly ((context.loading true).meet both encounter)
      ((context.loading false).meet single encounter) := by
  rcases both with ⟨bothAssembly, ledger, report⟩
  rcases single with ⟨singleAssembly, _, _⟩
  obtain ⟨rfl, rfl, spares⟩ := spares
  exact ⟨rfl, rfl, context.spares_passLoad spares own encounter.second _⟩

theorem foldl_meet (spares : Spares assembly both single) (context : PassContext α)
    {encounters : List (Encounter α)}
    (own : ∀ encounter ∈ encounters, assembly.isOwned encounter.first = true) :
    Spares assembly (encounters.foldl (context.loading true).meet both)
      (encounters.foldl (context.loading false).meet single) := by
  induction encounters generalizing both single with
  | nil => exact spares
  | cons encounter later ih =>
      obtain ⟨here, own⟩ := List.forall_mem_cons.mp own
      exact ih (spares.meet context here) own

end PassState.Spares

namespace PassContext

/-- How a pass loads its pairs.  If both members of every pair are loaded, then
in exact arithmetic a pass over a list that fits leaves the sum of all forces
as it was, however often the list repeats a pair.  And whatever the arithmetic,
if an owned particle stands first in every pair, it makes no difference to
reports, records, and owned particles with their loads whether ghosts that
stand second are loaded or left to their owners; if they are left, all ghosts
stay as they were, loads included.  A list that does not fit is refused alike. -/
theorem run_loading :
    (∀ {α : Type} [ExactScalar α] (context : PassContext α), context.loadsBoth = true →
        ∀ {list : NeighborList} {assembly : Assembly α} (ledger : Ledger α),
          list.Fits assembly → ∃ after, context.run list assembly ledger = .ok after ∧
            after.assembly.totalForce = assembly.totalForce) ∧
    ∀ {α : Type} [Scalar α] (context : PassContext α) {list : NeighborList}
        {assembly : Assembly α} (ledger : Ledger α),
      (∀ pair ∈ list.pairs, assembly.isOwned pair.1 = true) →
        (list.Fits assembly → ∃ both single,
          (context.loading true).run list assembly ledger = .ok both ∧
          (context.loading false).run list assembly ledger = .ok single ∧
          single.report = both.report ∧ single.ledger = both.ledger ∧
          single.assembly.owned = both.assembly.owned ∧
          single.assembly.ghosts = assembly.ghosts) ∧
        (¬list.Fits assembly → ∃ fault,
          (context.loading true).run list assembly ledger = .error fault ∧
          (context.loading false).run list assembly ledger = .error fault) := by
  constructor
  · intro α _ context loadsBoth list assembly ledger fits
    refine ⟨_, context.run_eq_ok_iff.mpr ⟨fits, rfl⟩, ?_⟩
    apply context.totalForce_foldl_meet loadsBoth ⟨assembly, ledger, .none⟩
    intro encounter member
    exact (NeighborList.pair_of_mem_encounters member).2
  · intro α _ context list assembly ledger own
    constructor
    · intro fits
      have start : PassState.Spares assembly ⟨assembly, ledger, .none⟩ ⟨assembly, ledger, .none⟩ :=
        ⟨rfl, rfl, .refl assembly⟩
      have spares : PassState.Spares assembly
          ((list.encounters assembly).foldl (context.loading true).meet ⟨assembly, ledger, .none⟩)
          ((list.encounters assembly).foldl (context.loading false).meet
            ⟨assembly, ledger, .none⟩) := by
        apply start.foldl_meet
        intro encounter member
        exact own _ (NeighborList.pair_of_mem_encounters member).1
      exact ⟨_, _, (run_eq_ok_iff _).mpr ⟨fits, rfl⟩, (run_eq_ok_iff _).mpr ⟨fits, rfl⟩,
        spares.report, spares.ledger, spares.assembly.owned, spares.assembly.ghosts⟩
    · intro misfit
      exact ⟨_, run_of_not_fits _ misfit ledger, run_of_not_fits _ misfit ledger⟩

/-- Two spheres in contact of which the second is a ghost. -/
def besideGhost {α : Type} [Scalar α] : Assembly α :=
  .ofGhosts [.atRest ⟨1⟩ 0 1 1] [.atRest ⟨2⟩ ⟨1, 0, 0⟩ 1 1]

/-- The pair is visited twice.  With both loaded the forces cancel out; with
the ghost left alone it has no load, and the owned sphere has the same. -/
theorem run_loading_besideGhost :
    let list : NeighborList := ⟨[(0, [1, 1])]⟩
    (∃ after, PassContext.run ⟨.standard, none, 1, true⟩ list (besideGhost (α := ℝ)) .empty =
        .ok after ∧ after.assembly.totalForce = besideGhost.totalForce) ∧
      ∃ both single,
        PassContext.run ⟨.standard, none, 0.001, true⟩ list (besideGhost (α := Float)) .empty =
          .ok both ∧
        PassContext.run ⟨.standard, none, 0.001, false⟩ list (besideGhost (α := Float)) .empty =
          .ok single ∧
        single.report = both.report ∧ single.assembly.owned = both.assembly.owned ∧
        single.assembly.ghosts = besideGhost.ghosts := by
  intro list
  have fits : ∀ {α : Type} [Scalar α], list.Fits (besideGhost (α := α)) := by
    intro α _
    have size : (besideGhost (α := α)).size = 2 := rfl
    simp [NeighborList.Fits, list, size]
  have own : ∀ pair ∈ list.pairs, (besideGhost (α := Float)).isOwned pair.1 = true := by
    decide
  constructor
  · exact run_loading.1 ⟨.standard, none, 1, true⟩ rfl .empty fits
  · rcases (run_loading.2 ⟨.standard, none, 0.001, true⟩ .empty own).1 fits with
      ⟨both, single, bothRun, singleRun, report, -, owned, ghosts⟩
    exact ⟨both, single, bothRun, singleRun, report, owned, ghosts⟩

end PassContext

end GranularBonds

import Mathlib
import GranularBonds.Proofs.Contact.Pass
import GranularBonds.Proofs.Contact.Reversal

/-!
# Passes as sums

When no key occurs twice in a neighbor list, every pair of a pass finds the
record that it had at its beginning, and a pass amounts to independent
evaluations whose results are put into the ledger and whose forces are added
up.  In exact arithmetic the order of the list is therefore irrelevant, and if
both members of every pair are loaded, so is the side from which a pair is
visited.
-/

namespace GranularBonds

attribute [ext] PassState

/-! ## Independent evaluations -/

section Independent

variable {α : Type} [Scalar α]

namespace PassContext

variable (context : PassContext α)

/-- What a pair does in a pass that begins with a given ledger. -/
def result (ledger : Ledger α) (encounter : Encounter α) : Outcome α × ContactRecord α :=
  encounter.evaluate context (ledger.getOrFresh encounter.key)

theorem result_insert (ledger : Ledger α) {key : PairKey} {encounter : Encounter α}
    (different : key ≠ encounter.key) (record : ContactRecord α) :
    context.result (ledger.insert key record) encounter = context.result ledger encounter := by
  have same : (ledger.insert key record).getOrFresh encounter.key =
      ledger.getOrFresh encounter.key := by
    simp only [Ledger.getOrFresh, Ledger.get?_insert, if_neg different]
  simp only [result, same]

/-- Without repeated keys no pair of a pass sees what another one writes. -/
theorem foldl_meet_eq {encounters : List (Encounter α)} (state : PassState α)
    {results : Encounter α → Outcome α × ContactRecord α}
    (distinct : (encounters.map Encounter.key).Nodup)
    (agree : ∀ encounter ∈ encounters, context.result state.ledger encounter = results encounter) :
    encounters.foldl context.meet state =
      { assembly := encounters.foldl
          (fun assembly encounter =>
            context.load assembly encounter.first encounter.second (results encounter).1)
          state.assembly
        ledger := encounters.foldl
          (fun ledger encounter => ledger.insert encounter.key (results encounter).2) state.ledger
        report := encounters.foldl
          (fun report encounter => report.counting (results encounter).1) state.report } := by
  induction encounters generalizing state with
  | nil => rfl
  | cons encounter later ih =>
      have fresh := (List.nodup_cons.mp distinct).1
      have distinct := (List.nodup_cons.mp distinct).2
      have here := (List.forall_mem_cons.mp agree).1
      have agree := (List.forall_mem_cons.mp agree).2
      have met : context.meet state encounter =
          ⟨context.load state.assembly encounter.first encounter.second (results encounter).1,
            state.ledger.insert encounter.key (results encounter).2,
            state.report.counting (results encounter).1⟩ := by
        rw [← here]
        rfl
      simp only [List.foldl_cons]
      rw [met, ih _ distinct]
      intro other member
      have different : encounter.key ≠ other.key := by
        intro same
        exact fresh (List.mem_map.mpr ⟨other, member, same.symm⟩)
      rw [context.result_insert state.ledger different]
      exact agree other member

end PassContext

omit [Scalar α] in
/-- Records put under different keys do not get in each other's way. -/
theorem Ledger.get?_foldl_insert {encounters : List (Encounter α)} (ledger : Ledger α)
    (results : Encounter α → ContactRecord α) (distinct : (encounters.map Encounter.key).Nodup) :
    let after := encounters.foldl
      (fun ledger encounter => ledger.insert encounter.key (results encounter)) ledger
    (∀ encounter ∈ encounters, after.get? encounter.key = some (results encounter)) ∧
      ∀ key, (∀ encounter ∈ encounters, encounter.key ≠ key) → after.get? key = ledger.get? key := by
  induction encounters generalizing ledger with
  | nil => exact ⟨List.forall_mem_nil _, fun _ _ => rfl⟩
  | cons encounter later ih =>
      have fresh := (List.nodup_cons.mp distinct).1
      have distinct := (List.nodup_cons.mp distinct).2
      obtain ⟨listed, unlisted⟩ := ih (ledger.insert encounter.key (results encounter)) distinct
      constructor
      · have alone : ∀ other ∈ later, other.key ≠ encounter.key := by
          intro other member same
          apply fresh
          rw [← same]
          exact List.mem_map_of_mem member
        apply List.forall_mem_cons.mpr ⟨?_, listed⟩
        rw [unlisted encounter.key alone, get?_insert, if_pos rfl]
      · intro key absent
        have here := (List.forall_mem_cons.mp absent).1
        have absent := (List.forall_mem_cons.mp absent).2
        rw [List.foldl_cons, unlisted key absent, get?_insert, if_neg here]

omit [Scalar α] in
/-- Records under different keys can be put in any order. -/
theorem Ledger.insert_comm (ledger : Ledger α) {first second : PairKey}
    (different : first ≠ second) (record other : ContactRecord α) :
    (ledger.insert first record).insert second other =
      (ledger.insert second other).insert first record := by
  apply Ledger.ext_get?
  intro key
  simp only [Ledger.get?_insert]
  by_cases atFirst : first = key
  · by_cases atSecond : second = key
    · exact absurd (atFirst.trans atSecond.symm) different
    · rw [if_neg atSecond, if_pos atFirst, if_pos atFirst]
  · rw [if_neg atFirst, if_neg atFirst]

omit [Scalar α] in
/-- Pairs can be counted in any order. -/
theorem PassReport.counting_comm (report : PassReport) (first second : Outcome α) :
    (report.counting first).counting second = (report.counting second).counting first := by
  cases first <;> cases second <;> simp [counting, Nat.add_right_comm]

namespace PassContext

variable (context : PassContext α) {encounters others : List (Encounter α)}

/-- What a pass over pairs with different keys leaves behind: every listed pair
has the record that its evaluation makes of the one at the beginning, every
other record is untouched, and no particle is changed but for its loads. -/
structure Leaves (encounters : List (Encounter α)) (assembly : Assembly α) (ledger : Ledger α)
    (after : PassState α) : Prop where
  listed : ∀ encounter ∈ encounters,
    after.ledger.get? encounter.key = some (context.result ledger encounter).2
  unlisted : ∀ key, (∀ encounter ∈ encounters, encounter.key ≠ key) →
    after.ledger.get? key = ledger.get? key
  unmoved : after.assembly.cleared = assembly.cleared

/-- A pass without repeated keys as its three folds over the results that its
pairs have at the beginning. -/
theorem foldl_meet_eq_results (distinct : (encounters.map Encounter.key).Nodup)
    (assembly : Assembly α) (ledger : Ledger α) :
    encounters.foldl context.meet ⟨assembly, ledger, .none⟩ =
      { assembly := encounters.foldl
          (fun assembly encounter =>
            context.load assembly encounter.first encounter.second
              (context.result ledger encounter).1)
          assembly
        ledger := encounters.foldl
          (fun known encounter =>
            known.insert encounter.key (context.result ledger encounter).2)
          ledger
        report := encounters.foldl
          (fun report encounter => report.counting (context.result ledger encounter).1) .none } :=
  context.foldl_meet_eq ⟨assembly, ledger, .none⟩ distinct (fun _ _ => rfl)

theorem leaves_foldl_meet (distinct : (encounters.map Encounter.key).Nodup)
    (assembly : Assembly α) (ledger : Ledger α) :
    context.Leaves encounters assembly ledger
      (encounters.foldl context.meet ⟨assembly, ledger, .none⟩) := by
  obtain ⟨listed, unlisted⟩ := Ledger.get?_foldl_insert ledger
    (fun encounter => (context.result ledger encounter).2) distinct
  constructor
  · rw [context.foldl_meet_eq_results distinct]
    exact listed
  · rw [context.foldl_meet_eq_results distinct]
    exact unlisted
  · exact context.cleared_foldl_meet encounters ⟨assembly, ledger, .none⟩

/-- Records and counts do not depend on the order of a list, whatever the
arithmetic. -/
theorem foldl_meet_perm (distinct : (encounters.map Encounter.key).Nodup)
    (permuted : encounters.Perm others) (assembly : Assembly α) (ledger : Ledger α) :
    let after := encounters.foldl context.meet ⟨assembly, ledger, .none⟩
    let otherAfter := others.foldl context.meet ⟨assembly, ledger, .none⟩
    otherAfter.ledger = after.ledger ∧ otherAfter.report = after.report := by
  have otherDistinct := (permuted.map Encounter.key).nodup distinct
  rw [context.foldl_meet_eq_results distinct, context.foldl_meet_eq_results otherDistinct]
  constructor
  · symm
    apply permuted.foldl_eq'
    intro first firstMember second secondMember known
    by_cases same : first = second
    · rw [same]
    · apply Ledger.insert_comm
      intro keys
      apply same
      exact List.inj_on_of_nodup_map distinct firstMember secondMember keys
  · symm
    apply permuted.foldl_eq'
    intro first _ second _ report
    exact PassReport.counting_comm report _ _

end PassContext

end Independent

variable {α : Type} [ExactScalar α]

/-! ## Loads as sums -/

namespace Particle

theorem loaded_zero (particle : Particle α) : particle.loaded 0 0 = particle := by
  simp [loaded]

theorem loaded_loaded (particle : Particle α) (force torque otherForce otherTorque : Vec3 α) :
    (particle.loaded force torque).loaded otherForce otherTorque =
      particle.loaded (force + otherForce) (torque + otherTorque) := by
  simp [loaded, add_assoc]

end Particle

namespace Assembly

/-- Two assemblies that differ at most in loads, and do not differ in the
particles either, are the same. -/
theorem ext_get? {left right : Assembly α} (cleared : left.cleared = right.cleared)
    (particles : ∀ index, left.get? index = right.get? index) : left = right := by
  have owned : left.ownedCount = right.ownedCount := (congrArg ownedCount cleared :)
  have kinds : left.kindWord = right.kindWord := (congrArg kindWord cleared :)
  rcases left with ⟨leftParticles, _, _⟩
  rcases right with ⟨rightParticles, _, _⟩
  have same : leftParticles = rightParticles := List.ext_getElem? particles
  subst same owned kinds
  rfl

theorem get?_load (assembly : Assembly α) (index other : Nat) (force torque : Vec3 α) :
    (assembly.load index force torque).get? other =
      if index = other then (assembly.get? other).map fun particle => particle.loaded force torque
      else assembly.get? other :=
  assembly.get?_modify index other _

/-- Loads can be added in any order. -/
theorem load_comm (assembly : Assembly α) (first second : Nat)
    (force torque otherForce otherTorque : Vec3 α) :
    (assembly.load first force torque).load second otherForce otherTorque =
      (assembly.load second otherForce otherTorque).load first force torque := by
  apply ext_get?
  · simp only [cleared_load]
  · intro index
    simp only [get?_load]
    by_cases atFirst : first = index <;> by_cases atSecond : second = index <;>
      simp [atFirst, atSecond, Particle.loaded_loaded, add_comm, Function.comp_def]

end Assembly

namespace PassContext

variable (context : PassContext α)

/-- What an encounter adds to the force and the torque of the particle at a
position. -/
def share (assembly : Assembly α) (encounter : Encounter α) (outcome : Outcome α) (index : Nat) :
    Vec3 α × Vec3 α :=
  match outcome with
  | .contact force =>
      (if encounter.first = index then (force.force, force.firstTorque) else 0) +
        (if encounter.second = index ∧
            (context.loadsBoth || assembly.isOwned encounter.second) = true then
          (-force.force, force.secondTorque)
        else 0)
  | _ => 0

/-- What an encounter adds depends on nothing that passes change. -/
theorem share_passLoad (assembly : Assembly α) (first second : Nat) (other : Outcome α) :
    context.share (context.load assembly first second other) = context.share assembly := by
  funext encounter outcome index
  have owned : (context.load assembly first second other).isOwned = assembly.isOwned := by
    funext position
    simp only [Assembly.isOwned, ownedCount_passLoad]
  cases outcome with
  | separated | torn | coincident => rfl
  | contact force => simp only [share, owned]

theorem get?_passLoad (assembly : Assembly α) (encounter : Encounter α) (outcome : Outcome α)
    (index : Nat) :
    (context.load assembly encounter.first encounter.second outcome).get? index =
      (assembly.get? index).map fun particle =>
        particle.loaded (context.share assembly encounter outcome index).1
          (context.share assembly encounter outcome index).2 := by
  cases outcome with
  | separated | torn | coincident => simp [load, share, Particle.loaded_zero]
  | contact force =>
      simp only [load, share]
      by_cases both : (context.loadsBoth || assembly.isOwned encounter.second) = true
      · have both' : (context.loadsBoth ||
            (assembly.load encounter.first force.force force.firstTorque).isOwned
              encounter.second) = true := both
        rw [if_pos both']
        simp only [Assembly.get?_load, both, and_true]
        by_cases atFirst : encounter.first = index <;>
          by_cases atSecond : encounter.second = index <;>
            simp [atFirst, atSecond, Particle.loaded_loaded, Particle.loaded_zero,
              Function.comp_def]
      · have one : ¬(context.loadsBoth ||
            (assembly.load encounter.first force.force force.firstTorque).isOwned
              encounter.second) = true := both
        rw [if_neg one]
        simp only [Assembly.get?_load, both]
        by_cases atFirst : encounter.first = index <;>
          simp [atFirst, Particle.loaded_zero]

/-- The loads of a particle after a pass are those before it and the sum of
what its encounters add. -/
theorem get?_foldl_load (outcomes : Encounter α → Outcome α) (encounters : List (Encounter α))
    (assembly : Assembly α) (index : Nat) :
    (encounters.foldl
        (fun assembly encounter =>
          context.load assembly encounter.first encounter.second (outcomes encounter))
        assembly).get? index =
      (assembly.get? index).map fun particle =>
        let added := (encounters.map fun encounter =>
          context.share assembly encounter (outcomes encounter) index).sum
        particle.loaded added.1 added.2 := by
  induction encounters generalizing assembly with
  | nil => simp [Particle.loaded_zero]
  | cons encounter later ih =>
      rw [List.foldl_cons, ih, share_passLoad, get?_passLoad]
      simp only [Option.map_map, Function.comp_def, Particle.loaded_loaded, List.map_cons,
        List.sum_cons, Prod.fst_add, Prod.snd_add]

theorem cleared_foldl_load (outcomes : Encounter α → Outcome α)
    (encounters : List (Encounter α)) (assembly : Assembly α) :
    (encounters.foldl
        (fun assembly encounter =>
          context.load assembly encounter.first encounter.second (outcomes encounter))
        assembly).cleared = assembly.cleared := by
  induction encounters generalizing assembly with
  | nil => rfl
  | cons encounter later ih => rw [List.foldl_cons, ih, cleared_passLoad]

end PassContext

/-! ## Order of a list -/

namespace PassContext

variable (context : PassContext α)

theorem passLoad_comm (assembly : Assembly α) (first second : Encounter α)
    (firstOutcome secondOutcome : Outcome α) :
    context.load (context.load assembly first.first first.second firstOutcome)
        second.first second.second secondOutcome =
      context.load (context.load assembly second.first second.second secondOutcome)
        first.first first.second firstOutcome := by
  apply Assembly.ext_get?
  · simp only [cleared_passLoad]
  · intro index
    simp only [get?_passLoad, share_passLoad, Option.map_map, Function.comp_def,
      Particle.loaded_loaded]
    simp only [add_comm]

/-- In exact arithmetic nothing of a pass depends on the order of its list. -/
theorem foldl_meet_eq_of_perm {encounters others : List (Encounter α)}
    (distinct : (encounters.map Encounter.key).Nodup) (permuted : encounters.Perm others)
    (assembly : Assembly α) (ledger : Ledger α) :
    others.foldl context.meet ⟨assembly, ledger, .none⟩ =
      encounters.foldl context.meet ⟨assembly, ledger, .none⟩ := by
  have otherDistinct := (permuted.map Encounter.key).nodup distinct
  obtain ⟨sameLedger, sameReport⟩ := context.foldl_meet_perm distinct permuted assembly ledger
  have sameAssembly : (others.foldl context.meet ⟨assembly, ledger, .none⟩).assembly =
      (encounters.foldl context.meet ⟨assembly, ledger, .none⟩).assembly := by
    rw [context.foldl_meet_eq_results distinct, context.foldl_meet_eq_results otherDistinct]
    symm
    apply permuted.foldl_eq'
    intro first _ second _ assembly
    exact context.passLoad_comm ..
  exact PassState.ext sameAssembly sameLedger sameReport

end PassContext

/-! ## Sides of a pair -/

/-- Masses reduce to the same from both sides, unless both sides are frozen and
differ. -/
theorem ContactMass.reduced_comm (first second : ContactMass α)
    (alike : first.frozen = true → second.frozen = true → first.resolved = second.resolved) :
    second.reduced first = first.reduced second := by
  unfold reduced
  cases firstFrozen : first.frozen <;> cases secondFrozen : second.frozen
  · simp only [Bool.false_eq_true, if_false]
    rw [mul_comm, add_comm]
  · rfl
  · rfl
  · exact (alike firstFrozen secondFrozen).symm

namespace Encounter

omit [ExactScalar α] in
/-- The same encounter from the other side. -/
def swapped (encounter : Encounter α) : Encounter α :=
  ⟨encounter.second, encounter.first, encounter.secondParticle, encounter.firstParticle⟩

/-- The sides of an encounter can be exchanged: its particles have different
tags, and the same mass if both are frozen. -/
def Reversible (bodies : Option (BodyCache α)) (encounter : Encounter α) : Prop :=
  encounter.firstParticle.tag ≠ encounter.secondParticle.tag ∧
    (encounter.firstParticle.frozen = true → encounter.secondParticle.frozen = true →
      (encounter.firstParticle.contactMass bodies encounter.first).resolved =
        (encounter.secondParticle.contactMass bodies encounter.second).resolved)

theorem at?_swap (assembly : Assembly α) (pair : Nat × Nat) :
    at? assembly pair.swap = (at? assembly pair).map swapped := by
  simp only [at?, Prod.fst_swap, Prod.snd_swap]
  cases assembly.cleared.get? pair.1 <;> cases assembly.cleared.get? pair.2 <;> rfl

omit [ExactScalar α] in
@[simp] theorem key_swapped (encounter : Encounter α) : encounter.swapped.key = encounter.key :=
  PairKey.ofTags_comm ..

theorem kinematics_swapped {bodies : Option (BodyCache α)} {encounter : Encounter α}
    (reversible : encounter.Reversible bodies) :
    encounter.swapped.kinematics bodies = (encounter.kinematics bodies).reversed := by
  have mass := ContactMass.reduced_comm
    (encounter.firstParticle.contactMass bodies encounter.first)
    (encounter.secondParticle.contactMass bodies encounter.second) reversible.2
  simp only [kinematics, swapped, Kinematics.ofParticles, Kinematics.reversed, neg_sub, mass]

/-- From the other side a pair does the mirrored thing, and its record is the
same. -/
theorem evaluate_swapped (context : PassContext α) {encounter : Encounter α}
    (reversible : encounter.Reversible context.bodies) (record : ContactRecord α) :
    encounter.swapped.evaluate context record =
      ((encounter.evaluate context record).1.mirrored, (encounter.evaluate context record).2) := by
  have flipped : encounter.swapped.flipped = !encounter.flipped :=
    PairKey.oriented_swap_snd reversible.1
  simp only [evaluate, kinematics_swapped reversible, flipped, Material.evaluate_reversed]

end Encounter

namespace PassContext

variable (context : PassContext α)

theorem passLoad_mirrored (loadsBoth : context.loadsBoth = true) (assembly : Assembly α)
    (first second : Nat) (outcome : Outcome α) :
    context.load assembly second first outcome.mirrored =
      context.load assembly first second outcome := by
  cases outcome with
  | separated | torn | coincident => rfl
  | contact force =>
      simp only [load, Outcome.mirrored, ContactForce.mirrored, loadsBoth, Bool.true_or, if_true,
        neg_neg]
      exact Assembly.load_comm ..

/-- If both members are loaded, it does not matter from which side a pair is
visited. -/
theorem meet_swapped (loadsBoth : context.loadsBoth = true) (state : PassState α)
    {encounter : Encounter α} (reversible : encounter.Reversible context.bodies) :
    context.meet state encounter.swapped = context.meet state encounter := by
  have counted : ∀ outcome : Outcome α,
      state.report.counting outcome.mirrored = state.report.counting outcome := by
    intro outcome
    cases outcome <;> rfl
  simp only [meet, Encounter.key_swapped, Encounter.evaluate_swapped context reversible, counted]
  congr 1
  exact context.passLoad_mirrored loadsBoth ..

/-- One pair of positions stands for another: it is the same one, or the same
from the other side where that makes no difference. -/
def StandsFor (assembly : Assembly α) (pair other : Nat × Nat) : Prop :=
  other = pair ∨ context.loadsBoth = true ∧ other = pair.swap ∧
    ∀ encounter, Encounter.at? assembly pair = some encounter →
      encounter.Reversible context.bodies

/-- One list is another one in a different order, with some pairs seen from the
other side. -/
def Rearranged (assembly : Assembly α) (list other : NeighborList) : Prop :=
  ∃ between, list.pairs.Perm between ∧
    List.Forall₂ (context.StandsFor assembly) between other.pairs

theorem foldl_meet_of_standsFor {assembly : Assembly α} {pairs others : List (Nat × Nat)}
    (standsFor : List.Forall₂ (context.StandsFor assembly) pairs others) (state : PassState α) :
    (others.filterMap (Encounter.at? assembly)).foldl context.meet state =
      (pairs.filterMap (Encounter.at? assembly)).foldl context.meet state := by
  induction standsFor generalizing state with
  | nil => rfl
  | @cons pair other pairs others here _ ih =>
      rcases here with rfl | ⟨loadsBoth, rfl, reversible⟩
      · simp only [List.filterMap_cons]
        cases Encounter.at? assembly other with
        | none => exact ih state
        | some encounter => exact ih (context.meet state encounter)
      · simp only [List.filterMap_cons, Encounter.at?_swap]
        cases met : Encounter.at? assembly pair with
        | none => exact ih state
        | some encounter =>
            simp only [Option.map_some, List.foldl_cons,
              context.meet_swapped loadsBoth state (reversible encounter met)]
            exact ih (context.meet state encounter)

end PassContext

namespace PassContext

/-- Three spheres, each in contact with the one before it. -/
noncomputable def chain : Assembly ℝ :=
  .ofOwned [.atRest ⟨1⟩ 0 1 1, .atRest ⟨2⟩ ⟨1, 0, 0⟩ 1 1, .atRest ⟨3⟩ ⟨1, 1, 0⟩ 1 1]

end PassContext

end GranularBonds

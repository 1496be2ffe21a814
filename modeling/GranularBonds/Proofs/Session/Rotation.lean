import GranularBonds.Proofs.Contact.Agreement
import GranularBonds.Proofs.Contact.Rotation
import GranularBonds.Proofs.Session.Acceptance

/-!
# Runs in a rotated space

A simulation can be rotated as a whole: all particles with their motion and
their loads, and all that is remembered of the pairs.  Calls see lengths and
tags of the particles and nothing of the directions in which they lie, and a
step adds up what the pairs do.  Main statement: a run in rotated space is
answered as the run itself, up to the rotation of what a preview tells, and
ends in its rotated end.
-/

namespace GranularBonds

variable {α : Type} [ExactScalar α] (rotation : Rotation α)

/-! ## Particles -/

/-- The particle in rotated space. -/
def Particle.rotated (particle : Particle α) : Particle α :=
  { particle with
    position := rotation.apply particle.position
    velocity := rotation.apply particle.velocity
    spin := rotation.apply particle.spin
    force := rotation.apply particle.force
    torque := rotation.apply particle.torque }

namespace Particle

theorem cleared_rotated (particle : Particle α) :
    (particle.rotated rotation).cleared = particle.cleared.rotated rotation := by
  simp only [cleared, rotated, Rotation.apply_zero]

theorem loaded_rotated (particle : Particle α) (force torque : Vec3 α) :
    (particle.rotated rotation).loaded (rotation.apply force) (rotation.apply torque) =
      (particle.loaded force torque).rotated rotation := by
  simp only [loaded, rotated, Rotation.apply_add]

end Particle

/-- All particles in rotated space. -/
def Assembly.rotated (assembly : Assembly α) : Assembly α :=
  { assembly with particles := assembly.particles.map (Particle.rotated rotation) }

namespace Assembly

variable (assembly : Assembly α)

@[simp] theorem size_rotated : (assembly.rotated rotation).size = assembly.size :=
  List.length_map _

@[simp] theorem get?_rotated (index : Nat) :
    (assembly.rotated rotation).get? index =
      (assembly.get? index).map (Particle.rotated rotation) :=
  List.getElem?_map

theorem particle_rotated (index : Nat) :
    (assembly.rotated rotation).particle index =
      (assembly.particle index).map (Particle.rotated rotation) := by
  simp only [particle, get?_rotated]
  cases assembly.get? index <;> rfl

theorem load_rotated (index : Nat) (force torque : Vec3 α) :
    (assembly.rotated rotation).load index (rotation.apply force) (rotation.apply torque) =
      (assembly.load index force torque).rotated rotation := by
  simp only [load, modify, rotated]
  congr 1
  apply List.ext_getElem?
  intro other
  simp only [List.getElem?_map, List.getElem?_modify]
  split
  · cases assembly.particles[other]? with
    | none => rfl
    | some particle => exact congrArg some (particle.loaded_rotated rotation force torque)
  · simp

theorem owned_rotated :
    (assembly.rotated rotation).owned = assembly.owned.map (Particle.rotated rotation) :=
  List.map_take.symm

end Assembly

/-- The motion of two particles in rotated space. -/
theorem Kinematics.ofParticles_rotated (bodies : Option (BodyCache α)) (first second : Nat)
    (firstParticle secondParticle : Particle α) :
    ofParticles bodies first second (firstParticle.rotated rotation)
        (secondParticle.rotated rotation) =
      (ofParticles bodies first second firstParticle secondParticle).rotated rotation := by
  simp only [ofParticles, rotated, Particle.rotated, Rotation.apply_sub, Particle.contactMass]

/-! ## Encounters -/

/-- The encounter in rotated space. -/
def Encounter.rotated (encounter : Encounter α) : Encounter α :=
  { encounter with
    firstParticle := encounter.firstParticle.rotated rotation
    secondParticle := encounter.secondParticle.rotated rotation }

namespace Encounter

theorem at?_rotated (assembly : Assembly α) (pair : Nat × Nat) :
    at? (assembly.rotated rotation) pair = (at? assembly pair).map (rotated rotation) := by
  simp only [at?, Assembly.get?_cleared, Assembly.get?_rotated]
  cases assembly.get? pair.1 with
  | none => rfl
  | some first =>
      cases assembly.get? pair.2 with
      | none => rfl
      | some second =>
          simp only [Option.map_some, Option.bind_some, Particle.cleared_rotated, rotated]

theorem kinematics_rotated (bodies : Option (BodyCache α)) (encounter : Encounter α) :
    (encounter.rotated rotation).kinematics bodies =
      (encounter.kinematics bodies).rotated rotation :=
  Kinematics.ofParticles_rotated rotation bodies encounter.first encounter.second
    encounter.firstParticle encounter.secondParticle

theorem evaluate_rotated (context : PassContext α) (encounter : Encounter α)
    (record : ContactRecord α) :
    (encounter.rotated rotation).evaluate context (record.rotated rotation) =
      (encounter.evaluate context record).map (Outcome.rotated rotation)
        (ContactRecord.rotated rotation) := by
  have flipped : (encounter.rotated rotation).flipped = encounter.flipped := rfl
  simp only [evaluate, kinematics_rotated, flipped, Material.evaluate_rotated]
  rfl

theorem firstRecord_rotated (material : Material α) (encounter : Encounter α) :
    (encounter.rotated rotation).firstRecord material =
      (encounter.firstRecord material).rotated rotation := by
  simp only [firstRecord, rotated, Particle.rotated, ← Rotation.apply_sub, Rotation.norm_apply,
    Material.firstRecord]
  split <;> simp only [ContactRecord.rotated, ContactRecord.bonded, ContactRecord.fresh,
    Rotation.apply_zero]

end Encounter

namespace NeighborList

variable (list : NeighborList) (assembly : Assembly α)

theorem encounters_rotated :
    list.encounters (assembly.rotated rotation) =
      (list.encounters assembly).map (Encounter.rotated rotation) := by
  rw [encounters, encounters, List.map_filterMap]
  congr 1
  funext pair
  exact Encounter.at?_rotated rotation assembly pair

theorem check_rotated : list.check (assembly.rotated rotation) = list.check assembly := by
  simp only [check, outside?, Assembly.size_rotated]

theorem fits_rotated : list.Fits (assembly.rotated rotation) ↔ list.Fits assembly := by
  simp only [Fits, Assembly.size_rotated]

end NeighborList

/-! ## Ledgers -/

/-- The ledger with the displacements of all its records rotated. -/
def Ledger.rotated (ledger : Ledger α) : Ledger α where
  entries := ledger.entries.map fun entry => (entry.1, entry.2.rotated rotation)
  ordered := List.pairwise_map.mpr ledger.ordered

namespace Ledger

@[simp] theorem get?_rotated (ledger : Ledger α) (key : PairKey) :
    (ledger.rotated rotation).get? key =
      (ledger.get? key).map (ContactRecord.rotated rotation) := by
  simp only [get?, rotated, List.find?_map, Option.map_map]
  rfl

theorem getOrFresh_rotated (ledger : Ledger α) (key : PairKey) :
    (ledger.rotated rotation).getOrFresh key = (ledger.getOrFresh key).rotated rotation := by
  simp only [getOrFresh, get?_rotated]
  cases ledger.get? key with
  | none => simp [ContactRecord.fresh, ContactRecord.rotated]
  | some record => rfl

theorem insert_rotated (ledger : Ledger α) (key : PairKey) (record : ContactRecord α) :
    (ledger.rotated rotation).insert key (record.rotated rotation) =
      (ledger.insert key record).rotated rotation := by
  apply ext_get?
  intro other
  simp only [get?_insert, get?_rotated]
  split <;> rfl

theorem retain_rotated (ledger : Ledger α) (listed : List PairKey) :
    (ledger.rotated rotation).retain listed = (ledger.retain listed).rotated rotation := by
  apply ext_get?
  intro key
  simp only [get?_retain, get?_rotated]
  split
  · rfl
  · cases ledger.get? key with
    | none => rfl
    | some record =>
        have cohesive : (record.rotated rotation).isCohesive = record.isCohesive := rfl
        simp only [Option.map_some, Option.bind_some, cohesive, ContactRecord.apart_rotated]
        split <;> rfl

@[simp] theorem isEmpty_rotated (ledger : Ledger α) :
    (ledger.rotated rotation).isEmpty = ledger.isEmpty := by
  simp only [isEmpty, rotated, List.isEmpty_map]

end Ledger

theorem Material.foldl_bond_rotated (material : Material α) (encounters : List (Encounter α))
    (report : BondingReport) (ledger : Ledger α) :
    (encounters.map (Encounter.rotated rotation)).foldl material.bond
        (report, ledger.rotated rotation) =
      (encounters.foldl material.bond (report, ledger)).map id (Ledger.rotated rotation) := by
  induction encounters generalizing report ledger with
  | nil => rfl
  | cons encounter later ih =>
      have key : (encounter.rotated rotation).key = encounter.key := rfl
      have cohesive : ((encounter.firstRecord material).rotated rotation).isCohesive =
          (encounter.firstRecord material).isCohesive := rfl
      simp only [List.map_cons, List.foldl_cons, bond, Encounter.firstRecord_rotated, key,
        cohesive, Ledger.insert_rotated]
      exact ih _ _

/-! ## Passes -/

/-- The state of a pass in rotated space. -/
def PassState.rotated (state : PassState α) : PassState α :=
  { state with
    assembly := state.assembly.rotated rotation
    ledger := state.ledger.rotated rotation }

namespace PassContext

variable (context : PassContext α)

theorem load_rotated (assembly : Assembly α) (first second : Nat) (outcome : Outcome α) :
    context.load (assembly.rotated rotation) first second (outcome.rotated rotation) =
      (context.load assembly first second outcome).rotated rotation := by
  cases outcome with
  | separated | torn | coincident => rfl
  | contact force =>
      have owned (assembly : Assembly α) :
          (assembly.rotated rotation).isOwned second = assembly.isOwned second := rfl
      simp only [load, Outcome.rotated, ContactForce.rotated, Assembly.load_rotated, owned,
        ← Rotation.apply_neg]
      split <;> rfl

theorem meet_rotated (state : PassState α) (encounter : Encounter α) :
    context.meet (state.rotated rotation) (encounter.rotated rotation) =
      (context.meet state encounter).rotated rotation := by
  have key : (encounter.rotated rotation).key = encounter.key := rfl
  have counted (outcome : Outcome α) :
      state.report.counting (outcome.rotated rotation) = state.report.counting outcome := by
    cases outcome <;> rfl
  simp only [meet, PassState.rotated, key, Ledger.getOrFresh_rotated, Encounter.evaluate_rotated,
    Prod.map_fst, Prod.map_snd, load_rotated, Ledger.insert_rotated, counted]
  rfl

theorem foldl_meet_rotated (encounters : List (Encounter α)) (state : PassState α) :
    (encounters.map (Encounter.rotated rotation)).foldl context.meet (state.rotated rotation) =
      (encounters.foldl context.meet state).rotated rotation := by
  induction encounters generalizing state with
  | nil => rfl
  | cons encounter later ih =>
      simp only [List.map_cons, List.foldl_cons, meet_rotated]
      exact ih _

end PassContext

/-! ## Parts of calls -/

/-- The cutoffs depend on the radii of the particles alone. -/
theorem CutoffTable.build_rotated {σ : Type} (exchange : Exchange σ α) (assembly : Assembly α)
    (inserted : List (Nat × α)) (state : σ) :
    build exchange (assembly.rotated rotation) inserted state =
      build exchange assembly inserted state := by
  have worker : ofWorker (assembly.rotated rotation) inserted = ofWorker assembly inserted := by
    rw [ofWorker, Assembly.owned_rotated, List.foldl_map]
    rfl
  simp only [build, worker]

/-- Pairs are known by the tags of their particles. -/
theorem NeighborList.keys_rotated (list : NeighborList) (assembly : Assembly α) :
    list.keys (assembly.rotated rotation) = list.keys assembly := by
  have each : keyOf (assembly.rotated rotation) = keyOf assembly := by
    funext pair
    simp only [keyOf, Assembly.particle_rotated]
    cases assembly.particle pair.1 with
    | error fault => rfl
    | ok first => cases assembly.particle pair.2 <;> rfl
  rw [keys, each, keys]

/-- What a preview tells, in rotated space. -/
def Preview.rotated (preview : Preview α) : Preview α :=
  { preview with
    outcome := preview.outcome.rotated rotation
    tangential := rotation.apply preview.tangential }

theorem Material.preview_rotated (material : Material α) (pair : Kinematics α)
    (record : ContactRecord α) (flipped : Bool) (timestep : α) :
    material.preview (pair.rotated rotation) (record.rotated rotation) flipped timestep =
      (material.preview pair record flipped timestep).rotated rotation := by
  have gap : (record.rotated rotation).initialGap = record.initialGap := rfl
  simp only [preview, evaluate_rotated, gap, Kinematics.overlap_rotated]
  cases (material.evaluate pair record flipped timestep).1 with
  | contact force => rfl
  | separated | torn | coincident =>
      simp only [Preview.rotated, Outcome.rotated, Rotation.apply_zero]
      rfl

namespace Session

variable {σ : Type}

/-- The session in rotated space. -/
def rotated (session : Session σ α) : Session σ α :=
  { session with
    interaction :=
      { session.interaction with ledger := session.interaction.ledger.rotated rotation }
    assembly := session.assembly.rotated rotation }

/-- The same action in rotated space. -/
def Action.rotated : Action σ α → Action σ α
  | .place assembly exchange => .place (assembly.rotated rotation) exchange
  | action => action

/-- The same answer in rotated space. -/
def Reply.rotated : Reply α → Reply α
  | .preview answer => .preview (answer.map (Preview.rotated rotation))
  | reply => reply

variable (session : Session σ α)

@[simp] theorem assembly_rotated :
    (session.rotated rotation).assembly = session.assembly.rotated rotation := rfl

@[simp] theorem ledger_rotated :
    (session.rotated rotation).interaction.ledger =
      session.interaction.ledger.rotated rotation := rfl

theorem withLedger_rotated (ledger : Ledger α) :
    (session.rotated rotation).withLedger (ledger.rotated rotation) =
      (session.withLedger ledger).rotated rotation := by
  simp only [withLedger, rotated, Ledger.isEmpty_rotated]

theorem refreshBodies_rotated (exchange : Exchange σ α) (bodies : Option (BodyMasses α)) :
    (session.rotated rotation).refreshBodies exchange bodies =
      (session.refreshBodies exchange bodies).rotated rotation := by
  cases bodies with
  | none => rfl
  | some bodies =>
      simp only [refreshBodies, rotated, BodyCache.refresh, Assembly.size_rotated]
      rfl

theorem prune_rotated (list : NeighborList) :
    (session.rotated rotation).prune list = (session.prune list).map id (rotated rotation) := by
  simp only [prune, assembly_rotated, NeighborList.keys_rotated]
  cases list.keys session.assembly with
  | error fault => rfl
  | ok keys =>
      simp only [ledger_rotated, Ledger.retain_rotated, withLedger_rotated]
      rfl

theorem adopt_rotated (exchange : Exchange σ α) (list : NeighborList)
    (bodies : Option (BodyMasses α)) :
    (session.rotated rotation).adopt exchange list bodies =
      (session.adopt exchange list bodies).map id (rotated rotation) := by
  simp only [adopt, assembly_rotated, NeighborList.check_rotated, refreshBodies_rotated,
    prune_rotated]
  cases list.check session.assembly <;> rfl

theorem evaluate_rotated (list : NeighborList) (timestep : α) :
    (session.rotated rotation).evaluate list timestep =
      (session.evaluate list timestep).map id (rotated rotation) := by
  by_cases fits : list.Fits session.assembly
  · have there := (list.fits_rotated rotation session.assembly).mpr fits
    have passes : (session.rotated rotation).passed list timestep =
        (session.passed list timestep).rotated rotation := by
      simp only [passed, assembly_rotated, NeighborList.encounters_rotated]
      exact PassContext.foldl_meet_rotated rotation (session.passContext timestep) _
        ⟨session.assembly, session.interaction.ledger, .none⟩
    rw [session.evaluate_of_fits timestep fits, evaluate_of_fits _ timestep there]
    simp only [advanced, passes]
    simp only [PassState.rotated, withLedger_rotated]
    rfl
  · have outside := mt (list.fits_rotated rotation session.assembly).mp fits
    have misfit : list.misfit (session.assembly.rotated rotation) =
        list.misfit session.assembly := by
      simp only [NeighborList.misfit, NeighborList.check_rotated]
    rw [session.evaluate_of_not_fits timestep fits, evaluate_of_not_fits _ timestep outside,
      assembly_rotated, misfit]
    rfl

theorem step_rotated (exchange : Exchange σ α) (context : StepContext α) (list : NeighborList)
    (bodies : Option (BodyMasses α)) :
    (session.rotated rotation).step exchange context list bodies =
      (session.step exchange context list bodies).map id (rotated rotation) := by
  have checked : (session.rotated rotation).checkStep context = session.checkStep context := rfl
  simp only [step, checked, adopt_rotated, evaluate_rotated]
  cases session.checkStep context with
  | error fault => rfl
  | ok timestep =>
      cases context.rebuilt with
      | false => rfl
      | true =>
          rcases session.adopt exchange list bodies with ⟨answer, adopted⟩
          cases answer with
          | error fault => rfl
          | ok _ => exact adopted.evaluate_rotated rotation list timestep

theorem checkBonding_rotated (list : NeighborList) :
    (session.rotated rotation).checkBonding list = session.checkBonding list := by
  simp only [checkBonding, assembly_rotated, NeighborList.check_rotated]
  rfl

theorem formBonds_rotated (list : NeighborList) :
    (session.rotated rotation).formBonds list =
      (session.formBonds list).map id (rotated rotation) := by
  have checked := session.checkBonding_rotated rotation list
  cases answer : session.checkBonding list with
  | error fault =>
      simp only [formBonds, checked, answer, bind, Except.bind]
      rfl
  | ok _ =>
      obtain ⟨known, unbonded, passes⟩ := checkBonding_eq_ok_iff.mp answer
      obtain ⟨timestep, known⟩ := Option.isSome_iff_exists.mp known
      have there : list.check (session.rotated rotation).assembly = .ok () :=
        (list.check_rotated rotation session.assembly).trans passes
      rw [session.formBonds_of_check known unbonded passes,
        (session.rotated rotation).formBonds_of_check known unbonded there]
      have bonds := session.interaction.material.foldl_bond_rotated rotation
        (list.encounters session.assembly) ⟨0, 0⟩ session.interaction.ledger
      have material : (session.rotated rotation).interaction.material =
        session.interaction.material := rfl
      simp only [assembly_rotated, ledger_rotated, NeighborList.encounters_rotated, material, bonds,
        Prod.map_fst, Prod.map_snd, withLedger_rotated]
      rfl

theorem checkSetup_rotated (setup : RunSetup α) :
    (session.rotated rotation).checkSetup setup = session.checkSetup setup := by
  have owned : (session.assembly.owned.map (Particle.rotated rotation)).forM checkParticle =
      session.assembly.owned.forM checkParticle := by
    rw [List.forM_eq_forM, List.forM_map]
    rfl
  simp only [checkSetup, assembly_rotated, Assembly.owned_rotated, owned]
  rfl

theorem setUp_rotated (exchange : Exchange σ α) (setup : RunSetup α) :
    (session.rotated rotation).setUp exchange setup =
      (session.setUp exchange setup).map id (rotated rotation) := by
  simp only [setUp, checkSetup_rotated, assembly_rotated, CutoffTable.build_rotated]
  cases session.checkSetup setup <;> rfl

theorem preview_rotated (first second : Nat) :
    (session.rotated rotation).preview first second =
      (session.preview first second).map (Preview.rotated rotation) := by
  have timestep : (session.rotated rotation).requireTimestep .preview =
      session.requireTimestep .preview := rfl
  have position (index : Nat) : (session.rotated rotation).checkPosition index =
      session.checkPosition index := by
    simp only [checkPosition, assembly_rotated, Assembly.size_rotated]
  simp only [preview, timestep, position, assembly_rotated, Assembly.particle_rotated]
  cases session.requireTimestep .preview with
  | error fault => rfl
  | ok timestep =>
  cases session.checkPosition first with
  | error fault => rfl
  | ok _ =>
  cases session.checkPosition second with
  | error fault => rfl
  | ok _ =>
  cases session.assembly.particle first with
  | error fault => rfl
  | ok firstParticle =>
  cases session.assembly.particle second with
  | error fault => rfl
  | ok secondParticle =>
      have bodies : (session.rotated rotation).interaction.activeBodies =
        session.interaction.activeBodies := rfl
      have tag (particle : Particle α) : (particle.rotated rotation).tag = particle.tag := rfl
      simp only [Except.map, bind, Except.bind, pure, Except.pure, tag, bodies, ledger_rotated,
        Ledger.getOrFresh_rotated, Kinematics.ofParticles_rotated]
      exact congrArg Except.ok (Material.preview_rotated rotation ..)

/-! ## Runs -/

/-- An action in rotated space is answered as the action itself. -/
theorem perform_rotated (action : Action σ α) :
    (session.rotated rotation).perform (action.rotated rotation) =
      (session.perform action).map (Reply.rotated rotation) (rotated rotation) := by
  cases action with
  | announce | cutoff | place => rfl
  | configure rows columns =>
      simp only [Action.rotated, perform, configure, rotated]
      cases session.interaction.table.assign rows columns <;> rfl
  | resetTimestep timestep =>
      have required : (session.rotated rotation).requireTimestep .timestep =
          session.requireTimestep .timestep := rfl
      simp only [Action.rotated, perform, resetTimestep, required]
      cases session.requireTimestep .timestep >>= fun _ => checkTimestep timestep <;> rfl
  | setUp exchange setup =>
      simp only [Action.rotated, perform, setUp_rotated]
      rfl
  | formBonds list =>
      simp only [Action.rotated, perform, formBonds_rotated]
      rfl
  | step exchange context list bodies =>
      simp only [Action.rotated, perform, step_rotated]
      rfl
  | preview first second =>
      simp only [Action.rotated, perform, preview_rotated]
      rfl

/-- A run in rotated space is answered as the run itself, and ends in its
rotated end. -/
theorem run_rotated (actions : List (Action σ α)) :
    (session.rotated rotation).replies (actions.map (Action.rotated rotation)) =
        (session.replies actions).map (Reply.rotated rotation) ∧
      (session.rotated rotation).run (actions.map (Action.rotated rotation)) =
        (session.run actions).rotated rotation := by
  induction actions generalizing session with
  | nil => exact ⟨rfl, rfl⟩
  | cons action later ih =>
      obtain ⟨answers, reached⟩ := ih (session.perform action).2
      simp only [replies] at answers
      simp only [List.map_cons, replies, transcript, run_cons, perform_rotated, Prod.map_fst,
        Prod.map_snd, answers, reached, and_self]

/-- No direction in space is special.  A visit of a rotated pair, with the
stored displacement rotated, has the rotated outcome and leaves the rotated
record, and so does every visit of a history.  The same is true of all pairs
together: a run whose particles and records are rotated is answered as the run
itself, with what a preview tells rotated, and ends with the rotated particles
and records. -/
theorem rotation_indifferent :
    (∀ (material : Material α) (pair : Kinematics α) (record : ContactRecord α) (flipped : Bool)
        (timestep : α),
      material.evaluate (pair.rotated rotation) (record.rotated rotation) flipped timestep =
        (material.evaluate pair record flipped timestep).map (Outcome.rotated rotation)
          (ContactRecord.rotated rotation)) ∧
    (∀ (material : Material α) (record : ContactRecord α) (visits : List (Visit α)),
      material.follow (record.rotated rotation) (visits.map (Visit.rotated rotation)) =
        (material.follow record visits).map
          (Prod.map (Outcome.rotated rotation) (ContactRecord.rotated rotation))) ∧
    ∀ (session : Session σ α) (actions : List (Action σ α)),
      (session.rotated rotation).replies (actions.map (Action.rotated rotation)) =
          (session.replies actions).map (Reply.rotated rotation) ∧
        (session.rotated rotation).run (actions.map (Action.rotated rotation)) =
          (session.run actions).rotated rotation := by
  refine ⟨?_, ?_, ?_⟩
  · intro material pair record flipped timestep
    exact material.evaluate_rotated rotation pair record flipped timestep
  · intro material record visits
    exact material.follow_rotated rotation record visits
  · intro session actions
    exact session.run_rotated rotation actions

end Session

end GranularBonds

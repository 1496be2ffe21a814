import Mathlib
import GranularBonds.Proofs.Contact.PassSum
import GranularBonds.Proofs.Session.Run

/-!
# The regular course of a session

A simulation that keeps to the rules sets a session up, forms the bonds once,
and then computes step after step on lists that fit its particles.  Nothing of
this is refused.  Before the bonding there are no records; afterwards every
pass is a sum of independent evaluations with one material and one step length.
-/

namespace GranularBonds

/-- What the surrounding simulation hands to a session at one moment. -/
structure View (σ α : Type) where
  assembly : Assembly α
  list : NeighborList
  exchange : Exchange σ α
  transport : σ

namespace View

variable {σ α : Type} [ExactScalar α]

/-- The encounters of all pairs listed. -/
def encounters (view : View σ α) : List (Encounter α) := view.list.encounters view.assembly

omit [ExactScalar α] in
/-- The calls that form bonds on this view. -/
def bonding (view : View σ α) : List (Session.Action σ α) :=
  [.place view.assembly view.transport, .formBonds view.list]

omit [ExactScalar α] in
/-- The calls that compute a step on this view, without rigid bodies. -/
def stepping (view : View σ α) (context : StepContext α) : List (Session.Action σ α) :=
  [.place view.assembly view.transport, .step view.exchange context view.list none]

end View

namespace Session

variable {σ α : Type}

/-! ## Sessions before their bonds are formed -/

section Pristine

variable [Scalar α]

/-- A session that is set up with a step length and whose bonds are still to be
formed, after whatever calls there were before. -/
structure IsReady (session : Session σ α) (material : Material α) (timestep : α) : Prop where
  reached : ∃ table assembly transport actions,
    session = Session.run ⟨.start material table, assembly, transport⟩ actions
  timestep : session.interaction.timestep = some timestep
  unbonded : session.interaction.bondsFormed = false

/-- An accepted setup makes a new session ready. -/
theorem isReady_of_setUp {material : Material α} {table : PairTable} {assembly : Assembly α}
    {transport : σ} (exchange : Exchange σ α) {setup : RunSetup α}
    (accepted : checkSetup ⟨.start material table, assembly, transport⟩ setup = .ok ()) :
    let session := Session.run ⟨.start material table, assembly, transport⟩ [.setUp exchange setup]
    session.IsReady material setup.timestep ∧
      session.interaction.loadsBoth = setup.loadsBoth := by
  intro session
  have reached : session = (setUp exchange ⟨.start material table, assembly, transport⟩ setup).2 :=
    rfl
  simp only [setUp, accepted] at reached
  refine ⟨⟨⟨table, assembly, transport, _, rfl⟩, ?_, ?_⟩, ?_⟩ <;> rw [reached]
  rfl

/-- As long as no bonds are formed there are no records, no step has taken body
masses into account, and the material is the one given at the beginning. -/
def Pristine (material : Material α) (session : Session σ α) : Prop :=
  session.interaction.bondsFormed = false →
    session.interaction.material = material ∧ session.interaction.ledger = .empty ∧
      session.interaction.usesBodies = false

theorem pristine_perform {material : Material α} (session : Session σ α) (action : Action σ α)
    (pristine : session.Pristine material) : (session.perform action).2.Pristine material := by
  cases action with
  | announce | cutoff | preview | place => exact pristine
  | configure rows columns =>
      simp only [perform, configure]
      split <;> exact pristine
  | setUp exchange setup =>
      simp only [perform, setUp]
      split <;> exact pristine
  | resetTimestep timestep =>
      simp only [perform, resetTimestep]
      split <;> exact pristine
  | formBonds list =>
      rcases session.formBonds_cases list with ⟨fault, refused⟩ | ⟨-, -, formed⟩
      · simp only [perform, refused]
        exact pristine
      · simp only [perform, formed]
        intro unbonded
        cases unbonded
  | step exchange context list bodies =>
      have bonded := session.prepared_bondsFormed exchange context list bodies
      rcases session.step_cases exchange context list bodies with
        ⟨fault, refused⟩ | ⟨timestep, checked, -, ⟨fault, stopped⟩ | ⟨-, advanced⟩⟩
      · simp only [perform, refused]
        exact pristine
      · rw [bondsFormed_of_checkStep checked] at bonded
        simp only [perform, stopped]
        intro unbonded
        cases unbonded.symm.trans bonded
      · rw [bondsFormed_of_checkStep checked] at bonded
        simp only [perform, advanced]
        intro unbonded
        cases unbonded.symm.trans bonded

theorem pristine_run (material : Material α) (table : PairTable) (assembly : Assembly α)
    (transport : σ) (actions : List (Action σ α)) :
    (Session.run ⟨.start material table, assembly, transport⟩ actions).Pristine material :=
  run_induction (Pristine material) pristine_perform (fun _ => ⟨rfl, rfl, rfl⟩) actions

theorem IsReady.pristine {session : Session σ α} {material : Material α} {timestep : α}
    (ready : session.IsReady material timestep) :
    session.interaction.material = material ∧ session.interaction.ledger = .empty ∧
      session.interaction.usesBodies = false := by
  rcases ready.reached with ⟨table, assembly, transport, actions, reached⟩
  have pristine : session.Pristine material := by
    rw [reached]
    exact pristine_run material table assembly transport actions
  exact pristine ready.unbonded

/-! ## Sessions at work -/

/-- A session whose bonds are formed, that knows no rigid bodies, and whose
passes are these. -/
structure Follows (session : Session σ α) (pass : PassContext α) : Prop where
  material : session.interaction.material = pass.material
  timestep : session.interaction.timestep = some pass.timestep
  loadsBoth : session.interaction.loadsBoth = pass.loadsBoth
  free : session.interaction.usesBodies = false
  bodies : pass.bodies = none
  bonded : session.interaction.bondsFormed = true

namespace Follows

variable {session : Session σ α} {pass : PassContext α}

omit [Scalar α] in
theorem passContext (follows : session.Follows pass) :
    session.passContext pass.timestep = pass := by
  rcases pass with ⟨_, _, _, _⟩
  simp only [Session.passContext, Interaction.activeBodies, follows.material, follows.loadsBoth,
    follows.free, PassContext.mk.injEq, true_and, and_true]
  exact follows.bodies.symm

/-- A step without rigid bodies prepares nothing that its pass works with. -/
theorem prepared (follows : session.Follows pass) (exchange : Exchange σ α)
    (context : StepContext α) (list : NeighborList) :
    (session.prepared exchange context list none).Follows pass := by
  rcases follows with ⟨material, timestep, loadsBoth, free, bodies, bonded⟩
  unfold Session.prepared
  split
  · exact ⟨material, timestep, loadsBoth, rfl, bodies, bonded⟩
  · exact ⟨material, timestep, loadsBoth, free, bodies, bonded⟩

theorem advanced (follows : session.Follows pass) (list : NeighborList) (timestep : α) :
    (session.advanced list timestep).Follows pass :=
  ⟨follows.material, follows.timestep, follows.loadsBoth, follows.free, follows.bodies,
    follows.bonded⟩

end Follows

/-- A ready session accepts the bonding, and has nothing but the records of
its first list afterwards. -/
theorem IsReady.bonded {session : Session σ α} {material : Material α} {timestep : α}
    (ready : session.IsReady material timestep) {view : View σ α}
    (fits : view.list.Fits view.assembly) :
    let after := session.run view.bonding
    session.Accepts view.bonding ∧
      after.Follows ⟨material, none, timestep, session.interaction.loadsBoth⟩ ∧
      after.assembly = view.assembly ∧
      after.interaction.ledger =
        ((view.list.encounters view.assembly).foldl material.bond (⟨0, 0⟩, .empty)).2 := by
  obtain ⟨sameMaterial, empty, free⟩ := ready.pristine
  have formed := formBonds_of_check
    { session with assembly := view.assembly, exchange := view.transport }
    ready.timestep ready.unbonded fits.check
  simp only [sameMaterial, empty] at formed
  refine ⟨⟨rfl, ?_, trivial⟩, ?_⟩
  · simp only [perform, formed]
    rfl
  · simp only [View.bonding, run_cons, run_nil, perform, formed]
    exact ⟨⟨sameMaterial, ready.timestep, rfl, free, rfl, rfl⟩, rfl, rfl⟩

end Pristine

variable [ExactScalar α]

namespace Follows

variable {session : Session σ α} {pass : PassContext α}

theorem checkStep (follows : session.Follows pass) {context : StepContext α}
    (current : context.timestep = pass.timestep) :
    session.checkStep context = .ok pass.timestep := by
  have same : Scalar.Same context.timestep pass.timestep := by
    rw [current]
    exact ⟨le_refl _, le_refl _⟩
  simp [Session.checkStep, requireTimestep, follows.timestep, follows.bonded, bind, Except.bind,
    same]

/-- A session at work accepts a step, and the pass of the step is a sum of
independent evaluations. -/
theorem stepped (follows : session.Follows pass) {view : View σ α}
    (fits : view.list.Fits view.assembly) (once : (view.encounters.map Encounter.key).Nodup)
    {context : StepContext α} (current : context.timestep = pass.timestep) :
    let after := session.run (view.stepping context)
    let known :=
      if context.rebuilt then
        session.interaction.ledger.retain (view.encounters.map Encounter.key)
      else
        session.interaction.ledger
    session.Accepts (view.stepping context) ∧ after.Follows pass ∧
      after.interaction.ledger = view.encounters.foldl
        (fun ledger encounter => ledger.insert encounter.key (pass.result known encounter).2)
        known ∧
      after.assembly = view.encounters.foldl
        (fun assembly encounter =>
          pass.load assembly encounter.first encounter.second (pass.result known encounter).1)
        view.assembly := by
  intro after known
  let placed : Session σ α :=
    { session with assembly := view.assembly, exchange := view.transport }
  have placedFollows : placed.Follows pass :=
    ⟨follows.material, follows.timestep, follows.loadsBoth, follows.free, follows.bodies,
      follows.bonded⟩
  let ready := placed.prepared view.exchange context view.list none
  have readyFollows : ready.Follows pass := placedFollows.prepared view.exchange context view.list
  have stepped : placed.step view.exchange context view.list none =
      (.ok (ready.passed view.list pass.timestep).report,
        ready.advanced view.list pass.timestep) :=
    placed.step_of_fits view.exchange none (placedFollows.checkStep current) fits
  have folded : ready.passed view.list pass.timestep =
      view.encounters.foldl pass.meet ⟨view.assembly, known, .none⟩ := by
    have assembly : ready.assembly = view.assembly := placed.prepared_assembly ..
    have ledger : ready.interaction.ledger = known := placed.prepared_ledger ..
    rw [passed, readyFollows.passContext, assembly, ledger]
    rfl
  have independent := pass.foldl_meet_eq_results once view.assembly known
  have reached : after = ready.advanced view.list pass.timestep := congrArg Prod.snd stepped
  refine ⟨⟨rfl, ?_, trivial⟩, ?_, ?_, ?_⟩
  · exact congrArg (fun result => (Except.isOk result.1)) stepped
  · rw [reached]
    exact readyFollows.advanced view.list pass.timestep
  · rw [reached, Session.advanced, folded, independent]
    rfl
  · rw [reached, Session.advanced, folded, independent]

end Follows

end Session

end GranularBonds

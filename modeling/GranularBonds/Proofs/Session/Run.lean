import GranularBonds.Interaction.Checkpoint
import GranularBonds.Interaction.Session
import GranularBonds.Proofs.Bonding
import GranularBonds.Proofs.Neighbors

/-!
# Runs of a session

The surrounding simulation drives a session by calls, in any order and with
any arguments, and between two calls it moves or replaces the particles as it
likes.  A run is a list of such actions.  Main statement: the ledger of a
session changes in two ways only, by the one bonding of the run and by steps
after it.
-/

namespace GranularBonds

/-- The interactions that a simulation can begin with. -/
inductive Interaction.Constructed : Interaction Float → Prop where
  | created {material : Material Float} {kinds : UInt64} {interaction : Interaction Float} :
      create material kinds = .ok interaction → Constructed interaction
  | ofSettings {settings : List String} {kinds : UInt64} {interaction : Interaction Float} :
      ofSettings settings kinds = .ok interaction → Constructed interaction
  | ofCheckpoint {checkpoint : Checkpoint} {interaction : Interaction Float} :
      ofCheckpoint checkpoint = .ok interaction → Constructed interaction
  | readCheckpoint {text : String} {interaction : Interaction Float} :
      readCheckpoint text = .ok interaction → Constructed interaction

namespace Session

/-- What a simulation does to a session. -/
inductive Action (σ α : Type) where
  | configure (rows columns : String)
  | announce (kind : Nat) (radius : α)
  | setUp (exchange : Exchange σ α) (setup : RunSetup α)
  | cutoff (first second : Nat)
  | resetTimestep (timestep : α)
  | formBonds (list : NeighborList)
  | step (exchange : Exchange σ α) (context : StepContext α) (list : NeighborList)
      (bodies : Option (BodyMasses α))
  | preview (first second : Nat)
  /-- Particles and transport as they are at the next call. -/
  | place (assembly : Assembly α) (exchange : σ)

/-- What an action is answered. -/
inductive Reply (α : Type) where
  | none
  | count (answer : Except (Fault α) Nat)
  | done (answer : Except (Fault α) Unit)
  | distance (answer : Except (Fault α) α)
  | bonding (answer : Except (Fault α) BondingReport)
  | pass (answer : Except (Fault α) PassReport)
  | preview (answer : Except (Fault α) (Preview α))

/-- Whether the answer is no fault. -/
def Reply.isAccepted {α : Type} : Reply α → Bool
  | none => true
  | count answer => answer.isOk
  | done answer => answer.isOk
  | distance answer => answer.isOk
  | bonding answer => answer.isOk
  | pass answer => answer.isOk
  | preview answer => answer.isOk

variable {σ α : Type} [Scalar α]

/-- The answer to an action, and the session afterwards. -/
def perform (session : Session σ α) : Action σ α → Reply α × Session σ α
  | .configure rows columns => (session.configure rows columns).map .count id
  | .announce kind radius =>
      (.none, { session with interaction := session.interaction.withInserted kind radius })
  | .setUp exchange setup => (session.setUp exchange setup).map .done id
  | .cutoff first second => (.distance (session.cutoff first second), session)
  | .resetTimestep timestep => (session.resetTimestep timestep).map .done id
  | .formBonds list => (session.formBonds list).map .bonding id
  | .step exchange context list bodies =>
      (session.step exchange context list bodies).map .pass id
  | .preview first second => (.preview (session.preview first second), session)
  | .place assembly exchange => (.none, { session with assembly, exchange })

/-- The session after a list of actions. -/
def run (session : Session σ α) (actions : List (Action σ α)) : Session σ α :=
  actions.foldl (fun session action => (session.perform action).2) session

theorem run_append (session : Session σ α) (earlier later : List (Action σ α)) :
    session.run (earlier ++ later) = (session.run earlier).run later :=
  List.foldl_append

@[simp] theorem run_nil (session : Session σ α) : session.run [] = session := rfl

@[simp] theorem run_cons (session : Session σ α) (action : Action σ α)
    (later : List (Action σ α)) :
    session.run (action :: later) = (session.perform action).2.run later := rfl

/-- The actions of a list, each with its answer. -/
def transcript (session : Session σ α) : List (Action σ α) → List (Action σ α × Reply α)
  | [] => []
  | action :: later =>
      (action, (session.perform action).1) :: (session.perform action).2.transcript later

/-- The answers to a list of actions. -/
def replies (session : Session σ α) (actions : List (Action σ α)) : List (Reply α) :=
  (session.transcript actions).map Prod.snd

/-- No action of a list is refused. -/
def Accepts (session : Session σ α) : List (Action σ α) → Prop
  | [] => True
  | action :: later =>
      (session.perform action).1.isAccepted = true ∧ (session.perform action).2.Accepts later

theorem accepts_append (session : Session σ α) (earlier later : List (Action σ α)) :
    session.Accepts (earlier ++ later) ↔
      session.Accepts earlier ∧ (session.run earlier).Accepts later := by
  induction earlier generalizing session with
  | nil => exact (and_iff_right trivial).symm
  | cons action rest ih =>
      rw [List.cons_append, Accepts, Accepts, run_cons, ih, and_assoc]

/-- What every action preserves is preserved by a run. -/
theorem run_induction (holds : Session σ α → Prop)
    (preserved : ∀ session action, holds session → holds (session.perform action).2)
    {session : Session σ α} (initially : holds session) (actions : List (Action σ α)) :
    holds (session.run actions) := by
  induction actions generalizing session with
  | nil => exact initially
  | cons action later ih => exact ih (preserved session action initially)

/-! ## Setup -/

theorem checkTimestep_eq_ok_iff {timestep : α} :
    checkTimestep timestep = .ok () ↔ Scalar.isUsable timestep = true := by
  unfold checkTimestep
  cases Scalar.isUsable timestep <;> simp

theorem checkParticle_eq_ok_iff {particle : Particle α} :
    checkParticle particle = .ok () ↔
      Scalar.isUsable particle.radius = true ∧ Scalar.isUsable particle.mass = true := by
  unfold checkParticle
  cases Scalar.isUsable particle.radius <;> cases Scalar.isUsable particle.mass <;> simp

/-- What a setup is checked for. -/
theorem checkSetup_eq_ok_iff {session : Session σ α} {setup : RunSetup α} :
    session.checkSetup setup = .ok () ↔
      Scalar.isUsable setup.timestep = true ∧ setup.ghostVelocities = true ∧
        session.assembly.kindCount = session.interaction.table.kinds ∧
        session.interaction.table.isComplete = true ∧
        ∀ particle ∈ session.assembly.owned,
          Scalar.isUsable particle.radius = true ∧ Scalar.isUsable particle.mass = true := by
  have valid : setup.validate = .ok () ↔ Scalar.isUsable setup.timestep = true :=
    checkTimestep_eq_ok_iff
  rw [checkSetup, bind_eq_ok_iff]
  simp only [valid, exists_const]
  by_cases velocities : setup.ghostVelocities = true
  · by_cases kinds : session.assembly.kindCount = session.interaction.table.kinds
    · by_cases complete : session.interaction.table.isComplete = true
      · simp [velocities, kinds, complete, forM_eq_ok_iff, checkParticle_eq_ok_iff]
      · simp [velocities, kinds, complete]
    · simp [velocities, kinds]
  · simp [velocities]

/-! ## Steps -/

/-- What a pass of this session works with. -/
def passContext (session : Session σ α) (timestep : α) : PassContext α where
  material := session.interaction.material
  bodies := session.interaction.activeBodies
  timestep := timestep
  loadsBoth := session.interaction.loadsBoth

/-- The pass of a session over a list that fits its particles. -/
def passed (session : Session σ α) (list : NeighborList) (timestep : α) : PassState α :=
  (list.encounters session.assembly).foldl (session.passContext timestep).meet
    ⟨session.assembly, session.interaction.ledger, .none⟩

/-- The session after such a pass. -/
def advanced (session : Session σ α) (list : NeighborList) (timestep : α) : Session σ α :=
  { session.withLedger (session.passed list timestep).ledger with
    assembly := (session.passed list timestep).assembly }

/-- The session when the pass of a step begins: with a new neighbor list body
masses are taken anew and pairs that left the list are forgotten. -/
def prepared (exchange : Exchange σ α) (session : Session σ α) (context : StepContext α)
    (list : NeighborList) (bodies : Option (BodyMasses α)) : Session σ α :=
  if context.rebuilt then
    (session.refreshBodies exchange bodies).withLedger
      (session.interaction.ledger.retain ((list.encounters session.assembly).map Encounter.key))
  else
    session

theorem evaluate_of_fits (session : Session σ α) {list : NeighborList} (timestep : α)
    (fits : list.Fits session.assembly) :
    session.evaluate list timestep =
      (.ok (session.passed list timestep).report, session.advanced list timestep) := by
  have passes : PassContext.run
      ⟨session.interaction.material, session.interaction.activeBodies, timestep,
        session.interaction.loadsBoth⟩
      list session.assembly session.interaction.ledger = .ok (session.passed list timestep) :=
    (session.passContext timestep).run_eq_ok_iff.mpr ⟨fits, rfl⟩
  simp only [evaluate, passes]
  rfl

theorem evaluate_of_not_fits (session : Session σ α) {list : NeighborList} (timestep : α)
    (misfit : ¬list.Fits session.assembly) :
    session.evaluate list timestep = (.error (list.misfit session.assembly), session) := by
  have fails : PassContext.run
      ⟨session.interaction.material, session.interaction.activeBodies, timestep,
        session.interaction.loadsBoth⟩
      list session.assembly session.interaction.ledger = .error (list.misfit session.assembly) :=
    (session.passContext timestep).run_of_not_fits misfit session.interaction.ledger
  simp only [evaluate, fails]

@[simp] theorem refreshBodies_assembly (exchange : Exchange σ α) (session : Session σ α)
    (bodies : Option (BodyMasses α)) :
    (session.refreshBodies exchange bodies).assembly = session.assembly := by
  cases bodies <;> rfl

@[simp] theorem refreshBodies_ledger (exchange : Exchange σ α) (session : Session σ α)
    (bodies : Option (BodyMasses α)) :
    (session.refreshBodies exchange bodies).interaction.ledger = session.interaction.ledger := by
  cases bodies <;> rfl

@[simp] theorem refreshBodies_bondsFormed (exchange : Exchange σ α) (session : Session σ α)
    (bodies : Option (BodyMasses α)) :
    (session.refreshBodies exchange bodies).interaction.bondsFormed =
      session.interaction.bondsFormed := by
  cases bodies <;> rfl

theorem adopt_of_check (exchange : Exchange σ α) (session : Session σ α) {list : NeighborList}
    (bodies : Option (BodyMasses α)) (passes : list.check session.assembly = .ok ()) :
    session.adopt exchange list bodies =
      (.ok (), (session.refreshBodies exchange bodies).withLedger
        (session.interaction.ledger.retain
          ((list.encounters session.assembly).map Encounter.key))) := by
  simp only [adopt, passes, prune, refreshBodies_assembly, refreshBodies_ledger,
    list.keys_of_check passes]

@[simp] theorem prepared_assembly (exchange : Exchange σ α) (session : Session σ α)
    (context : StepContext α) (list : NeighborList) (bodies : Option (BodyMasses α)) :
    (session.prepared exchange context list bodies).assembly = session.assembly := by
  unfold prepared
  split
  · exact refreshBodies_assembly exchange session bodies
  · rfl

@[simp] theorem prepared_bondsFormed (exchange : Exchange σ α) (session : Session σ α)
    (context : StepContext α) (list : NeighborList) (bodies : Option (BodyMasses α)) :
    (session.prepared exchange context list bodies).interaction.bondsFormed =
      session.interaction.bondsFormed := by
  unfold prepared
  split
  · exact refreshBodies_bondsFormed exchange session bodies
  · rfl

/-- A step that passes its checks evaluates the list in the session that is
prepared for it. -/
theorem step_of_checks (exchange : Exchange σ α) (session : Session σ α) {context : StepContext α}
    {list : NeighborList} (bodies : Option (BodyMasses α)) {timestep : α}
    (checked : session.checkStep context = .ok timestep)
    (passes : context.rebuilt = true → list.check session.assembly = .ok ()) :
    session.step exchange context list bodies =
      (session.prepared exchange context list bodies).evaluate list timestep := by
  simp only [step, checked, prepared]
  split
  case isTrue rebuilt => rw [session.adopt_of_check exchange bodies (passes rebuilt)]
  case isFalse => rfl

/-- A step with a list that fits prepares the session and passes over the
list. -/
theorem step_of_fits (exchange : Exchange σ α) (session : Session σ α) {context : StepContext α}
    {list : NeighborList} (bodies : Option (BodyMasses α)) {timestep : α}
    (checked : session.checkStep context = .ok timestep)
    (fits : list.Fits session.assembly) :
    session.step exchange context list bodies =
      (.ok ((session.prepared exchange context list bodies).passed list timestep).report,
        (session.prepared exchange context list bodies).advanced list timestep) := by
  rw [session.step_of_checks exchange bodies checked fun _ => fits.check]
  exact evaluate_of_fits _ timestep (by rwa [prepared_assembly])

/-- A step with a list that passes the check but does not fit stops after its
preparation. -/
theorem step_of_not_fits (exchange : Exchange σ α) (session : Session σ α)
    {context : StepContext α} {list : NeighborList} (bodies : Option (BodyMasses α)) {timestep : α}
    (checked : session.checkStep context = .ok timestep)
    (passes : list.check session.assembly = .ok ()) (misfit : ¬list.Fits session.assembly) :
    session.step exchange context list bodies =
      (.error (list.misfit session.assembly),
        session.prepared exchange context list bodies) := by
  rw [session.step_of_checks exchange bodies checked fun _ => passes,
    evaluate_of_not_fits _ timestep (by rwa [prepared_assembly]), prepared_assembly]

/-- A step does nothing, or it stops after the preparation, or it goes
through. -/
theorem step_cases (exchange : Exchange σ α) (session : Session σ α) (context : StepContext α)
    (list : NeighborList) (bodies : Option (BodyMasses α)) :
    (∃ fault, session.step exchange context list bodies = (.error fault, session)) ∨
    ∃ timestep, session.checkStep context = .ok timestep ∧
      list.check session.assembly = .ok () ∧
      ((∃ fault, session.step exchange context list bodies =
          (.error fault, session.prepared exchange context list bodies)) ∨
        list.Fits session.assembly ∧
          session.step exchange context list bodies =
            (.ok ((session.prepared exchange context list bodies).passed list timestep).report,
              (session.prepared exchange context list bodies).advanced list timestep)) := by
  cases checked : session.checkStep context with
  | error fault => exact .inl ⟨fault, by simp only [step, checked]⟩
  | ok timestep =>
      by_cases fits : list.Fits session.assembly
      · exact .inr ⟨timestep, rfl, fits.check,
          .inr ⟨fits, session.step_of_fits exchange bodies checked fits⟩⟩
      · cases rebuilt : context.rebuilt with
        | false =>
            have refused := session.evaluate_of_not_fits timestep fits
            exact .inl ⟨list.misfit session.assembly, by simp [step, checked, rebuilt, refused]⟩
        | true =>
            cases passes : list.check session.assembly with
            | error fault => exact .inl ⟨fault, by simp [step, checked, rebuilt, adopt, passes]⟩
            | ok _ =>
                have stopped := session.step_of_not_fits exchange bodies checked passes fits
                exact .inr ⟨timestep, rfl, rfl, .inl ⟨_, stopped⟩⟩

/-! ## Changes of the ledger -/

/-- What a session remembers of a pair. -/
def record? (session : Session σ α) (key : PairKey) : Option (ContactRecord α) :=
  session.interaction.ledger.get? key

theorem prepared_ledger (exchange : Exchange σ α) (session : Session σ α)
    (context : StepContext α) (list : NeighborList) (bodies : Option (BodyMasses α)) :
    (session.prepared exchange context list bodies).interaction.ledger =
      if context.rebuilt then
        session.interaction.ledger.retain ((list.encounters session.assembly).map Encounter.key)
      else
        session.interaction.ledger := by
  unfold prepared
  split <;> rfl

theorem bondsFormed_of_checkStep {session : Session σ α} {context : StepContext α} {timestep : α}
    (checked : session.checkStep context = .ok timestep) :
    session.interaction.bondsFormed = true := by
  rcases bind_eq_ok_iff.mp checked with ⟨_, -, rest⟩
  cases formed : session.interaction.bondsFormed with
  | true => rfl
  | false =>
      rw [formed] at rest
      cases rest

/-- Bonding is accepted once a session is set up, for a list that passes the
check. -/
theorem formBonds_of_check (session : Session σ α) {list : NeighborList} {timestep : α}
    (known : session.interaction.timestep = some timestep)
    (unbonded : session.interaction.bondsFormed = false)
    (passes : list.check session.assembly = .ok ()) :
    let bonded := (list.encounters session.assembly).foldl session.interaction.material.bond
      (⟨0, 0⟩, session.interaction.ledger)
    session.formBonds list =
      (.ok bonded.1,
        { session.withLedger bonded.2 with
          interaction := { (session.withLedger bonded.2).interaction with bondsFormed := true } }) := by
  have bonded := session.interaction.material.formBonds_eq_ok_iff.mpr
    ⟨passes, (rfl : (list.encounters session.assembly).foldl session.interaction.material.bond
      (⟨0, 0⟩, session.interaction.ledger) = _)⟩
  have checked : session.checkBonding list = .ok () := by
    simp only [checkBonding, requireTimestep, known, unbonded, passes]
    rfl
  simp only [formBonds, checked, bind, Except.bind, bonded]

/-- Bonding succeeds in a session that has no bonds yet, for a list that passes
the check. -/
theorem formBonds_cases (session : Session σ α) (list : NeighborList) :
    (∃ fault, session.formBonds list = (.error fault, session)) ∨
    (session.interaction.bondsFormed = false ∧ list.check session.assembly = .ok () ∧
      let bonded := (list.encounters session.assembly).foldl session.interaction.material.bond
        (⟨0, 0⟩, session.interaction.ledger)
      session.formBonds list =
        (.ok bonded.1,
          { session.withLedger bonded.2 with
            interaction :=
              { (session.withLedger bonded.2).interaction with bondsFormed := true } })) := by
  cases formed : session.checkBonding list >>= fun _ =>
      session.interaction.material.formBonds session.assembly list
        session.interaction.ledger with
  | error fault => exact .inl ⟨fault, by simp only [formBonds, formed]⟩
  | ok bonded =>
      right
      rcases bind_eq_ok_iff.mp formed with ⟨_, checked, folded⟩
      obtain ⟨passes, same⟩ := session.interaction.material.formBonds_eq_ok_iff.mp folded
      refine ⟨?_, passes, by simp only [formBonds, formed, ← same]⟩
      rcases bind_eq_ok_iff.mp checked with ⟨_, -, unformed⟩
      cases before : session.interaction.bondsFormed with
      | false => rfl
      | true =>
          rw [before] at unformed
          cases unformed

/-- What an action can do to the ledger. -/
inductive LedgerChange (session : Session σ α) : Action σ α → Session σ α → Prop where
  /-- Most actions leave it alone, and so do refused ones. -/
  | kept (action : Action σ α) (after : Session σ α) :
      after.interaction.ledger = session.interaction.ledger →
      after.interaction.bondsFormed = session.interaction.bondsFormed →
      LedgerChange session action after
  /-- The bonds of the run are formed. -/
  | formed (list : NeighborList) (after : Session σ α) :
      session.interaction.bondsFormed = false →
      after.interaction.ledger =
        ((list.encounters session.assembly).foldl session.interaction.material.bond
          (⟨0, 0⟩, session.interaction.ledger)).2 →
      after.interaction.bondsFormed = true →
      LedgerChange session (.formBonds list) after
  /-- Pairs that left a new list are forgotten, and those listed are visited,
  unless the list does not fit. -/
  | stepped (exchange : Exchange σ α) (context : StepContext α) (list : NeighborList)
      (bodies : Option (BodyMasses α)) (pass : PassContext α) (met : List (Encounter α))
      (after : Session σ α) :
      session.interaction.bondsFormed = true →
      met ⊆ list.encounters session.assembly →
      after.interaction.ledger =
        (met.foldl pass.meet
          ⟨session.assembly, (session.prepared exchange context list bodies).interaction.ledger,
            .none⟩).ledger →
      after.interaction.bondsFormed = true →
      LedgerChange session (.step exchange context list bodies) after

theorem perform_ledgerChange (session : Session σ α) (action : Action σ α) :
    session.LedgerChange action (session.perform action).2 := by
  cases action with
  | announce | cutoff | preview | place => exact .kept _ _ rfl rfl
  | configure rows columns =>
      simp only [perform, configure]
      split <;> exact .kept _ _ rfl rfl
  | setUp exchange setup =>
      simp only [perform, setUp]
      split <;> exact .kept _ _ rfl rfl
  | resetTimestep timestep =>
      simp only [perform, resetTimestep]
      split <;> exact .kept _ _ rfl rfl
  | formBonds list =>
      rcases session.formBonds_cases list with ⟨fault, refused⟩ | ⟨unformed, -, formed⟩
      · simp only [perform, refused]
        exact .kept _ _ rfl rfl
      · simp only [perform, formed]
        exact .formed list _ unformed rfl rfl
  | step exchange context list bodies =>
      rcases session.step_cases exchange context list bodies with
        ⟨fault, refused⟩ | ⟨timestep, checked, -, ⟨fault, stopped⟩ | ⟨-, advanced⟩⟩
      · simp only [perform, refused]
        exact .kept _ _ rfl rfl
      · have formed := bondsFormed_of_checkStep checked
        simp only [perform, stopped]
        exact .stepped exchange context list bodies (session.passContext timestep) [] _ formed
          (List.nil_subset _) rfl
          ((session.prepared_bondsFormed exchange context list bodies).trans formed)
      · have formed := bondsFormed_of_checkStep checked
        simp only [perform, advanced]
        refine .stepped exchange context list bodies
          ((session.prepared exchange context list bodies).passContext timestep)
          (list.encounters session.assembly) _ formed (List.Subset.refl _) ?_
          ((session.prepared_bondsFormed exchange context list bodies).trans formed)
        simp [Session.advanced, withLedger, passed]

/-- Whether an action is none of those that can write to the ledger. -/
def Action.isIdle : Action σ α → Bool
  | .formBonds _ => false
  | .step _ _ _ _ => false
  | _ => true

theorem perform_ledger_of_isIdle (session : Session σ α) {action : Action σ α}
    (idle : action.isIdle = true) :
    (session.perform action).2.interaction.ledger = session.interaction.ledger := by
  cases action with
  | formBonds | step => cases idle
  | announce | cutoff | preview | place => rfl
  | configure rows columns =>
      simp only [perform, configure]
      split <;> rfl
  | setUp exchange setup =>
      simp only [perform, setUp]
      split <;> rfl
  | resetTimestep timestep =>
      simp only [perform, resetTimestep]
      split <;> rfl

end Session

end GranularBonds

import GranularBonds.Proofs.Contact.Agreement
import GranularBonds.Proofs.Session.Acceptance
import GranularBonds.Proofs.Session.BondCount

/-!
# Forgetting what is out of contact

A broken bond is as good as none, and so the record of a pair that has no bond
and is out of contact is not needed any more.  If a session forgets it, every
later call is answered as before, with the same forces and the same counts,
except that a preview no longer tells what became of the bond.
-/

namespace GranularBonds

/-- Two previews that agree in everything but what became of the bond. -/
structure Preview.Agrees {α : Type} (left right : Preview α) : Prop where
  outcome : left.outcome = right.outcome
  normal : left.normal = right.normal
  tangential : left.tangential = right.tangential
  limit : left.limit = right.limit
  overlap : left.overlap = right.overlap

variable {α : Type} [Scalar α]

theorem ContactRecord.Alike.preview {left right : ContactRecord α} (alike : left.Alike right)
    (material : Material α) (pair : Kinematics α) (flipped : Bool) (timestep : α) :
    (material.preview pair left flipped timestep).Agrees
      (material.preview pair right flipped timestep) := by
  have outcome : (material.evaluate pair left flipped timestep).1 =
      (material.evaluate pair right flipped timestep).1 :=
    (alike.evaluate material ⟨pair, flipped, timestep⟩).1
  simp only [Material.preview, outcome, alike.gap]
  cases (material.evaluate pair right flipped timestep).1 <;> exact ⟨rfl, rfl, rfl, rfl, rfl⟩

theorem ContactRecord.Indistinct.preview {left right : ContactRecord α}
    (same : left.Indistinct right) (material : Material α) (pair : Kinematics α)
    (flipped : Bool) (timestep : α) :
    (material.preview pair left flipped timestep).Agrees
      (material.preview pair right flipped timestep) := by
  rcases same with rfl | alike
  · exact ⟨rfl, rfl, rfl, rfl, rfl⟩
  · exact alike.preview material pair flipped timestep

namespace Session

variable {σ : Type}

/-- Two answers that are the same, except that previews may differ in what
became of the bond. -/
def Reply.Agrees : Reply α → Reply α → Prop
  | .preview (.ok left), .preview (.ok right) => left.Agrees right
  | left, right => left = right

omit [Scalar α] in
theorem Reply.Agrees.of_eq {left right : Reply α} (same : left = right) : left.Agrees right := by
  subst same
  cases left with
  | preview answer =>
      cases answer with
      | ok preview => exact ⟨rfl, rfl, rfl, rfl, rfl⟩
      | error fault => rfl
  | none | count | done | distance | bonding | pass => rfl

omit [Scalar α] in
/-- The session with another memory of its pairs. -/
def withMemory (session : Session σ α) (ledger : Ledger α) (tookStorage : Bool) : Session σ α :=
  { session with interaction := { session.interaction with ledger, tookStorage } }

/-- Two sessions that differ in nothing but records that no visit tells
apart, and in whether they hold storage. -/
def Agrees (left right : Session σ α) : Prop :=
  ∃ ledger tookStorage, right = left.withMemory ledger tookStorage ∧
    left.interaction.ledger.Agrees ledger

namespace Agrees

variable {left right : Session σ α}

theorem assembly_eq (agrees : left.Agrees right) : left.assembly = right.assembly := by
  rcases agrees with ⟨_, _, rfl, -⟩
  rfl

theorem ledger (agrees : left.Agrees right) :
    left.interaction.ledger.Agrees right.interaction.ledger := by
  rcases agrees with ⟨_, _, rfl, agrees⟩
  exact agrees

theorem passContext_eq (agrees : left.Agrees right) (timestep : α) :
    left.passContext timestep = right.passContext timestep := by
  rcases agrees with ⟨_, _, rfl, -⟩
  rfl

theorem withLedger (agrees : left.Agrees right) {ledger other : Ledger α}
    (same : ledger.Agrees other) : (left.withLedger ledger).Agrees (right.withLedger other) := by
  rcases agrees with ⟨_, _, rfl, -⟩
  exact ⟨other, _, rfl, same⟩

theorem withAssembly (agrees : left.Agrees right) (assembly : Assembly α) :
    Session.Agrees { left with assembly } { right with assembly } := by
  rcases agrees with ⟨ledger, tookStorage, rfl, same⟩
  exact ⟨ledger, tookStorage, rfl, same⟩

/-! ## Parts of a step -/

theorem refreshBodies (agrees : left.Agrees right) (exchange : Exchange σ α)
    (bodies : Option (BodyMasses α)) :
    (left.refreshBodies exchange bodies).Agrees (right.refreshBodies exchange bodies) := by
  rcases agrees with ⟨ledger, tookStorage, rfl, same⟩
  cases bodies with
  | none => exact ⟨ledger, tookStorage, rfl, same⟩
  | some bodies => exact ⟨ledger, tookStorage, rfl, same⟩

theorem prune (agrees : left.Agrees right) (list : NeighborList) :
    (left.prune list).1 = (right.prune list).1 ∧
      (left.prune list).2.Agrees (right.prune list).2 := by
  simp only [Session.prune, agrees.assembly_eq]
  split
  · exact ⟨rfl, agrees⟩
  · exact ⟨rfl, agrees.withLedger (agrees.ledger.retain _)⟩

theorem adopt (agrees : left.Agrees right) (exchange : Exchange σ α) (list : NeighborList)
    (bodies : Option (BodyMasses α)) :
    (left.adopt exchange list bodies).1 = (right.adopt exchange list bodies).1 ∧
      (left.adopt exchange list bodies).2.Agrees (right.adopt exchange list bodies).2 := by
  simp only [Session.adopt, agrees.assembly_eq]
  split
  · exact ⟨rfl, agrees⟩
  · exact (agrees.refreshBodies exchange bodies).prune list

theorem prepared (agrees : left.Agrees right) (exchange : Exchange σ α)
    (context : StepContext α) (list : NeighborList) (bodies : Option (BodyMasses α)) :
    (left.prepared exchange context list bodies).Agrees
      (right.prepared exchange context list bodies) := by
  simp only [Session.prepared, agrees.assembly_eq]
  split
  · exact (agrees.refreshBodies exchange bodies).withLedger (agrees.ledger.retain _)
  · exact agrees

theorem evaluate (agrees : left.Agrees right) (list : NeighborList) (timestep : α) :
    (left.evaluate list timestep).1 = (right.evaluate list timestep).1 ∧
      (left.evaluate list timestep).2.Agrees (right.evaluate list timestep).2 := by
  by_cases fits : list.Fits left.assembly
  · have passes : (left.passed list timestep).Agrees (right.passed list timestep) := by
      simp only [passed, agrees.assembly_eq, agrees.passContext_eq]
      exact PassContext.foldl_meet_agrees (.start _ agrees.ledger) _
    rw [left.evaluate_of_fits timestep fits,
      right.evaluate_of_fits timestep (agrees.assembly_eq ▸ fits)]
    refine ⟨congrArg Except.ok passes.report, ?_⟩
    simp only [advanced, passes.assembly]
    exact (agrees.withLedger passes.ledger).withAssembly _
  · rw [left.evaluate_of_not_fits timestep fits,
      right.evaluate_of_not_fits timestep (agrees.assembly_eq ▸ fits), agrees.assembly_eq]
    exact ⟨rfl, agrees⟩

theorem step (agrees : left.Agrees right) (exchange : Exchange σ α) (context : StepContext α)
    (list : NeighborList) (bodies : Option (BodyMasses α)) :
    (left.step exchange context list bodies).1 = (right.step exchange context list bodies).1 ∧
      (left.step exchange context list bodies).2.Agrees
        (right.step exchange context list bodies).2 := by
  have checked : left.checkStep context = right.checkStep context := by
    rcases agrees with ⟨_, _, rfl, -⟩
    rfl
  obtain ⟨answer, adopted⟩ := agrees.adopt exchange list bodies
  simp only [Session.step, checked]
  cases right.checkStep context with
  | error fault => exact ⟨rfl, agrees⟩
  | ok timestep =>
      cases context.rebuilt with
      | false => exact agrees.evaluate list timestep
      | true =>
          simp only [if_true]
          revert answer adopted
          rcases left.adopt exchange list bodies with ⟨first, leftAdopted⟩
          rcases right.adopt exchange list bodies with ⟨second, rightAdopted⟩
          intro answer adopted
          cases answer
          cases first with
          | error fault => exact ⟨rfl, adopted⟩
          | ok _ => exact adopted.evaluate list timestep

/-! ## Actions -/

theorem formBonds (agrees : left.Agrees right) (list : NeighborList) :
    (left.formBonds list).1 = (right.formBonds list).1 ∧
      (left.formBonds list).2.Agrees (right.formBonds list).2 := by
  have checked : left.checkBonding list = right.checkBonding list := by
    rcases agrees with ⟨_, _, rfl, -⟩
    rfl
  have material : left.interaction.material = right.interaction.material := by
    rcases agrees with ⟨_, _, rfl, -⟩
    rfl
  cases refused : right.checkBonding list with
  | error fault =>
      simp only [Session.formBonds, checked, refused]
      exact ⟨rfl, agrees⟩
  | ok _ =>
      have passes := (checkBonding_eq_ok_iff.mp refused).2.2
      have bonds := agrees.ledger.foldl_bond right.interaction.material ⟨0, 0⟩
        (list.encounters right.assembly)
      have formed (ledger : Ledger α) := right.interaction.material.formBonds_eq_ok_iff.mpr
        ⟨passes, (rfl : (list.encounters right.assembly).foldl right.interaction.material.bond
          (⟨0, 0⟩, ledger) = _)⟩
      simp only [Session.formBonds, checked, refused, agrees.assembly_eq, material, bind,
        Except.bind, formed]
      refine ⟨congrArg Except.ok bonds.1, ?_⟩
      rcases agrees with ⟨_, _, rfl, -⟩
      exact ⟨_, _, rfl, bonds.2⟩

theorem preview (agrees : left.Agrees right) (first second : Nat) :
    Reply.Agrees (.preview (left.preview first second)) (.preview (right.preview first second)) := by
  rcases agrees with ⟨ledger, tookStorage, rfl, same⟩
  have timestep : (left.withMemory ledger tookStorage).requireTimestep .preview =
      left.requireTimestep .preview := rfl
  have position : (left.withMemory ledger tookStorage).checkPosition = left.checkPosition := rfl
  have assembly : (left.withMemory ledger tookStorage).assembly = left.assembly := rfl
  simp only [Session.preview, timestep, position, assembly]
  cases left.requireTimestep .preview with
  | error fault => exact .of_eq rfl
  | ok timestep =>
      cases left.checkPosition first with
      | error fault => exact .of_eq rfl
      | ok _ =>
          cases left.checkPosition second with
          | error fault => exact .of_eq rfl
          | ok _ =>
              cases left.assembly.particle first with
              | error fault => exact .of_eq rfl
              | ok firstParticle =>
                  cases left.assembly.particle second with
                  | error fault => exact .of_eq rfl
                  | ok secondParticle => exact (same _).preview _ _ _ _

/-- Agreeing sessions answer every action in agreement, and agree again. -/
theorem perform (agrees : left.Agrees right) (action : Action σ α) :
    (left.perform action).1.Agrees (right.perform action).1 ∧
      (left.perform action).2.Agrees (right.perform action).2 := by
  cases action with
  | formBonds list =>
      obtain ⟨answer, after⟩ := agrees.formBonds list
      exact ⟨.of_eq (congrArg Reply.bonding answer), after⟩
  | step exchange context list bodies =>
      obtain ⟨answer, after⟩ := agrees.step exchange context list bodies
      exact ⟨.of_eq (congrArg Reply.pass answer), after⟩
  | preview first second => exact ⟨agrees.preview first second, agrees⟩
  | cutoff first second =>
      rcases agrees with ⟨ledger, tookStorage, rfl, same⟩
      exact ⟨.of_eq rfl, ledger, tookStorage, rfl, same⟩
  | announce kind radius =>
      rcases agrees with ⟨ledger, tookStorage, rfl, same⟩
      exact ⟨.of_eq rfl, ledger, tookStorage, rfl, same⟩
  | place assembly exchange =>
      rcases agrees with ⟨ledger, tookStorage, rfl, same⟩
      exact ⟨.of_eq rfl, ledger, tookStorage, rfl, same⟩
  | configure rows columns =>
      rcases agrees with ⟨ledger, tookStorage, rfl, same⟩
      simp only [Session.perform, configure, withMemory]
      cases left.interaction.table.assign rows columns with
      | error fault => exact ⟨.of_eq rfl, ledger, tookStorage, rfl, same⟩
      | ok assigned => exact ⟨.of_eq rfl, ledger, tookStorage, rfl, same⟩
  | setUp exchange setup =>
      rcases agrees with ⟨ledger, tookStorage, rfl, same⟩
      have checked : (left.withMemory ledger tookStorage).checkSetup setup =
          left.checkSetup setup := rfl
      simp only [Session.perform, setUp, checked]
      cases left.checkSetup setup with
      | error fault => exact ⟨.of_eq rfl, ledger, tookStorage, rfl, same⟩
      | ok _ => exact ⟨.of_eq rfl, ledger, tookStorage, rfl, same⟩
  | resetTimestep timestep =>
      rcases agrees with ⟨ledger, tookStorage, rfl, same⟩
      have checked : (left.withMemory ledger tookStorage).requireTimestep .timestep =
          left.requireTimestep .timestep := rfl
      simp only [Session.perform, resetTimestep, checked]
      cases left.requireTimestep .timestep >>= fun _ => checkTimestep timestep with
      | error fault => exact ⟨.of_eq rfl, ledger, tookStorage, rfl, same⟩
      | ok _ => exact ⟨.of_eq rfl, ledger, tookStorage, rfl, same⟩

/-- Agreeing sessions answer a run in agreement, and agree at its end. -/
theorem run (agrees : left.Agrees right) (actions : List (Action σ α)) :
    List.Forall₂ Reply.Agrees (left.replies actions) (right.replies actions) ∧
      (left.run actions).Agrees (right.run actions) := by
  induction actions generalizing left right with
  | nil => exact ⟨.nil, agrees⟩
  | cons action later ih =>
      obtain ⟨answer, after⟩ := agrees.perform action
      obtain ⟨answers, reached⟩ := ih after
      exact ⟨.cons answer answers, reached⟩

end Agrees

/-! ## Forgetting -/

/-- What the pairs of a list do in a step of this session. -/
def outcomes (exchange : Exchange σ α) (session : Session σ α) (context : StepContext α)
    (list : NeighborList) (bodies : Option (BodyMasses α)) (timestep : α) : List (Outcome α) :=
  let ready := session.prepared exchange context list bodies
  (ready.passContext timestep).outcomes ⟨ready.assembly, ready.interaction.ledger, .none⟩
    (list.encounters ready.assembly)

theorem Agrees.outcomes_eq {left right : Session σ α} (agrees : left.Agrees right)
    (exchange : Exchange σ α) (context : StepContext α) (list : NeighborList)
    (bodies : Option (BodyMasses α)) (timestep : α) :
    left.outcomes exchange context list bodies timestep =
      right.outcomes exchange context list bodies timestep := by
  have ready := agrees.prepared exchange context list bodies
  simp only [outcomes, ready.assembly_eq, ready.passContext_eq]
  exact PassContext.outcomes_eq_of_agrees (.start _ ready.ledger) _

omit [Scalar α] in
/-- The session without the record of one pair. -/
def forget (session : Session σ α) (key : PairKey) : Session σ α :=
  { session with
    interaction :=
      { session.interaction with ledger := session.interaction.ledger.without key } }

/-- A sound record without a bond and out of contact is as good as none. -/
theorem agrees_forget {session : Session σ α} (sound : session.interaction.ledger.Sound)
    {key : PairKey} {record : ContactRecord α} (present : session.record? key = some record)
    (free : record.isCohesive = false) (apart : record.touching = false) :
    session.Agrees (session.forget key) := by
  refine ⟨_, session.interaction.tookStorage, rfl, Ledger.agrees_without ?_⟩
  have consistent := sound key record present
  have unbonded : record.bond ≠ .bonded := by
    intro bonded
    rw [record.isCohesive_iff.mpr bonded] at free
    cases free
  rw [Ledger.getOrFresh_of_get? present]
  exact ⟨free, rfl, (consistent.released unbonded).1, consistent.apart apart⟩

/-- A broken bond is as good as none, and what is out of contact can be
forgotten.  Two records without a bond, with the same gap and displacement, are
visited with the same outcomes and the same displacements and contacts
afterwards, whatever the visits, for numbers of any kind.  And at any point of a
run, however its interaction is constructed, the record of a pair without a bond
and out of contact can be taken out of the ledger: every list of actions that
follows is answered in agreement, with the same particles under the same forces
and torques at its end, and the pairs of every step then do the same. -/
theorem forgetting_run :
    (∀ {α : Type} [Scalar α] (material : Material α) {left right : ContactRecord α},
      left.isCohesive = false → right.isCohesive = false →
      left.initialGap = right.initialGap → left.shear = right.shear →
      ∀ (earlier : List (Visit α)) (visit : Visit α),
        let leftResult := visit.evaluate material (material.recordAfter left earlier)
        let rightResult := visit.evaluate material (material.recordAfter right earlier)
        leftResult.1 = rightResult.1 ∧ leftResult.2.shear = rightResult.2.shear ∧
          leftResult.2.touching = rightResult.2.touching) ∧
    ∀ {interaction : Interaction Float}, interaction.Constructed →
      ∀ (assembly : Assembly Float) (exchange : σ) (actions : List (Action σ Float)),
        let session := Session.run ⟨interaction, assembly, exchange⟩ actions
        ∀ key record, session.record? key = some record → record.isCohesive = false →
          record.touching = false → ∀ later,
            List.Forall₂ Reply.Agrees (session.replies later)
              ((session.forget key).replies later) ∧
            (session.run later).assembly = ((session.forget key).run later).assembly ∧
            ∀ exchange context list bodies timestep,
              (session.run later).outcomes exchange context list bodies timestep =
                ((session.forget key).run later).outcomes exchange context list bodies
                  timestep := by
  constructor
  · intro α _ material left right leftFree rightFree gap shear earlier visit
    have alike : left.Alike right := ⟨leftFree, rightFree, gap, shear⟩
    obtain ⟨outcome, after, touching⟩ := (alike.recordAfter material earlier).evaluate material visit
    exact ⟨outcome, after.shear, touching⟩
  · intro interaction constructed assembly exchange actions session key record present free apart
      later
    have sound : session.interaction.ledger.Sound := by
      rcases constructed.eq_start with ⟨material, table, rfl⟩
      exact sound_run .empty actions
    obtain ⟨answers, reached⟩ := (agrees_forget sound present free apart).run later
    exact ⟨answers, reached.assembly_eq, reached.outcomes_eq⟩

/-- Two spheres in touch bond, and the second one is pulled away. -/
def bondingAndTearing : List (Action Unit Float) :=
  settingUp ++ [.formBonds (.ofPairs [(0, 1)])] ++ pullingApart

/-- The sphere that was pulled away comes back. -/
def comingBack : List (Action Unit Float) :=
  [.place touchingSpheres (), .step .serial (.first 0.001) (.ofPairs [(0, 1)]) none]

/-- After the bond of two spheres tore, their record says so and is not needed:
when they come back into contact, the step goes as it goes without the record. -/
theorem forgetting_run_comingBack :
    let broken : ContactRecord Float := (ContactRecord.bonded 0 (.bounded 1)).torn
    let visit : Visit Float := ⟨.atRest ⟨1.5, 0, 0⟩ 1 1 0.5, false, 0.001⟩
    let session := Session.run ⟨.start .standard (.empty 1), touchingSpheres, ()⟩
      bondingAndTearing
    let forgetful := session.forget ⟨⟨1⟩, ⟨2⟩⟩
    broken.bond = .brokenTensile ∧
      (visit.evaluate .standard broken).1 = (visit.evaluate .standard .fresh).1 ∧
      session.interaction.ledger.bondAt ⟨⟨1⟩, ⟨2⟩⟩ = .brokenTensile ∧
      forgetful.record? ⟨⟨1⟩, ⟨2⟩⟩ = none ∧
      List.Forall₂ Reply.Agrees (session.replies comingBack) (forgetful.replies comingBack) ∧
      (session.run comingBack).assembly = (forgetful.run comingBack).assembly := by
  intro broken visit session forgetful
  have free : broken.isCohesive = false := rfl
  have freshFree : (ContactRecord.fresh : ContactRecord Float).isCohesive = false := rfl
  have evaluated := (@forgetting_run Unit).1 .standard free freshFree rfl rfl [] visit
  have known : (session.record? ⟨⟨1⟩, ⟨2⟩⟩).any
      (fun record => !record.isCohesive && !record.touching) = true := by
    decide +kernel
  rcases (Option.any_eq_true _ _).mp known with ⟨record, present, idle⟩
  simp only [Bool.and_eq_true, Bool.not_eq_true'] at idle
  obtain ⟨answers, loads, -⟩ := (@forgetting_run Unit).2 constructed_standard touchingSpheres ()
    bondingAndTearing _ record present idle.1 idle.2 comingBack
  refine ⟨rfl, evaluated.1, by decide +kernel, ?_, answers, loads⟩
  exact (Ledger.get?_without ..).trans (if_pos rfl)

end Session

end GranularBonds

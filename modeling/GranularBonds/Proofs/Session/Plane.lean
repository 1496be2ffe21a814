import Mathlib
import GranularBonds.Proofs.Contact.Plane
import GranularBonds.Proofs.Session.Forgetting

/-!
# Displacements of a run

A pair that was in contact when it was last visited remembers a displacement in
the contact plane of that visit.  Only visits give displacements to pairs;
bonding and pruning can merely take them away.  Main statement: the law holds at
every point of a run, wherever the particles are by then.
-/

namespace GranularBonds

/-- A pair as it was visited, and what it did. -/
structure Meeting (α : Type) where
  encounter : Encounter α
  outcome : Outcome α

/-- The last meeting of a pair. -/
def Meeting.last? {α : Type} (key : PairKey) (past : List (Meeting α)) : Option (Meeting α) :=
  (past.filter fun meeting => meeting.encounter.key = key).getLast?

/-- With one more meeting the last one is that, or the one that it was. -/
theorem Meeting.last?_append_singleton {α : Type} (key : PairKey) (past : List (Meeting α))
    (meeting : Meeting α) :
    last? key (past ++ [meeting]) =
      if meeting.encounter.key = key then some meeting else last? key past := by
  simp only [last?, List.filter_append]
  split
  case isTrue same => simp [same]
  case isFalse different => simp [different]

section Scalar

variable {σ α : Type} [Scalar α]

/-- From the center of the second particle to that of the first. -/
def Encounter.separation (encounter : Encounter α) : Vec3 α :=
  encounter.firstParticle.position - encounter.secondParticle.position

theorem Encounter.delta_kinematics (encounter : Encounter α) (bodies : Option (BodyCache α)) :
    (encounter.kinematics bodies).delta = encounter.separation := rfl

theorem Encounter.shear_firstRecord (material : Material α) (encounter : Encounter α) :
    (encounter.firstRecord material).shear = 0 := by
  unfold Encounter.firstRecord Material.firstRecord
  split <;> rfl

/-- The pairs of a pass and what they do, one after the other. -/
def PassContext.meetings (context : PassContext α) (state : PassState α)
    (encounters : List (Encounter α)) : List (Meeting α) :=
  List.zipWith Meeting.mk encounters (context.outcomes state encounters)

namespace Session

/-- The pairs that an action visits.  What a preview computes is not
remembered, and neither is anything of a step that is refused. -/
def meetings (session : Session σ α) : Action σ α → List (Meeting α)
  | .step exchange context list bodies =>
      match session.checkStep context with
      | .error _ => []
      | .ok timestep =>
          match (session.step exchange context list bodies).1 with
          | .error _ => []
          | .ok _ =>
              let ready := session.prepared exchange context list bodies
              (ready.passContext timestep).meetings
                ⟨ready.assembly, ready.interaction.ledger, .none⟩
                (list.encounters ready.assembly)
  | _ => []

theorem meetings_of_refused {session : Session σ α} {exchange : Exchange σ α}
    {context : StepContext α} {list : NeighborList} {bodies : Option (BodyMasses α)}
    {fault : Fault α} (refused : (session.step exchange context list bodies).1 = .error fault) :
    session.meetings (.step exchange context list bodies) = [] := by
  simp only [meetings, refused]
  split <;> rfl

/-- All meetings of a run. -/
def history (session : Session σ α) : List (Action σ α) → List (Meeting α)
  | [] => []
  | action :: later => session.meetings action ++ (session.perform action).2.history later

end Session

end Scalar

/-! ## Displacements of a ledger -/

variable {σ α : Type} [ExactScalar α]

/-- Every pair that was in contact when it was last visited has its displacement
at a right angle to the separation of that visit. -/
def Ledger.Planar (past : List (Meeting α)) (ledger : Ledger α) : Prop :=
  ∀ key encounter force, Meeting.last? key past = some ⟨encounter, .contact force⟩ →
    (ledger.getOrFresh key).shear.dot encounter.separation = 0

namespace Ledger.Planar

variable {past : List (Meeting α)} {ledger : Ledger α}

theorem nil (ledger : Ledger α) : ledger.Planar [] := by
  intro key encounter force found
  cases found

/-- Displacements that are kept or taken away stay where they are. -/
theorem keep (planar : ledger.Planar past) {after : Ledger α}
    (kept : ∀ key, (after.getOrFresh key).shear = (ledger.getOrFresh key).shear ∨
      (after.getOrFresh key).shear = 0) :
    after.Planar past := by
  intro key encounter force found
  rcases kept key with same | gone
  · rw [same]
    exact planar key encounter force found
  · rw [gone, Vec3.zero_dot]

theorem retain (planar : ledger.Planar past) (listed : List PairKey) :
    (ledger.retain listed).Planar past := by
  apply planar.keep
  intro key
  rw [getOrFresh_retain]
  split
  · exact .inl rfl
  · split
    · exact .inr rfl
    · exact .inr rfl

theorem foldl_bond (planar : ledger.Planar past) (material : Material α)
    (encounters : List (Encounter α)) (report : BondingReport) :
    (encounters.foldl material.bond (report, ledger)).2.Planar past := by
  induction encounters generalizing ledger report with
  | nil => exact planar
  | cons encounter later ih =>
      apply ih
      apply planar.keep
      intro key
      simp only [getOrFresh_insert]
      split
      · exact .inr (encounter.shear_firstRecord material)
      · exact .inl rfl

/-- A visit leaves its own displacement in its contact plane, and the others
where they are. -/
theorem meet {state : PassState α} (planar : state.ledger.Planar past) (context : PassContext α)
    (encounter : Encounter α) :
    (context.meet state encounter).ledger.Planar (past ++
      [⟨encounter, (encounter.evaluate context (state.ledger.getOrFresh encounter.key)).1⟩]) := by
  intro key found force last
  rw [Meeting.last?_append_singleton] at last
  simp only [PassContext.meet, getOrFresh_insert]
  split at last
  case isTrue same =>
    obtain ⟨rfl, contact⟩ := Meeting.mk.inj (Option.some.inj last)
    rw [if_pos same, ← encounter.delta_kinematics context.bodies]
    exact (Material.contact_of_evaluate contact).inPlane.1
  case isFalse different =>
    rw [if_neg different]
    exact planar key found force last

theorem foldl_meet (context : PassContext α) (state : PassState α)
    (planar : state.ledger.Planar past) (encounters : List (Encounter α)) :
    (encounters.foldl context.meet state).ledger.Planar
      (past ++ context.meetings state encounters) := by
  induction encounters generalizing past state with
  | nil =>
      rw [PassContext.meetings, List.zipWith_nil_left, List.append_nil]
      exact planar
  | cons encounter later ih =>
      have after := ih _ (planar.meet context encounter)
      rw [List.append_assoc] at after
      exact after

end Ledger.Planar

/-! ## Runs -/

namespace Session

theorem planar_perform {session : Session σ α} {past : List (Meeting α)}
    (planar : session.interaction.ledger.Planar past) (action : Action σ α) :
    (session.perform action).2.interaction.ledger.Planar (past ++ session.meetings action) := by
  cases action with
  | step exchange context list bodies =>
      have ready : (session.prepared exchange context list bodies).interaction.ledger.Planar
          past := by
        rw [prepared_ledger]
        split
        · exact planar.retain _
        · exact planar
      rcases session.step_cases exchange context list bodies with
        ⟨fault, refused⟩ | ⟨timestep, checked, -, ⟨fault, stopped⟩ | ⟨-, advanced⟩⟩
      · rw [meetings_of_refused (congrArg Prod.fst refused), List.append_nil]
        simp only [perform, refused]
        exact planar
      · rw [meetings_of_refused (congrArg Prod.fst stopped), List.append_nil]
        simp only [perform, stopped]
        exact ready
      · let start := session.prepared exchange context list bodies
        simp only [perform, meetings, checked, advanced]
        exact Ledger.Planar.foldl_meet (start.passContext timestep)
          ⟨start.assembly, start.interaction.ledger, .none⟩ ready _
  | formBonds list =>
      simp only [meetings, List.append_nil]
      rcases session.formBonds_cases list with ⟨fault, refused⟩ | ⟨-, -, formed⟩
      · simp only [perform, refused]
        exact planar
      · simp only [perform, formed]
        exact planar.foldl_bond _ _ _
  | configure | announce | setUp | cutoff | resetTimestep | preview | place =>
      rw [perform_ledger_of_isIdle session rfl]
      simp only [meetings, List.append_nil]
      exact planar

theorem planar_run {session : Session σ α} {past : List (Meeting α)}
    (planar : session.interaction.ledger.Planar past) (actions : List (Action σ α)) :
    (session.run actions).interaction.ledger.Planar (past ++ session.history actions) := by
  induction actions generalizing session past with
  | nil =>
      rw [history, List.append_nil]
      exact planar
  | cons action later ih =>
      have after := ih (planar_perform planar action)
      rw [List.append_assoc] at after
      exact after

/-- Displacements and the forces that they cause lie in the contact plane.
Whatever the record of a pair, a visit that finds it in contact leaves a
displacement at a right angle to the line of centers, exerts a tangential force
at a right angle to it, and unless it comes apart its force along the line of
centers is the normal one.  So at any point of a run, whatever the session
remembers at its beginning, a pair that was in contact when it was last visited
remembers a displacement at a right angle to the separation of that visit. -/
theorem displacement_in_plane :
    (∀ (material : Material α) (pair : Kinematics α) (record : ContactRecord α) (flipped : Bool)
        (timestep : α) (force : ContactForce α),
      (material.evaluate pair record flipped timestep).1 = .contact force →
        (material.evaluate pair record flipped timestep).2.shear.dot pair.delta = 0 ∧
          force.tangential.dot pair.delta = 0 ∧
          (force.separated = false →
            force.force.dot pair.delta = force.normal * pair.delta.norm)) ∧
    ∀ (session : Session σ α) (actions : List (Action σ α)) (key : PairKey)
        (encounter : Encounter α) (force : ContactForce α),
      Meeting.last? key (session.history actions) = some ⟨encounter, .contact force⟩ →
        ((session.run actions).interaction.ledger.getOrFresh key).shear.dot
          encounter.separation = 0 := by
  constructor
  · intro material pair record flipped timestep force contact
    exact (Material.contact_of_evaluate contact).inPlane
  · intro session actions
    have planar := planar_run (.nil session.interaction.ledger) actions
    rwa [List.nil_append] at planar

/-- A unit sphere that passes by another one, with which it overlaps. -/
noncomputable def passer : Particle ℝ :=
  { Particle.atRest ⟨1⟩ ⟨1, 0, 0⟩ 1 1 with velocity := ⟨0, 1, 0⟩ }

/-- A session in which bonds have been formed, and the two spheres are free. -/
noncomputable def passing : Session Unit ℝ where
  interaction :=
    { Interaction.start .standard (.empty 1) with timestep := some 1, bondsFormed := true }
  assembly := .ofOwned [passer, .atRest ⟨2⟩ 0 1 1]
  exchange := ()

/-- Their encounter in a step. -/
noncomputable def passingBy : Encounter ℝ :=
  ⟨0, 1, passer.cleared, (Particle.atRest ⟨2⟩ 0 1 1).cleared⟩

theorem kinematics_passingBy : passingBy.kinematics none = .passing 1 (1 / 2) := by
  have delta : passer.position - 0 = ⟨1, 0, 0⟩ := sub_zero _
  have velocity : passer.velocity - 0 = ⟨0, 1, 0⟩ := sub_zero _
  have mass : (1 * 1 / (1 + 1) : ℝ) = 1 / 2 := by norm_num
  exact Kinematics.ext delta velocity rfl rfl rfl rfl mass

/-- In its first step the session visits the pair once. -/
theorem history_passing :
    passing.history [.step .serial (.first 1) ⟨[(0, [1])]⟩ none] =
      [⟨passingBy, (passingBy.evaluate (passing.passContext 1) .fresh).1⟩] := by
  have checked : passing.checkStep (.first 1) = .ok 1 :=
    checkStep_eq_ok_iff.mpr ⟨rfl, rfl, le_rfl, le_rfl⟩
  have fits : NeighborList.Fits ⟨[(0, [1])]⟩ passing.assembly := by
    simp [NeighborList.Fits, passing, Assembly.ofOwned, Assembly.ofGhosts, Assembly.size]
  have step := passing.step_of_fits .serial none checked fits
  simp only [history, meetings, checked, step, List.append_nil]
  rfl

/-- A displacement that does not lie in the contact plane is brought there by a
visit, and a pair of spheres that pass by each other remembers a displacement in
their plane. -/
theorem displacement_in_plane_passing :
    let record : ContactRecord ℝ := { ContactRecord.fresh with shear := ⟨1, 1, 0⟩ }
    let pair : Kinematics ℝ := .passing 1 1
    let visited := Material.standard.evaluate pair record false 1
    let actions : List (Action Unit ℝ) := [.step .serial (.first 1) ⟨[(0, [1])]⟩ none]
    record.shear.dot pair.delta = 1 ∧ visited.2.shear.dot pair.delta = 0 ∧
      ((passing.run actions).interaction.ledger.getOrFresh passingBy.key).shear.dot
        passingBy.separation = 0 := by
  intro record pair visited actions
  have along : record.shear.dot pair.delta = 1 := by
    change (1 * 1 + 1 * 0 + 0 * 0 : ℝ) = 1
    norm_num
  have engaged : pair.standing record = .engaged 1 := Kinematics.engaged_passing 1
  have contact : visited.1 = .contact _ := congrArg Prod.fst (Material.evaluate_of_engaged engaged)
  let force :=
    (Material.standard.engage (.passing 1 (1 / 2)) .fresh passingBy.flipped 1 (1 : ℝ)).1
  have met : (passingBy.evaluate (passing.passContext 1) .fresh).1 = .contact force := by
    have bodies : (passing.passContext 1).bodies = none := rfl
    rw [Encounter.evaluate, bodies, kinematics_passingBy]
    exact congrArg Prod.fst (Material.evaluate_of_engaged (Kinematics.engaged_passing (1 / 2)))
  have last : Meeting.last? passingBy.key (passing.history actions) =
      some ⟨passingBy, .contact force⟩ := by
    rw [history_passing, met]
    exact Meeting.last?_append_singleton _ [] _
  have planar := @displacement_in_plane Unit ℝ _
  exact ⟨along, (planar.1 _ _ _ _ _ _ contact).1, planar.2 _ _ _ _ _ last⟩

end Session

end GranularBonds

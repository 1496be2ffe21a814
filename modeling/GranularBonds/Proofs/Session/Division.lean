import Mathlib
import GranularBonds.Proofs.Contact.Division
import GranularBonds.Proofs.Session.Preview

/-!
# Divisors of a run

Bonds, steps and previews are the calls that divide, and nothing else of a run
does.  The particles that a setup checks have masses above zero, and so have the
ghosts that replicate such particles on other workers; no call changes a mass.
Main statement: in exact arithmetic every divisor of a run over such particles is
above zero, and the run is the same under any division that answers the same for
these divisors.
-/

namespace GranularBonds

/-! ## Accepted particles -/

/-- The owned particles pass the check of a setup, and every ghost has the radius
and the mass of a particle that passes it elsewhere. -/
structure Assembly.Accepted {α : Type} [Scalar α] (assembly : Assembly α) : Prop where
  owned : assembly.owned.forM Session.checkParticle = .ok ()
  replicated : ∀ ghost ∈ assembly.particles.drop assembly.ownedCount,
    ∃ origin, Session.checkParticle origin = .ok () ∧
      ghost.radius = origin.radius ∧ ghost.mass = origin.mass

namespace Session

/-! ## Divisors of a call -/

section Divisors

variable {σ α : Type} [Scalar α]

/-- Divisors of an action.  Those of a step are met once the session is prepared
for it. -/
def divisors (session : Session σ α) : Action σ α → List α
  | .formBonds _ => session.interaction.material.bondDivisors
  | .step exchange context list bodies =>
      match session.checkStep context with
      | .error _ => []
      | .ok timestep =>
          let prepared := session.prepared exchange context list bodies
          (prepared.passContext timestep).divisors (list.encounters prepared.assembly)
            ⟨prepared.assembly, prepared.interaction.ledger, .none⟩
  | .preview first second =>
      match session.interaction.timestep, Encounter.at? session.assembly (first, second) with
      | some timestep, some encounter =>
          encounter.divisors (session.passContext timestep)
            (session.interaction.ledger.getOrFresh encounter.key)
      | _, _ => []
  | _ => []

/-- Divisors of a list of actions, one after the other. -/
def divisorsOf (session : Session σ α) : List (Action σ α) → List α
  | [] => []
  | action :: later => session.divisors action ++ (session.perform action).2.divisorsOf later

end Divisors

/-! ## Another division -/

section Agreement

variable {σ α : Type} [Scalar α] {divide : α → α → α} {session : Session σ α}

theorem formBonds_withDivision {list : NeighborList}
    (agrees : Scalar.AgreesOn divide (session.divisors (.formBonds list))) :
    @formBonds σ α (.withDivision divide) session list = session.formBonds list := by
  unfold formBonds
  rw [Material.formBonds_withDivision agrees]

/-- A session after its pass was answered. -/
def concluded (session : Session σ α) :
    Except (Fault α) (PassState α) → Except (Fault α) PassReport × Session σ α
  | .error fault => (.error fault, session)
  | .ok state =>
      (.ok state.report, { session.withLedger state.ledger with assembly := state.assembly })

theorem evaluate_withDivision {list : NeighborList} {timestep : α}
    (agrees : Scalar.AgreesOn divide
      ((session.passContext timestep).divisors (list.encounters session.assembly)
        ⟨session.assembly, session.interaction.ledger, .none⟩)) :
    @evaluate σ α (.withDivision divide) session list timestep =
      session.evaluate list timestep :=
  congrArg session.concluded (PassContext.run_withDivision agrees)

theorem step_withDivision {exchange : Exchange σ α} {context : StepContext α}
    {list : NeighborList} {bodies : Option (BodyMasses α)}
    (agrees : Scalar.AgreesOn divide
      (session.divisors (.step exchange context list bodies))) :
    @step σ α (.withDivision divide) exchange session context list bodies =
      session.step exchange context list bodies := by
  cases checked : session.checkStep context with
  | error fault =>
      have refused : @checkStep σ α (.withDivision divide) session context = .error fault := checked
      simp only [step, checked, refused]
  | ok timestep =>
      by_cases passes : context.rebuilt = true → list.check session.assembly = .ok ()
      · simp only [divisors, checked] at agrees
        rw [session.step_of_checks exchange bodies checked passes, ← evaluate_withDivision agrees]
        exact @step_of_checks σ α (.withDivision divide) exchange session _ _ bodies _ checked passes
      · rw [Classical.not_imp] at passes
        have accepted : @checkStep σ α (.withDivision divide) session context = .ok timestep :=
          checked
        cases refused : list.check session.assembly with
        | ok _ => exact absurd refused passes.2
        | error fault => simp only [step, checked, accepted, passes.1, adopt, refused, if_true]

theorem foresee_withDivision {context : PassContext α} {ledger : Ledger α}
    {encounter : Encounter α}
    (agrees : Scalar.AgreesOn divide
      (encounter.divisors context (ledger.getOrFresh encounter.key))) :
    @PassContext.foresee α (.withDivision divide) context ledger encounter =
      context.foresee ledger encounter := by
  rw [Encounter.divisors, Scalar.agreesOn_append_iff] at agrees
  unfold PassContext.foresee
  rw [Encounter.kinematics_withDivision agrees.1]
  exact Material.preview_withDivision agrees.2

theorem preview_withDivision {first second : Nat}
    (agrees : Scalar.AgreesOn divide (session.divisors (.preview first second))) :
    @preview σ α (.withDivision divide) session first second = session.preview first second := by
  by_cases ready : ∃ timestep encounter, session.interaction.timestep = some timestep ∧
      Encounter.at? session.assembly (first, second) = some encounter
  · rcases ready with ⟨timestep, encounter, known, met⟩
    simp only [divisors, known, met] at agrees
    have foreseen := session.preview_eq_ok known met
    have other := @preview_eq_ok σ α (.withDivision divide) session timestep known (first, second)
      encounter met
    rw [foresee_withDivision agrees] at other
    exact other.trans foreseen.symm
  · -- A preview that is refused is refused before anything is divided.
    refine bind_congr_of_ok fun timestep known => ?_
    refine bind_congr_of_ok fun _ _ => ?_
    refine bind_congr_of_ok fun _ _ => ?_
    refine bind_congr_of_ok fun firstParticle firstHere => ?_
    refine bind_congr_of_ok fun secondParticle secondHere => ?_
    have met : Encounter.at? session.assembly (first, second) =
        some ⟨first, second, firstParticle.cleared, secondParticle.cleared⟩ :=
      Encounter.at?_eq_some_iff.mpr ⟨_, _, Assembly.particle_eq_ok_iff.mp firstHere,
        Assembly.particle_eq_ok_iff.mp secondHere, rfl⟩
    exact absurd ⟨timestep, _, requireTimestep_eq_ok_iff.mp known, met⟩ ready

/-- An action is answered and carried out in the same way under a division that
answers the same for its divisors. -/
theorem perform_withDivision {action : Action σ α}
    (agrees : Scalar.AgreesOn divide (session.divisors action)) :
    @perform σ α (.withDivision divide) session action = session.perform action := by
  cases action with
  | configure | announce | setUp | cutoff | resetTimestep | place => rfl
  | formBonds list => exact congrArg (Prod.map Reply.bonding id) (formBonds_withDivision agrees)
  | step exchange context list bodies =>
      exact congrArg (Prod.map Reply.pass id) (step_withDivision agrees)
  | preview first second =>
      exact congrArg (fun answer => (Reply.preview answer, session)) (preview_withDivision agrees)

/-- A run answers the same, and ends in the same session, under a division that
answers the same for its divisors. -/
theorem run_withDivision {actions : List (Action σ α)}
    (agrees : Scalar.AgreesOn divide (session.divisorsOf actions)) :
    @run σ α (.withDivision divide) session actions = session.run actions ∧
      @transcript σ α (.withDivision divide) session actions = session.transcript actions := by
  induction actions generalizing session with
  | nil => exact ⟨rfl, rfl⟩
  | cons action later ih =>
      rw [divisorsOf, Scalar.agreesOn_append_iff] at agrees
      have performed := perform_withDivision agrees.1
      have rest := ih agrees.2
      constructor
      · exact (congrArg (fun result => @run σ α (.withDivision divide) result.2 later)
          performed).trans rest.1
      · exact (congrArg (fun result =>
          (action, result.1) :: @transcript σ α (.withDivision divide) result.2 later)
          performed).trans (congrArg _ rest.2)

end Agreement

/-! ## Divisors above zero -/

section Positivity

variable {σ α : Type} [ExactScalar α] {session : Session σ α}

theorem checkParticle_iff_pos {particle : Particle α} :
    checkParticle particle = .ok () ↔ 0 < particle.radius ∧ 0 < particle.mass := by
  have usable (value : α) : Scalar.isUsable value = true ↔ 0 < value := by
    refine ⟨fun usable => ?_, Scalar.isUsable_of_pos⟩
    simpa [Scalar.isUsable, Scalar.isFinite] using usable
  rw [checkParticle_eq_ok_iff, usable, usable]

end Positivity

end Session

namespace Assembly

variable {α : Type} [ExactScalar α] {assembly : Assembly α}

/-- Every particle has a mass above zero. -/
def Heavy (assembly : Assembly α) : Prop := ∀ particle ∈ assembly.particles, 0 < particle.mass

theorem Accepted.positive (accepted : assembly.Accepted) :
    ∀ particle ∈ assembly.particles, 0 < particle.radius ∧ 0 < particle.mass := by
  intro particle member
  rw [← List.take_append_drop assembly.ownedCount assembly.particles, List.mem_append] at member
  rcases member with owned | ghost
  · exact Session.checkParticle_iff_pos.mp (forM_eq_ok_iff.mp accepted.owned particle owned)
  · rcases accepted.replicated particle ghost with ⟨origin, passes, radius, mass⟩
    rw [radius, mass]
    exact Session.checkParticle_iff_pos.mp passes

theorem Accepted.heavy (accepted : assembly.Accepted) : assembly.Heavy :=
  fun particle member => (accepted.positive particle member).2

/-- Loads are no part of a mass. -/
theorem heavy_iff_of_cleared {other : Assembly α} (same : assembly.cleared = other.cleared) :
    assembly.Heavy ↔ other.Heavy := by
  have masses (assembly : Assembly α) : assembly.Heavy ↔ assembly.cleared.Heavy := by
    simp [Heavy, cleared, Particle.cleared]
  rw [masses assembly, same, ← masses other]

theorem Heavy.of_at? (heavy : assembly.Heavy) {pair : Nat × Nat} {encounter : Encounter α}
    (met : Encounter.at? assembly pair = some encounter) :
    0 < encounter.firstParticle.mass ∧ 0 < encounter.secondParticle.mass := by
  rcases Encounter.at?_eq_some_iff.mp met with ⟨first, second, here, there, rfl⟩
  exact ⟨heavy first (List.mem_of_getElem? here), heavy second (List.mem_of_getElem? there)⟩

end Assembly

namespace Session

variable {σ α : Type} [ExactScalar α] {session : Session σ α}

/-- No action changes a mass, but for the particles that are placed anew. -/
theorem heavy_perform (heavy : session.assembly.Heavy) {action : Action σ α}
    (placed : ∀ assembly exchange, action = .place assembly exchange → assembly.Heavy) :
    (session.perform action).2.assembly.Heavy := by
  cases action with
  | announce | cutoff | preview => exact heavy
  | place assembly exchange => exact placed assembly exchange rfl
  | configure rows columns =>
      simp only [perform, configure]
      split <;> exact heavy
  | setUp exchange setup =>
      simp only [perform, setUp]
      split <;> exact heavy
  | resetTimestep timestep =>
      simp only [perform, resetTimestep]
      split <;> exact heavy
  | formBonds list =>
      simp only [perform, formBonds]
      split <;> exact heavy
  | step exchange context list bodies =>
      have prepared : (session.prepared exchange context list bodies).assembly.Heavy := by
        rwa [prepared_assembly]
      rcases session.step_cases exchange context list bodies with
        ⟨fault, refused⟩ | ⟨timestep, -, -, ⟨fault, stopped⟩ | ⟨-, advanced⟩⟩
      · simp only [perform, refused]
        exact heavy
      · simp only [perform, stopped]
        exact prepared
      · simp only [perform, advanced]
        exact (Assembly.heavy_iff_of_cleared (PassContext.cleared_foldl_meet _ _ _)).mpr prepared

/-- Every divisor of an action is above zero if the masses are. -/
theorem divisors_pos (heavy : session.assembly.Heavy) (action : Action σ α) :
    Scalar.AllPositive (session.divisors action) := by
  cases action with
  | configure | announce | setUp | cutoff | resetTimestep | place => exact List.forall_mem_nil _
  | formBonds list => exact Scalar.allPositive_ifPositive _
  | step exchange context list bodies =>
      simp only [divisors]
      cases session.checkStep context with
      | error fault => exact List.forall_mem_nil _
      | ok timestep =>
          refine PassContext.divisors_pos _ (fun encounter met => ?_) _
          rw [prepared_assembly] at met
          rcases List.mem_filterMap.mp met with ⟨pair, -, met⟩
          exact heavy.of_at? met
  | preview first second =>
      simp only [divisors]
      split
      case h_1 timestep encounter known met =>
          obtain ⟨firstHeavy, secondHeavy⟩ := heavy.of_at? met
          exact encounter.divisors_pos firstHeavy secondHeavy _ _
      case h_2 => exact List.forall_mem_nil _

theorem divisorsOf_pos (heavy : session.assembly.Heavy) {actions : List (Action σ α)}
    (placed : ∀ assembly exchange, .place assembly exchange ∈ actions → assembly.Heavy) :
    Scalar.AllPositive (session.divisorsOf actions) := by
  induction actions generalizing session with
  | nil => exact List.forall_mem_nil _
  | cons action later ih =>
      refine List.forall_mem_append.mpr ⟨divisors_pos heavy action, ih ?_ ?_⟩
      · exact heavy_perform heavy fun assembly exchange same =>
          placed assembly exchange (same ▸ List.mem_cons_self)
      · exact fun assembly exchange member =>
          placed assembly exchange (List.mem_cons_of_mem action member)

/-- Nothing is divided by zero in a run.  However a session was left and however
it is driven, with any transport, body masses and lists: if all particles that
are placed pass the check of a setup or replicate such particles, every divisor
of the run is above zero, and these are all its divisors, since the run answers
the same and ends in the same session under any division that answers the same
for them.  A pair whose centers coincide divides by nothing and loads nothing,
and its displacement stays as it was unless it is separated or torn. -/
theorem divisions_run (accepted : session.assembly.Accepted) {actions : List (Action σ α)}
    (placed : ∀ assembly exchange, .place assembly exchange ∈ actions → assembly.Accepted) :
    Scalar.AllPositive (session.divisorsOf actions) ∧
      (∀ divide, Scalar.AgreesOn divide (session.divisorsOf actions) →
        @run σ α (.withDivision divide) session actions = session.run actions ∧
          @transcript σ α (.withDivision divide) session actions = session.transcript actions) ∧
      ∀ (material : Material α) (pair : Kinematics α), pair.delta = 0 →
        ∀ (record : ContactRecord α) (flipped : Bool) (timestep : α),
          let result := material.evaluate pair record flipped timestep
          material.divisors pair record flipped timestep = [] ∧
            (∀ (context : PassContext α) (assembly : Assembly α) (index other : Nat),
              context.load assembly index other result.1 = assembly) ∧
            (result.1 = .separated ∨ (∃ overlap, result.1 = .torn overlap) ∨
              result.1 = .coincident ∧ result.2.shear = record.shear) := by
  refine ⟨divisorsOf_pos accepted.heavy fun assembly exchange member =>
    (placed assembly exchange member).heavy, fun divide => run_withDivision, ?_⟩
  intro material pair coincide record flipped timestep
  rcases material.evaluate_of_close (Kinematics.close_of_delta_eq_zero coincide) record flipped
    timestep with ⟨undivided, free, way⟩
  exact ⟨undivided, fun context => context.load_of_free free, way⟩

/-- Two spheres that touch, of which the second is a ghost. -/
noncomputable def besideGhost : Assembly ℝ :=
  .ofGhosts [.atRest ⟨1⟩ 0 1 1] [.atRest ⟨2⟩ ⟨1, 0, 0⟩ 1 1]

theorem accepted_besideGhost : besideGhost.Accepted where
  owned := by
    refine forM_eq_ok_iff.mpr fun particle member => checkParticle_iff_pos.mpr ?_
    rw [List.mem_singleton.mp (show particle ∈ [Particle.atRest ⟨1⟩ 0 1 1] from member)]
    exact ⟨one_pos, one_pos⟩
  replicated := by
    intro ghost member
    rw [List.mem_singleton.mp (show ghost ∈ [Particle.atRest ⟨2⟩ ⟨1, 0, 0⟩ 1 1] from member)]
    exact ⟨_, checkParticle_iff_pos.mpr ⟨one_pos, one_pos⟩, rfl, rfl⟩

/-- A session over these spheres whose bonds can be formed. -/
noncomputable def readyBesideGhost : Session Unit ℝ where
  interaction := { Interaction.start .standard (.empty 1) with timestep := some 1 }
  assembly := besideGhost
  exchange := ()

/-- Bonding divides by the stiffness, and bonding, a step and a preview come out
the same if a division by zero answers one. -/
theorem divisions_run_readyBesideGhost :
    let list : NeighborList := .ofPairs [(0, 1)]
    let actions : List (Action Unit ℝ) :=
      [.formBonds list, .place besideGhost (), .step .serial (.first 1) list none, .preview 0 1]
    let divide (dividend divisor : ℝ) : ℝ := if divisor = 0 then 1 else dividend / divisor
    200000 ∈ readyBesideGhost.divisorsOf actions ∧
      Scalar.AllPositive (readyBesideGhost.divisorsOf actions) ∧
        @run Unit ℝ (.withDivision divide) readyBesideGhost actions =
          readyBesideGhost.run actions ∧
        (Material.standard : Material ℝ).divisors (.atRest 0 1 1 1) .fresh false 1 = [] := by
  intro list actions divide
  have placed : ∀ assembly exchange, .place assembly exchange ∈ actions → assembly.Accepted := by
    intro assembly exchange member
    simp only [actions, List.mem_cons, reduceCtorEq, List.not_mem_nil, or_false, false_or,
      Action.place.injEq] at member
    rw [member.1]
    exact accepted_besideGhost
  have accepted : readyBesideGhost.assembly.Accepted := accepted_besideGhost
  rcases divisions_run accepted placed with
    ⟨positive, same, coincident⟩
  have stiff : (0 : ℝ) < (200000 : Nat) := by norm_num
  refine ⟨List.mem_append_left _ ?_, positive, (same divide fun divisor member dividend => ?_).1,
    (coincident .standard (.atRest 0 1 1 1) rfl .fresh false 1).1⟩
  · have divisors : readyBesideGhost.divisors (.formBonds list) = [((200000 : Nat) : ℝ)] :=
      if_pos stiff
    rw [divisors]
    norm_num
  · exact if_neg (positive divisor member).ne'

end Session

end GranularBonds

import GranularBonds.Proofs.Contact.Tally
import GranularBonds.Proofs.Session.BondLife
import GranularBonds.Proofs.Session.Course

/-!
# The balance of bonds in a run

Every bond that a run has formed is at any later point either alive in the
ledger or counted as a failure by the report of one step.  Calls that are
refused and pruning move nothing between the two sides.
-/

namespace GranularBonds

namespace Session

variable {σ α : Type} [Scalar α]

/-- Bonds that broke in the step that an answer reports. -/
def Reply.failures : Reply α → Nat
  | pass (.ok report) => report.failures
  | _ => 0

/-- Bonds that broke in all steps that a list of answers reports. -/
def failures (replies : List (Reply α)) : Nat := (replies.map Reply.failures).sum

theorem bondedCount_prepared (exchange : Exchange σ α) (session : Session σ α)
    (context : StepContext α) (list : NeighborList) (bodies : Option (BodyMasses α)) :
    (session.prepared exchange context list bodies).interaction.ledger.bondedCount =
      session.interaction.ledger.bondedCount := by
  rw [prepared_ledger]
  split
  · exact Ledger.bondedCount_retain ..
  · rfl

/-- What an action takes from the live bonds stands in its answer. -/
theorem bonds_perform (session : Session σ α) (action : Action σ α)
    (formed : session.interaction.bondsFormed = true) :
    (session.perform action).2.interaction.ledger.bondedCount +
        (session.perform action).1.failures =
      session.interaction.ledger.bondedCount := by
  cases action with
  | announce | cutoff | preview | place => rfl
  | configure rows columns =>
      simp only [perform, configure]
      split <;> rfl
  | setUp exchange setup =>
      simp only [perform, setUp]
      split <;> rfl
  | resetTimestep timestep =>
      simp only [perform, resetTimestep]
      split <;> rfl
  | formBonds list =>
      rcases session.formBonds_cases list with ⟨fault, refused⟩ | ⟨unformed, -, -⟩
      · simp only [perform, refused]
        rfl
      · rw [formed] at unformed
        cases unformed
  | step exchange context list bodies =>
      have prepared := session.bondedCount_prepared exchange context list bodies
      rcases session.step_cases exchange context list bodies with
        ⟨fault, refused⟩ | ⟨timestep, -, -, ⟨fault, stopped⟩ | ⟨-, advanced⟩⟩
      · simp only [perform, refused]
        rfl
      · simp only [perform, stopped]
        exact prepared
      · simp only [perform, advanced]
        rw [← prepared]
        exact PassContext.bonds_foldl_meet _ _ _

/-- What a run takes from the live bonds stands in its answers. -/
theorem bonds_balance {session : Session σ α}
    (formed : session.interaction.bondsFormed = true) (actions : List (Action σ α)) :
    (session.run actions).interaction.ledger.bondedCount + failures (session.replies actions) =
      session.interaction.ledger.bondedCount := by
  induction actions generalizing session with
  | nil => rfl
  | cons action later ih =>
      have here := session.bonds_perform action formed
      have rest := ih ((session.perform_ledgerChange action).bondsFormed formed)
      simp only [run_cons, failures, replies, transcript, List.map_cons, List.sum_cons]
        at rest ⊢
      omega

/-- The failures of one kind in the report of a step are the pairs whose bond
the step broke in this way. -/
theorem broken_step (exchange : Exchange σ α) (session : Session σ α) (context : StepContext α)
    (list : NeighborList) (bodies : Option (BodyMasses α)) {report : PassReport}
    (accepted : (session.step exchange context list bodies).1 = .ok report) (broken : BondState)
    (unbound : broken ≠ .bonded) :
    Exactly (report.broken broken) fun key =>
      session.interaction.ledger.bondAt key = .bonded ∧
        (session.step exchange context list bodies).2.interaction.ledger.bondAt key = broken := by
  rcases session.step_cases exchange context list bodies with
    ⟨fault, refused⟩ | ⟨timestep, -, -, ⟨fault, stopped⟩ | ⟨-, advanced⟩⟩
  · rw [refused] at accepted
    cases accepted
  · rw [stopped] at accepted
    cases accepted
  · rw [advanced] at accepted ⊢
    have same := Except.ok.inj accepted
    have held : ∀ key,
        (session.prepared exchange context list bodies).interaction.ledger.bondAt key = .bonded ↔
          session.interaction.ledger.bondAt key = .bonded := by
      intro key
      rw [prepared_ledger]
      split
      · exact Ledger.bondAt_retain_eq_bonded_iff ..
      · rfl
    let ready := session.prepared exchange context list bodies
    rcases (ready.passContext timestep).broken_foldl_meet unbound
      (list.encounters ready.assembly) ⟨ready.assembly, ready.interaction.ledger, .none⟩ with
      ⟨count, counted, exactly⟩
    have total : count = report.broken broken := by
      rw [← same]
      refine Eq.trans ?_ counted.symm
      cases broken <;> exact (Nat.zero_add count).symm
    rw [← total]
    exact exactly.congr fun key => and_congr_left' (held key).symm

/-- A bonding on a list that names no pair twice reports the bonds that the
ledger holds. -/
theorem bonded_formBonds {session : Session σ α} {list : NeighborList} {keys : List PairKey}
    (named : list.keys session.assembly = .ok keys) (once : keys.Nodup)
    (empty : session.interaction.ledger = .empty) {report : BondingReport}
    (accepted : (session.formBonds list).1 = .ok report) :
    report.bonded = (session.formBonds list).2.interaction.ledger.bondedCount := by
  rcases session.formBonds_cases list with ⟨fault, refused⟩ | ⟨-, passes, formed⟩
  · rw [refused] at accepted
    cases accepted
  · rw [formed] at accepted ⊢
    rw [list.keys_of_check passes] at named
    rw [← Except.ok.inj named] at once
    rw [← Except.ok.inj accepted]
    have counted := session.interaction.material.bonded_foldl_bond once
      (⟨0, 0⟩, session.interaction.ledger) (fun encounter _ => by rw [empty]; rfl)
    rw [empty] at counted ⊢
    exact counted

/-- No bond of a run is lost or counted twice.  However an interaction is
constructed and driven, once bonds are formed on a list that names no pair
twice, whatever follows: the bonds formed are those alive and the failures
reported.  A step reports as torn the pairs whose bond held before it and is
torn after it, likewise for those sheared off, and pruning changes no count. -/
theorem bonds_counted_run {interaction : Interaction Float}
    (constructed : interaction.Constructed) (assembly : Assembly Float) (exchange : σ)
    (actions : List (Action σ Float)) :
    let session := Session.run ⟨interaction, assembly, exchange⟩ actions
    ∀ list keys report, list.keys session.assembly = .ok keys → keys.Nodup →
      (session.formBonds list).1 = .ok report →
      ∀ later,
        let start := (session.formBonds list).2
        let before := start.run later
        report.bonded =
          before.interaction.ledger.bondedCount + failures (start.replies later) ∧
        (∀ listed, (before.interaction.ledger.retain listed).bondedCount =
          before.interaction.ledger.bondedCount) ∧
        ∀ exchange context neighbors bodies counts,
          (before.step exchange context neighbors bodies).1 = .ok counts →
          let after := (before.step exchange context neighbors bodies).2
          Exactly counts.torn (fun key => before.interaction.ledger.bondAt key = .bonded ∧
            after.interaction.ledger.bondAt key = .brokenTensile) ∧
          Exactly counts.sheared (fun key => before.interaction.ledger.bondAt key = .bonded ∧
            after.interaction.ledger.bondAt key = .brokenShear) := by
  intro session list keys report named once accepted later start before
  have empty : session.interaction.ledger = .empty := by
    rcases constructed.eq_start with ⟨material, table, rfl⟩
    have pristine := pristine_run material table assembly exchange actions
    rcases session.formBonds_cases list with ⟨fault, refused⟩ | ⟨unformed, -, -⟩
    · rw [refused] at accepted
      cases accepted
    · exact (pristine unformed).2.1
  have balance := bonds_balance (bondsFormed_of_formBonds accepted) later
  refine ⟨?_, before.interaction.ledger.bondedCount_retain, ?_⟩
  · rw [bonded_formBonds named once empty accepted]
    exact balance.symm
  · intro exchange context neighbors bodies counts stepped
    exact ⟨before.broken_step exchange context neighbors bodies stepped .brokenTensile nofun,
      before.broken_step exchange context neighbors bodies stepped .brokenShear nofun⟩

/-- The second of the touching spheres is pulled away, and a step follows. -/
def pullingApart : List (Action Unit Float) :=
  [.place (.ofOwned [.atRest ⟨1⟩ 0 1 1, .atRest ⟨2⟩ ⟨5, 0, 0⟩ 1 1]) (),
    .step .serial (.first 0.001) (.ofPairs [(0, 1)]) none]

/-- The spheres bond, and the step that pulls them apart reports the one
failure. -/
theorem bonds_counted_run_pullingApart :
    let session := Session.run ⟨.start .standard (.empty 1), touchingSpheres, ()⟩ settingUp
    let list := NeighborList.ofPairs [(0, 1)]
    let start := (session.formBonds list).2
    ∃ keys report, list.keys session.assembly = .ok keys ∧ keys.Nodup ∧
      (session.formBonds list).1 = .ok report ∧ report.bonded = 1 ∧
      (start.run pullingApart).interaction.ledger.bondedCount = 0 ∧
      failures (start.replies pullingApart) = 1 := by
  intro session list start
  have counted := bonds_counted_run constructed_standard touchingSpheres () settingUp
  have named : list.keys session.assembly = .ok [⟨⟨1⟩, ⟨2⟩⟩] :=
    eq_ok_of_toOption (by decide +kernel)
  have formed : (session.formBonds list).1 = .ok ⟨1, 0⟩ := eq_ok_of_toOption (by decide +kernel)
  have none : (start.run pullingApart).interaction.ledger.bondedCount = 0 := by decide +kernel
  have once : [(⟨⟨1⟩, ⟨2⟩⟩ : PairKey)].Nodup := by decide
  have balance : ∀ later, 1 = (start.run later).interaction.ledger.bondedCount +
      failures (start.replies later) :=
    fun later => (counted list _ ⟨1, 0⟩ named once formed later).1
  have here := balance pullingApart
  exact ⟨_, _, named, once, formed, rfl, none, by omega⟩

end Session

end GranularBonds

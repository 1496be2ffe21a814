import GranularBonds.Proofs.Contact.Breaks
import GranularBonds.Proofs.Session.Touching

/-!
# Broken bonds in a run

The break totals are sums over the records that are remembered, and a step on a
new list forgets the pairs that left it, broken bonds included.  Main statement:
the breaks that all steps of a run have reported are those that the totals still
count and those whose records were removed, and nothing but a step on a new list
removes them.
-/

namespace GranularBonds.Session

variable {σ α : Type} [Scalar α]

/-! ## Breaks of an action -/

/-- Bonds that broke in a given way in the step that an answer reports. -/
def Reply.broken (state : BondState) : Reply α → Nat
  | pass (.ok report) => report.broken state
  | _ => 0

/-- Bonds that broke in a given way in all steps that a list of answers
reports. -/
def broken (state : BondState) (replies : List (Reply α)) : Nat :=
  (replies.map (Reply.broken state)).sum

/-- Number of pairs whose bond was in a state and of which nothing is
remembered after an action. -/
def removedBy (state : BondState) (session : Session σ α) (action : Action σ α) : Nat :=
  session.interaction.ledger.removed state (session.perform action).2.interaction.ledger

/-- Number of such pairs over all actions of a list. -/
def forgotten (state : BondState) (session : Session σ α) : List (Action σ α) → Nat
  | [] => 0
  | action :: later =>
      session.removedBy state action + (session.perform action).2.forgotten state later

/-- Whether an action is a step on a list that is announced as new. -/
def Action.isRebuild : Action σ α → Bool
  | .step _ context _ _ => context.rebuilt
  | _ => false

/-- The preparation of a step takes away the broken bonds that it removes. -/
theorem inState_prepared (exchange : Exchange σ α) (session : Session σ α)
    (context : StepContext α) (list : NeighborList) (bodies : Option (BodyMasses α))
    (state : BondState) :
    let ready := (session.prepared exchange context list bodies).interaction.ledger
    ready.inState state + session.interaction.ledger.removed state ready =
      session.interaction.ledger.inState state := by
  simp only [prepared_ledger]
  split
  · exact Ledger.inState_retain ..
  · rw [Ledger.removed_self, Nat.add_zero]

/-- The pass of a step brings nothing back that its preparation removed. -/
theorem removed_advanced (exchange : Exchange σ α) (session : Session σ α)
    (context : StepContext α) (list : NeighborList) (bodies : Option (BodyMasses α))
    (timestep : α) (state : BondState) :
    let ready := session.prepared exchange context list bodies
    session.interaction.ledger.removed state
        (ready.advanced list timestep).interaction.ledger =
      session.interaction.ledger.removed state ready.interaction.ledger := by
  intro ready
  apply Ledger.removed_congr
  intro key known
  have passed : (ready.advanced list timestep).interaction.ledger = _ :=
    congrArg PassState.ledger (session.passed_prepared exchange context list bodies timestep)
  rw [Bool.eq_iff_iff, passed, PassContext.isSome_get?_foldl_meet, or_iff_right_of_imp]
  intro named
  rw [prepared_ledger]
  split
  · rwa [Ledger.get?_retain, if_pos named]
  · exact known

/-- The pass of a step adds the breaks that its report counts. -/
theorem inState_advanced (session : Session σ α) (list : NeighborList) (timestep : α)
    {state : BondState} (broke : state.isBroken = true) :
    (session.advanced list timestep).interaction.ledger.inState state =
      session.interaction.ledger.inState state +
        (session.passed list timestep).report.broken state := by
  have counted := (session.passContext timestep).inState_foldl_meet
    (list.encounters session.assembly) ⟨session.assembly, session.interaction.ledger, .none⟩ broke
  have none : PassReport.none.broken state = 0 := by cases state <;> rfl
  simp only [none, Nat.add_zero] at counted
  exact counted

/-- What an action adds to the broken bonds stands in its answer. -/
theorem breaks_perform (session : Session σ α) (action : Action σ α)
    (formed : session.interaction.bondsFormed = true) {state : BondState}
    (broke : state.isBroken = true) :
    (session.perform action).2.interaction.ledger.inState state +
        session.removedBy state action =
      session.interaction.ledger.inState state + (session.perform action).1.broken state := by
  have idle : session.interaction.ledger.inState state +
      session.interaction.ledger.removed state session.interaction.ledger =
        session.interaction.ledger.inState state := by
    rw [Ledger.removed_self, Nat.add_zero]
  unfold removedBy
  cases action with
  | configure | announce | setUp | cutoff | resetTimestep | preview | place =>
      rw [session.perform_ledger_of_isIdle rfl]
      exact idle
  | formBonds list =>
      rcases session.formBonds_cases list with ⟨fault, refused⟩ | ⟨unformed, -, -⟩
      · simp only [perform, refused]
        exact idle
      · rw [formed] at unformed
        cases unformed
  | step exchange context list bodies =>
      have prepared := session.inState_prepared exchange context list bodies state
      rcases session.step_cases exchange context list bodies with
        ⟨fault, refused⟩ | ⟨timestep, -, -, ⟨fault, stopped⟩ | ⟨-, advanced⟩⟩
      · simp only [perform, refused]
        exact idle
      · simp only [perform, stopped]
        exact prepared
      · have removed := session.removed_advanced exchange context list bodies timestep state
        have added := (session.prepared exchange context list bodies).inState_advanced list
          timestep broke
        simp only [perform, advanced, Prod.map, id, Reply.broken]
        omega

/-- The breaks that a run reports are in the ledger or were removed from it. -/
theorem breaks_balance {session : Session σ α}
    (formed : session.interaction.bondsFormed = true) (actions : List (Action σ α))
    {state : BondState} (broke : state.isBroken = true) :
    (session.run actions).interaction.ledger.inState state + session.forgotten state actions =
      session.interaction.ledger.inState state + broken state (session.replies actions) := by
  induction actions generalizing session with
  | nil => rfl
  | cons action later ih =>
      have here := session.breaks_perform action formed broke
      have rest := ih ((session.perform_ledgerChange action).bondsFormed formed)
      simp only [run_cons, forgotten, broken, replies, transcript, List.map_cons, List.sum_cons]
        at rest ⊢
      omega

/-- A broken bond stays as it is, unless a step on a new list without its pair
removes its record. -/
theorem bondAt_perform (session : Session σ α) (action : Action σ α)
    (formed : session.interaction.bondsFormed = true) {key : PairKey}
    (broke : (session.interaction.ledger.bondAt key).isBroken = true) :
    let after := (session.perform action).2
    after.interaction.ledger.bondAt key = session.interaction.ledger.bondAt key ∨
      action.isRebuild = true ∧ ¬action.Evaluates session.assembly key ∧
        after.record? key = none := by
  intro after
  have change : session.LedgerChange action after := session.perform_ledgerChange action
  have free : session.interaction.ledger.bondAt key ≠ .bonded := by
    intro bonded
    rw [bonded] at broke
    cases broke
  generalize after = after at change
  cases change with
  | kept _ _ ledger => exact .inl (by rw [ledger])
  | formed list _ unformed =>
      rw [formed] at unformed
      cases unformed
  | stepped exchange context list bodies pass met _ _ subset ledger =>
      rw [record?, ledger]
      simp only [prepared_ledger]
      cases rebuilt : context.rebuilt with
      | false => exact .inl (pass.bondAt_foldl_meet_of_ne met free)
      | true =>
          by_cases listed : key ∈ (list.encounters session.assembly).map Encounter.key
          · have same : (session.interaction.ledger.retain
                ((list.encounters session.assembly).map Encounter.key)).bondAt key =
                session.interaction.ledger.bondAt key := by
              rw [Ledger.bondAt, Ledger.getOrFresh, Ledger.get?_retain, if_pos listed]
              rfl
            left
            exact (pass.bondAt_foldl_meet_of_ne met (same ▸ free)).trans same
          · refine .inr ⟨rebuilt, ?_, ?_⟩
            · intro evaluated
              rcases evaluated with ⟨encounter, member, same⟩
              exact listed (List.mem_map.mpr ⟨encounter, member, same⟩)
            · have unmet : key ∉ met.map Encounter.key := by
                intro named
                exact listed (List.map_subset Encounter.key subset named)
              rw [pass.get?_foldl_meet_of_not_mem unmet, if_pos rfl, Ledger.get?_retain,
                if_neg listed]
              cases known : session.interaction.ledger.get? key with
              | none => rfl
              | some record =>
                  rw [Ledger.bondAt, Ledger.getOrFresh_of_get? known] at free
                  have whole := mt record.isCohesive_iff.mp free
                  simp [whole]

/-! ## Runs -/

/-- Bonding finds no records. -/
theorem ledger_of_formBonds {interaction : Interaction Float}
    (constructed : interaction.Constructed) (assembly : Assembly Float) (exchange : σ)
    (actions : List (Action σ Float)) {list : NeighborList} {report : BondingReport}
    (accepted : ((Session.run ⟨interaction, assembly, exchange⟩ actions).formBonds list).1 =
      .ok report) :
    (Session.run ⟨interaction, assembly, exchange⟩ actions).interaction.ledger = .empty := by
  rcases constructed.eq_start with ⟨material, table, rfl⟩
  have pristine := pristine_run material table assembly exchange actions
  let session := Session.run ⟨.start material table, assembly, exchange⟩ actions
  rcases session.formBonds_cases list with ⟨fault, refused⟩ | ⟨unformed, -, -⟩
  · rw [refused] at accepted
    cases accepted
  · exact (pristine unformed).2.1

/-- No bond is broken when the bonds of a run are formed on no records. -/
theorem inState_formBonds {session : Session σ α} {list : NeighborList} {report : BondingReport}
    (empty : session.interaction.ledger = .empty)
    (accepted : (session.formBonds list).1 = .ok report) {state : BondState}
    (broke : state.isBroken = true) :
    (session.formBonds list).2.interaction.ledger.inState state = 0 := by
  rcases session.formBonds_cases list with ⟨fault, refused⟩ | ⟨-, -, formed⟩
  · rw [refused] at accepted
    cases accepted
  · rw [formed]
    apply Nat.eq_zero_of_le_zero
    refine (session.interaction.material.inState_foldl_bond _ _ broke).trans ?_
    rw [empty]
    rfl

/-- The breaks of a run are accounted for.  However an interaction is
constructed and driven, once its bonds are formed, whatever follows: the breaks
that the totals count and those of the records that were removed are together
the failures that all steps have reported, torn and sheared off apart.  An action
leaves a broken bond in its state, unless it is a step on a new list that does
not name the pair, which removes the record; and an action that removes no such
record lets neither total decrease. -/
theorem breaks_run {interaction : Interaction Float} (constructed : interaction.Constructed)
    (assembly : Assembly Float) (exchange : σ) (actions : List (Action σ Float)) :
    let session := Session.run ⟨interaction, assembly, exchange⟩ actions
    ∀ list report, (session.formBonds list).1 = .ok report → ∀ later,
      let start := (session.formBonds list).2
      let before := start.run later
      before.interaction.ledger.tensileBreaks + start.forgotten .brokenTensile later =
          broken .brokenTensile (start.replies later) ∧
      before.interaction.ledger.shearBreaks + start.forgotten .brokenShear later =
          broken .brokenShear (start.replies later) ∧
      ∀ action,
        let after := (before.perform action).2
        (∀ key, (before.interaction.ledger.bondAt key).isBroken = true →
          after.interaction.ledger.bondAt key = before.interaction.ledger.bondAt key ∨
            action.isRebuild = true ∧ ¬action.Evaluates before.assembly key ∧
              after.record? key = none) ∧
        ((∀ key, (before.interaction.ledger.bondAt key).isBroken = true →
            (after.record? key).isSome = true) →
          before.interaction.ledger.tensileBreaks ≤ after.interaction.ledger.tensileBreaks ∧
            before.interaction.ledger.shearBreaks ≤ after.interaction.ledger.shearBreaks) := by
  intro session list report accepted later start before
  have empty : session.interaction.ledger = .empty :=
    ledger_of_formBonds constructed assembly exchange actions accepted
  have formedFirst : start.interaction.bondsFormed = true := bondsFormed_of_formBonds accepted
  have formed : before.interaction.bondsFormed = true := bondsFormed_run formedFirst later
  have startSound : start.interaction.ledger.Sound :=
    (session.perform_ledgerChange (.formBonds list)).sound (empty ▸ .empty)
  have sound : before.interaction.ledger.Sound := sound_run startSound later
  have balance : ∀ state : BondState, state.isBroken = true →
      before.interaction.ledger.breaks state + start.forgotten state later =
        broken state (start.replies later) := by
    intro state broke
    have whole : start.interaction.ledger.inState state = 0 :=
      inState_formBonds empty accepted broke
    rw [sound.breaks_eq broke, breaks_balance formedFirst later broke, whole, Nat.zero_add]
  refine ⟨balance .brokenTensile rfl, balance .brokenShear rfl, fun action =>
    ⟨fun key broke => ?_, fun kept => ?_⟩⟩
  · exact before.bondAt_perform action formed broke
  · have afterSound := (before.perform_ledgerChange action).sound sound
    have grows : ∀ state : BondState, state.isBroken = true →
        before.interaction.ledger.breaks state ≤
          (before.perform action).2.interaction.ledger.breaks state := by
      intro state broke
      have here := before.breaks_perform action formed broke
      have none : before.removedBy state action = 0 := by
        apply Ledger.removed_eq_zero
        intro key record present bond
        apply kept
        rw [Ledger.bondAt, Ledger.getOrFresh_of_get? present, bond, broke]
      rw [sound.breaks_eq broke, afterSound.breaks_eq broke]
      omega
    exact ⟨grows .brokenTensile rfl, grows .brokenShear rfl⟩

/-- The bond of the spheres that are pulled apart is counted, and stays so in a
step on the same list; a step on a list without them removes its record. -/
theorem breaks_run_pullingApart :
    let session := Session.run ⟨.start .standard (.empty 1), touchingSpheres, ()⟩ settingUp
    let start := (session.formBonds (.ofPairs [(0, 1)])).2
    let before := start.run pullingApart
    let next : StepContext Float := (StepContext.first 0.001).next
    let again : Action Unit Float := .step .serial next (.ofPairs [(0, 1)]) none
    let without : Action Unit Float := .step .serial next.withRebuild .empty none
    before.interaction.ledger.tensileBreaks +
        start.forgotten .brokenTensile pullingApart = 1 ∧
      before.interaction.ledger.tensileBreaks ≤
        (before.perform again).2.interaction.ledger.tensileBreaks ∧
      (before.perform without).2.record? ⟨⟨1⟩, ⟨2⟩⟩ = none := by
  intro session start before next again without
  have accepted : (session.formBonds (.ofPairs [(0, 1)])).1 = .ok ⟨1, 0⟩ :=
    eq_ok_of_toOption (by decide +kernel)
  obtain ⟨tensile, -, rest⟩ := breaks_run constructed_standard touchingSpheres () settingUp
    (.ofPairs [(0, 1)]) ⟨1, 0⟩ accepted pullingApart
  have reported : broken .brokenTensile (start.replies pullingApart) = 1 := by decide +kernel
  have torn : (before.interaction.ledger.bondAt ⟨⟨1⟩, ⟨2⟩⟩).isBroken = true := by
    decide +kernel
  have gone : ((before.perform without).2.interaction.ledger.bondAt
      ⟨⟨1⟩, ⟨2⟩⟩).isBroken = false := by decide +kernel
  dsimp only [before, start, session] at reported torn gone ⊢
  refine ⟨tensile.trans reported, ?_, ?_⟩
  · obtain ⟨stays, grows⟩ := rest again
    refine (grows fun key broke => ?_).1
    -- On the same list no record of a broken bond is removed.
    rcases stays key broke with same | ⟨rebuilt, -⟩
    · apply Ledger.isSome_get?_of_bondAt_ne
      rw [same]
      intro whole
      rw [whole] at broke
      cases broke
    · cases rebuilt
  · obtain ⟨stays, -⟩ := rest without
    rcases stays ⟨⟨1⟩, ⟨2⟩⟩ torn with same | ⟨-, -, removed⟩
    · rw [same, torn] at gone
      cases gone
    · exact removed

/-- The torn pair has left the list of the next step. -/
def pullingAway : List (Action Unit Float) :=
  pullingApart ++ [.step .serial (.first 0.001) .empty none]

/-- The totals alone do not account for the breaks of a run: the tensile total
falls back to zero in a step that is computed, and the pair whose bond tore is
then one that was never bonded. -/
theorem not_breaks_pullingAway :
    let session := Session.run ⟨.start .standard (.empty 1), touchingSpheres, ()⟩ settingUp
    let start := (session.formBonds (.ofPairs [(0, 1)])).2
    let before := start.run pullingApart
    let after := start.run pullingAway
    start.Accepts pullingAway ∧
      broken .brokenTensile (start.replies pullingAway) = 1 ∧
      before.interaction.ledger.tensileBreaks = 1 ∧ after.interaction.ledger.tensileBreaks = 0 ∧
      before.interaction.ledger.bondAt ⟨⟨1⟩, ⟨2⟩⟩ = .brokenTensile ∧
      after.interaction.ledger.bondAt ⟨⟨1⟩, ⟨2⟩⟩ = .neverBonded := by
  intro session start before after
  have accepts : start.Accepts pullingAway :=
    ⟨by decide +kernel, by decide +kernel, by decide +kernel, trivial⟩
  exact ⟨accepts, by decide +kernel, by decide +kernel, by decide +kernel, by decide +kernel,
    by decide +kernel⟩

end GranularBonds.Session

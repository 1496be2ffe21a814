import GranularBonds.Proofs.Session.Touching

/-!
# Pruning on a new list

A step that announces its neighbor list as new forgets the pairs that are not on
it, except for their bonds.  Main statement: the pairs that are on the list do not
notice.  Without body masses the step is answered as if the list was not announced,
the particles are under the same loads, and every listed pair has the same record;
of every other pair there is left what it had of a bond, and pruning again leaves
all of it.
-/

namespace GranularBonds

variable {α : Type} [Scalar α]

/-- Pruning twice is pruning once. -/
theorem Ledger.retain_retain (ledger : Ledger α) (listed : List PairKey) :
    (ledger.retain listed).retain listed = ledger.retain listed := by
  apply Ledger.ext_get?
  intro key
  rw [get?_retain]
  split
  case isTrue => rfl
  case isFalse unlisted =>
      rw [get?_retain, if_neg unlisted]
      cases ledger.get? key with
      | none => rfl
      | some record =>
          have bond : record.apart.isCohesive = record.isCohesive := rfl
          have apart : record.apart.apart = record.apart := rfl
          cases cohesive : record.isCohesive <;> simp [cohesive, bond, apart]

/-- What pruning leaves of a pair that is not listed: a bonded one keeps all but its
contact and its displacement. -/
theorem Ledger.get?_retain_eq_some_iff {ledger : Ledger α} {listed : List PairKey} {key : PairKey}
    (unlisted : key ∉ listed) {record : ContactRecord α} :
    (ledger.retain listed).get? key = some record ↔
      ∃ before, ledger.get? key = some before ∧ before.bond = .bonded ∧
        record = { before with touching := false, shear := 0 } := by
  rw [get?_retain, if_neg unlisted, Option.bind_eq_some_iff]
  apply exists_congr
  intro before
  rw [Option.ite_none_right_eq_some, ContactRecord.isCohesive_iff, Option.some.injEq,
    eq_comm (b := record)]
  rfl

/-! ## Passes on the listed pairs -/

/-- Two states of a pass that differ at most in records of other pairs than
given ones. -/
structure PassState.SameOn (keys : List PairKey) (left right : PassState α) : Prop where
  assembly : left.assembly = right.assembly
  report : left.report = right.report
  records : ∀ key ∈ keys, left.ledger.get? key = right.ledger.get? key

namespace PassContext

variable (context : PassContext α) {keys : List PairKey} {left right : PassState α}

theorem meet_sameOn (same : left.SameOn keys right) {encounter : Encounter α}
    (listed : encounter.key ∈ keys) :
    (context.meet left encounter).SameOn keys (context.meet right encounter) := by
  have record : left.ledger.getOrFresh encounter.key = right.ledger.getOrFresh encounter.key := by
    rw [Ledger.getOrFresh, Ledger.getOrFresh, same.records _ listed]
  constructor
  · simp only [meet, same.assembly, record]
  · simp only [meet, same.report, record]
  · intro key member
    simp only [meet, Ledger.get?_insert, record]
    split
    · rfl
    · exact same.records key member

/-- A pass reads no other record than those of the pairs that it meets. -/
theorem foldl_meet_sameOn (same : left.SameOn keys right) {encounters : List (Encounter α)}
    (listed : ∀ encounter ∈ encounters, encounter.key ∈ keys) :
    (encounters.foldl context.meet left).SameOn keys (encounters.foldl context.meet right) := by
  induction encounters generalizing left right with
  | nil => exact same
  | cons encounter later ih =>
      have here := (List.forall_mem_cons.mp listed).1
      have listed := (List.forall_mem_cons.mp listed).2
      exact ih (context.meet_sameOn same here) listed

end PassContext

namespace Session

variable {σ : Type} (exchange : Exchange σ α) (session : Session σ α) {context : StepContext α}
  {list : NeighborList} (bodies : Option (BodyMasses α))

/-- A step leaves pairs that are not listed as its preparation does. -/
theorem record?_step_of_unlisted {timestep : α}
    (checked : session.checkStep context = .ok timestep)
    (passes : list.check session.assembly = .ok ()) {key : PairKey}
    (unlisted : key ∉ (list.encounters session.assembly).map Encounter.key) :
    (session.step exchange context list bodies).2.record? key =
      (session.prepared exchange context list bodies).record? key := by
  by_cases fits : list.Fits session.assembly
  · rw [session.step_of_fits exchange bodies checked fits]
    apply record?_advanced_of_unlisted
    rwa [prepared_assembly]
  · rw [session.step_of_not_fits exchange bodies checked passes fits]

variable {session}

/-- Without body masses a new list changes nothing of what a pass works with. -/
theorem passContext_prepared (inactive : session.interaction.usesBodies = false) (timestep : α) :
    (session.prepared exchange context list none).passContext timestep =
      session.passContext timestep := by
  unfold prepared
  split
  · simp [passContext, refreshBodies, withLedger, Interaction.activeBodies, inactive]
  · rfl

theorem record?_prepared_of_listed {key : PairKey}
    (listed : key ∈ (list.encounters session.assembly).map Encounter.key) :
    (session.prepared exchange context list bodies).record? key = session.record? key := by
  rw [record?, prepared_ledger, record?]
  split
  · rw [Ledger.get?_retain, if_pos listed]
  · rfl

variable (context list)

/-- Without body masses the pass of a step is the one without a preparation, as
far as the listed pairs are concerned. -/
theorem passed_prepared_sameOn (inactive : session.interaction.usesBodies = false) (timestep : α) :
    ((session.prepared exchange context list none).passed list timestep).SameOn
      ((list.encounters session.assembly).map Encounter.key) (session.passed list timestep) := by
  simp only [passed, prepared_assembly, passContext_prepared exchange inactive]
  apply PassContext.foldl_meet_sameOn
  · exact ⟨rfl, rfl, fun key listed => record?_prepared_of_listed exchange none listed⟩
  · intro encounter member
    exact List.mem_map_of_mem member

/-- Two results of a step that differ at most in records of other pairs than
given ones. -/
structure SameOn (keys : List PairKey)
    (left right : Except (Fault α) PassReport × Session σ α) : Prop where
  answer : left.1 = right.1
  assembly : left.2.assembly = right.2.assembly
  records : ∀ key ∈ keys, left.2.record? key = right.2.record? key

variable {list}

/-- Whether a list is announced as new makes no difference to the pairs on it. -/
theorem step_sameOn (inactive : session.interaction.usesBodies = false)
    (passes : list.check session.assembly = .ok ()) :
    SameOn ((list.encounters session.assembly).map Encounter.key)
      (session.step exchange context.withRebuild list none)
      (session.step exchange { context with rebuilt := false } list none) := by
  have alike : session.checkStep context.withRebuild =
      session.checkStep { context with rebuilt := false } := rfl
  cases checked : session.checkStep { context with rebuilt := false } with
  | error fault =>
      simp only [step, alike, checked]
      exact ⟨rfl, rfl, fun _ _ => rfl⟩
  | ok timestep =>
      rw [checked] at alike
      by_cases fits : list.Fits session.assembly
      · rw [session.step_of_fits exchange none alike fits,
          session.step_of_fits exchange none checked fits]
        have same := passed_prepared_sameOn exchange context.withRebuild list inactive timestep
        exact ⟨congrArg Except.ok same.report, same.assembly, same.records⟩
      · rw [session.step_of_not_fits exchange none alike passes fits,
          session.step_of_not_fits exchange none checked passes fits]
        refine ⟨rfl, prepared_assembly .., fun key listed => ?_⟩
        exact record?_prepared_of_listed exchange none listed

/-- Pruning twice with the same list leaves the session that pruning once
leaves, with the same answer. -/
theorem prune_prune (session : Session σ α) (list : NeighborList) :
    (session.prune list).2.prune list = session.prune list := by
  cases named : list.keys session.assembly with
  | error fault => simp only [prune, named]
  | ok keys => simp [prune, named, withLedger, Ledger.retain_retain]

/-- Pruning is transparent to the listed pairs and loses no bond.  In a session
without body masses and for a list with all of its pairs there, a step that
announces the list as new is answered like a step that does not, be it by the same
report or by the same fault; it leaves the same particles under the same loads, and
the same record of every listed pair.  If the step may be computed now, it is
answered by a report for every list that fits, the records of the pairs that are not
listed stay as they are without the announcement, and with it exactly the bonded
ones are left, with all that they had but their contact and their displacement.
Pruning twice with the same list is the same as pruning once. -/
theorem withRebuild_transparent {σ α : Type} [Scalar α] :
    (∀ (exchange : Exchange σ α) {session : Session σ α} (context : StepContext α)
        {list : NeighborList},
      session.interaction.usesBodies = false → list.check session.assembly = .ok () →
        ∃ keys, list.keys session.assembly = .ok keys ∧
          let kept := session.step exchange { context with rebuilt := false } list none
          let rebuilt := session.step exchange context.withRebuild list none
          rebuilt.1 = kept.1 ∧ rebuilt.2.assembly = kept.2.assembly ∧
            (∀ key ∈ keys, rebuilt.2.record? key = kept.2.record? key) ∧
            ∀ timestep, session.checkStep context = .ok timestep →
              (list.Fits session.assembly → ∃ report, kept.1 = .ok report) ∧
                ∀ key ∉ keys, kept.2.record? key = session.record? key ∧
                  ∀ record, rebuilt.2.record? key = some record ↔
                    ∃ before, session.record? key = some before ∧ before.bond = .bonded ∧
                      record = { before with touching := false, shear := 0 }) ∧
      ∀ (session : Session σ α) (list : NeighborList),
        (session.prune list).2.prune list = session.prune list := by
  refine ⟨?_, prune_prune⟩
  intro exchange session context list inactive passes
  have same := step_sameOn exchange context inactive passes
  refine ⟨_, list.keys_of_check passes, same.answer, same.assembly, same.records, ?_⟩
  intro timestep checked
  have keptChecked : session.checkStep { context with rebuilt := false } = .ok timestep := checked
  have rebuiltChecked : session.checkStep context.withRebuild = .ok timestep := checked
  constructor
  · intro fits
    rw [session.step_of_fits exchange none keptChecked fits]
    exact ⟨_, rfl⟩
  · intro key unlisted
    rw [session.record?_step_of_unlisted exchange none keptChecked passes unlisted,
      session.record?_step_of_unlisted exchange none rebuiltChecked passes unlisted]
    refine ⟨rfl, fun record => ?_⟩
    rw [record?, prepared_ledger]
    exact Ledger.get?_retain_eq_some_iff unlisted

/-- The first two of three spheres bond, and the first step has the last two in
contact too. -/
def partlyBondedStep : List (Action Unit Float) :=
  settingUp ++ [.formBonds (.ofPairs [(0, 1)]),
    .step .serial (.first 0.001) (.ofPairs [(0, 1), (1, 2)]) none]

/-- When the outer pair alone is on the next list, the step goes the same whether
the list is announced or not.  The bonded pair is remembered either way, and the
other one is forgotten if it is. -/
theorem withRebuild_transparent_threeSpheres :
    let session := Session.run ⟨.start .standard (.empty 1), threeSpheres, ()⟩ partlyBondedStep
    let next : StepContext Float := (StepContext.first 0.001).next
    let kept := session.step .serial next (.ofPairs [(0, 2)]) none
    let rebuilt := session.step .serial next.withRebuild (.ofPairs [(0, 2)]) none
    rebuilt.1 = kept.1 ∧ rebuilt.2.assembly = kept.2.assembly ∧
      rebuilt.2.record? ⟨⟨1⟩, ⟨3⟩⟩ = kept.2.record? ⟨⟨1⟩, ⟨3⟩⟩ ∧
      (∃ record, rebuilt.2.record? ⟨⟨1⟩, ⟨2⟩⟩ = some record) ∧
      (∃ record, kept.2.record? ⟨⟨2⟩, ⟨3⟩⟩ = some record) ∧
      ∀ record, rebuilt.2.record? ⟨⟨2⟩, ⟨3⟩⟩ ≠ some record := by
  intro session next kept rebuilt
  have inactive : session.interaction.usesBodies = false := by decide +kernel
  have passes : (NeighborList.ofPairs [(0, 2)]).check session.assembly = .ok () :=
    eq_ok_of_toOption (by decide +kernel)
  have named : (NeighborList.ofPairs [(0, 2)]).keys session.assembly = .ok [⟨⟨1⟩, ⟨3⟩⟩] :=
    eq_ok_of_toOption (by decide +kernel)
  have checked : session.checkStep next = .ok 0.001 := eq_ok_of_toOption (by decide +kernel)
  have bonded : (session.record? ⟨⟨1⟩, ⟨2⟩⟩).any (fun record => record.bond == .bonded) = true := by
    decide +kernel
  have loose : (session.record? ⟨⟨2⟩, ⟨3⟩⟩).any (fun record => record.bond == .neverBonded) =
      true := by
    decide +kernel
  rcases (Option.any_eq_true _ _).mp bonded with ⟨held, present, bond⟩
  rcases (Option.any_eq_true _ _).mp loose with ⟨free, known, unbonded⟩
  rcases withRebuild_transparent.1 .serial next inactive passes with
    ⟨keys, same, answer, assembly, listed, others⟩
  have only : keys = [⟨⟨1⟩, ⟨3⟩⟩] := Except.ok.inj (same.symm.trans named)
  subst only
  clear_value session
  obtain ⟨-, others⟩ := others _ checked
  obtain ⟨-, left⟩ := others ⟨⟨1⟩, ⟨2⟩⟩ (by decide)
  obtain ⟨stays, forgotten⟩ := others ⟨⟨2⟩, ⟨3⟩⟩ (by decide)
  refine ⟨answer, assembly, listed _ List.mem_cons_self,
    ⟨_, (left _).mpr ⟨held, present, eq_of_beq bond, rfl⟩⟩, ⟨free, stays.trans known⟩, ?_⟩
  intro record remembered
  rcases (forgotten record).mp remembered with ⟨before, found, holds, -⟩
  cases found.symm.trans known
  rw [holds] at unbonded
  cases unbonded

end Session

end GranularBonds

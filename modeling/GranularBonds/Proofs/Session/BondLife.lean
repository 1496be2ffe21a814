import GranularBonds.Proofs.Session.Run

/-!
# The life of bonds in a run

Whatever a simulation does to a session, the records of its ledger stay sound,
and once the bonds of the run are formed every further action only continues
them: none is formed, none is lost, and one breaks only when its pair is
evaluated.
-/

namespace GranularBonds

namespace Interaction

theorem eq_start_of_create {α : Type} [Scalar α] {material : Material α} {kinds : UInt64}
    {interaction : Interaction α} (made : create material kinds = .ok interaction) :
    interaction = start material (.empty kinds) := by
  rcases bind_eq_ok_iff.mp made with ⟨_, -, rest⟩
  split at rest
  · cases rest
  · exact (Except.ok.inj rest).symm

theorem eq_start_of_ofCheckpoint {checkpoint : Checkpoint} {interaction : Interaction Float}
    (made : ofCheckpoint checkpoint = .ok interaction) :
    interaction = start checkpoint.material checkpoint.table := by
  rcases bind_eq_ok_iff.mp made with ⟨_, -, rest⟩
  rcases bind_eq_ok_iff.mp rest with ⟨empty, made, rest⟩
  rw [← Except.ok.inj rest, eq_start_of_create made]
  rfl

/-- However an interaction is constructed, it has no records and no bonds
yet. -/
theorem Constructed.eq_start {interaction : Interaction Float}
    (constructed : interaction.Constructed) :
    ∃ material table, interaction = start material table := by
  cases constructed with
  | created made => exact ⟨_, _, eq_start_of_create made⟩
  | ofSettings made =>
      rcases bind_eq_ok_iff.mp made with ⟨material, -, made⟩
      exact ⟨_, _, eq_start_of_create made⟩
  | ofCheckpoint made => exact ⟨_, _, eq_start_of_ofCheckpoint made⟩
  | readCheckpoint made =>
      rcases bind_eq_ok_iff.mp made with ⟨checkpoint, -, made⟩
      exact ⟨_, _, eq_start_of_ofCheckpoint made⟩

end Interaction

namespace Session

variable {σ α : Type} [Scalar α]

/-- Whether an action evaluates a pair of the particles that it finds. -/
def Action.Evaluates (assembly : Assembly α) (key : PairKey) : Action σ α → Prop
  | .step _ _ list _ => ∃ encounter ∈ list.encounters assembly, encounter.key = key
  | _ => False

namespace LedgerChange

variable {session after : Session σ α} {action : Action σ α}

/-- Every change keeps the records sound. -/
theorem sound (change : session.LedgerChange action after)
    (before : session.interaction.ledger.Sound) : after.interaction.ledger.Sound := by
  cases change with
  | kept _ _ ledger => exact ledger ▸ before
  | formed list _ _ ledger =>
      rw [ledger]
      exact .foldl_bond session.interaction.material before _
  | stepped exchange context list bodies pass met _ _ _ ledger =>
      rw [ledger]
      apply Ledger.Sound.foldl_meet
      rw [prepared_ledger]
      split
      · exact before.retain _
      · exact before

/-- Bonds once formed stay formed. -/
theorem bondsFormed (change : session.LedgerChange action after)
    (before : session.interaction.bondsFormed = true) :
    after.interaction.bondsFormed = true := by
  cases change with
  | kept _ _ _ formed => exact formed.trans before
  | formed _ _ _ _ formed => exact formed
  | stepped _ _ _ _ _ _ _ _ _ _ formed => exact formed

/-- Once the bonds are formed, every action continues what is known about every
pair. -/
theorem succession (change : session.LedgerChange action after)
    (formed : session.interaction.bondsFormed = true) (key : PairKey) :
    ContactRecord.Succession (session.record? key) (after.record? key) := by
  cases change with
  | kept _ _ ledger =>
      unfold record?
      rw [ledger]
      exact .refl _
  | formed _ _ unformed =>
      rw [formed] at unformed
      cases unformed
  | stepped exchange context list bodies pass met _ _ subset ledger =>
      unfold record?
      rw [ledger, prepared_ledger]
      split
      case isFalse => exact Ledger.foldl_meet_succession pass met ⟨_, _, _⟩ key
      case isTrue =>
        by_cases listed : key ∈ (list.encounters session.assembly).map Encounter.key
        · have unpruned : (session.interaction.ledger.retain
              ((list.encounters session.assembly).map Encounter.key)).get? key =
              session.interaction.ledger.get? key := by
            rw [Ledger.get?_retain, if_pos listed]
          rw [← unpruned]
          exact Ledger.foldl_meet_succession pass met ⟨_, _, _⟩ key
        · rw [Ledger.get?_foldl_meet_of_unlisted pass]
          · exact Ledger.retain_succession _ listed
          · intro encounter member same
            exact listed (List.mem_map.mpr ⟨encounter, subset member, same⟩)

/-- Once the bonds are formed, a bond whose pair is not evaluated stays as it
is. -/
theorem keepsBond (change : session.LedgerChange action after)
    (formed : session.interaction.bondsFormed = true) {key : PairKey}
    (unvisited : ¬action.Evaluates session.assembly key) {record : ContactRecord α}
    (present : session.record? key = some record) (cohesive : record.isCohesive = true) :
    ∃ kept, after.record? key = some kept ∧ record.KeepsBond kept := by
  unfold record? at present ⊢
  cases change with
  | kept _ _ ledger => exact ⟨record, ledger ▸ present, rfl, rfl, rfl⟩
  | formed _ _ unformed =>
      rw [formed] at unformed
      cases unformed
  | stepped exchange context list bodies pass met _ _ subset ledger =>
      have unlisted : key ∉ (list.encounters session.assembly).map Encounter.key := by
        intro listed
        rcases List.mem_map.mp listed with ⟨encounter, member, same⟩
        exact unvisited ⟨encounter, member, same⟩
      have unmet : ∀ encounter ∈ met, encounter.key ≠ key := by
        intro encounter member same
        exact unvisited ⟨encounter, subset member, same⟩
      rw [ledger, Ledger.get?_foldl_meet_of_unlisted pass unmet, prepared_ledger]
      split
      case isFalse => exact ⟨record, present, rfl, rfl, rfl⟩
      case isTrue =>
        refine ⟨record.apart, ?_, rfl, rfl, rfl⟩
        simp [Ledger.get?_retain, unlisted, present, cohesive]

end LedgerChange

/-! ## Runs -/

/-- A run keeps the records sound. -/
theorem sound_run {session : Session σ α} (initially : session.interaction.ledger.Sound)
    (actions : List (Action σ α)) : (session.run actions).interaction.ledger.Sound :=
  run_induction (fun session => session.interaction.ledger.Sound)
    (fun session action before => (session.perform_ledgerChange action).sound before)
    initially actions

theorem bondsFormed_run {session : Session σ α}
    (initially : session.interaction.bondsFormed = true) (actions : List (Action σ α)) :
    (session.run actions).interaction.bondsFormed = true :=
  run_induction (fun session => session.interaction.bondsFormed = true)
    (fun session action before => (session.perform_ledgerChange action).bondsFormed before)
    initially actions

/-- A bond that holds at some point of a run after bonding held at every
earlier one, with the same gap and limit. -/
theorem bonded_before {session : Session σ α} (formed : session.interaction.bondsFormed = true)
    (actions : List (Action σ α)) {key : PairKey} {record : ContactRecord α}
    (present : (session.run actions).record? key = some record)
    (cohesive : record.isCohesive = true) :
    ∃ before, session.record? key = some before ∧ before.isCohesive = true ∧
      record.initialGap = before.initialGap ∧ record.tensileLimit = before.tensileLimit := by
  induction actions generalizing session with
  | nil => exact ⟨record, present, cohesive, rfl, rfl⟩
  | cons action later ih =>
      have change := session.perform_ledgerChange action
      rcases ih (change.bondsFormed formed) present with ⟨between, here, holds, gap, limit⟩
      have step := change.succession formed key
      rw [here] at step
      rcases step.of_isCohesive holds with ⟨before, there, held, firstGap, firstLimit⟩
      exact ⟨before, there, held, gap.trans firstGap, limit.trans firstLimit⟩

theorem bondsFormed_of_formBonds {session : Session σ α} {list : NeighborList}
    {report : BondingReport} (accepted : (session.formBonds list).1 = .ok report) :
    (session.formBonds list).2.interaction.bondsFormed = true := by
  rcases session.formBonds_cases list with ⟨fault, refused⟩ | ⟨-, -, formed⟩
  · rw [refused] at accepted
    cases accepted
  · rw [formed]

/-- The bonds of a run.  However an interaction is constructed and driven, all
its records are sound.  Once bonds have been formed, a bond that holds held at
every earlier point with the same gap and limit; an action continues what is
known about every pair, so that a bond can only break and no record of a
bonded pair is lost; and it leaves every bond as it is whose pair it does not
evaluate. -/
theorem bonds_run {interaction : Interaction Float} (constructed : interaction.Constructed)
    (assembly : Assembly Float) (exchange : σ) (actions : List (Action σ Float)) :
    let session := Session.run ⟨interaction, assembly, exchange⟩ actions
    session.interaction.ledger.Sound ∧
    ∀ list report, (session.formBonds list).1 = .ok report →
      ∀ earlier later action,
        let start := (session.formBonds list).2.run earlier
        let before := start.run later
        let after := (before.perform action).2
        ∀ key,
          (∀ record, before.record? key = some record → record.isCohesive = true →
            ∃ origin, start.record? key = some origin ∧ origin.isCohesive = true ∧
              record.initialGap = origin.initialGap ∧
              record.tensileLimit = origin.tensileLimit) ∧
          ContactRecord.Succession (before.record? key) (after.record? key) ∧
          (¬action.Evaluates before.assembly key →
            ∀ record, before.record? key = some record → record.isCohesive = true →
              ∃ kept, after.record? key = some kept ∧ record.KeepsBond kept) := by
  intro session
  constructor
  · rcases constructed.eq_start with ⟨material, table, rfl⟩
    exact sound_run .empty actions
  · intro list report accepted earlier later action start before after key
    have formedFirst : start.interaction.bondsFormed = true :=
      bondsFormed_run (bondsFormed_of_formBonds accepted) earlier
    have formed : before.interaction.bondsFormed = true := bondsFormed_run formedFirst later
    have change := before.perform_ledgerChange action
    refine ⟨?_, change.succession formed key, ?_⟩
    · intro record present cohesive
      exact bonded_before formedFirst later present cohesive
    · intro unvisited record present cohesive
      exact change.keepsBond formed unvisited present cohesive

/-- Two spheres that touch. -/
def touchingSpheres : Assembly Float :=
  .ofOwned [.atRest ⟨1⟩ 0 1 1, .atRest ⟨2⟩ ⟨1.5, 0, 0⟩ 1 1]

/-- The calls that make a session of one kind ready for them. -/
def settingUp : List (Action Unit Float) :=
  [.configure "*" "*", .setUp .serial (.ofTimestep 0.001)]

/-- An interaction of one kind, with the standard material. -/
theorem constructed_standard :
    (Interaction.start (.standard : Material Float) (.empty 1)).Constructed := by
  have made : Interaction.create (.standard : Material Float) 1 =
      .ok (.start .standard (.empty 1)) := rfl
  exact .created made

/-- The spheres bond, and a step on a new list without their pair leaves the
bond as it is. -/
theorem bonds_run_touchingSpheres :
    let session := Session.run ⟨.start .standard (.empty 1), touchingSpheres, ()⟩ settingUp
    let formed := (session.formBonds (.ofPairs [(0, 1)])).2
    let after := (formed.perform (.step .serial (.first 0.001) .empty none)).2
    ∃ record kept, formed.record? ⟨⟨1⟩, ⟨2⟩⟩ = some record ∧ record.isCohesive = true ∧
      after.record? ⟨⟨1⟩, ⟨2⟩⟩ = some kept ∧ record.KeepsBond kept := by
  intro session formed after
  have made : Interaction.create (.standard : Material Float) 1 =
      .ok (.start .standard (.empty 1)) := rfl
  obtain ⟨_, bonds⟩ := bonds_run (.created made) touchingSpheres () settingUp
  have accepted : (session.formBonds (.ofPairs [(0, 1)])).1.isOk = true := by decide +kernel
  have bonded : (formed.record? ⟨⟨1⟩, ⟨2⟩⟩).any ContactRecord.isCohesive = true := by
    decide +kernel
  rcases (Option.any_eq_true _ _).mp bonded with ⟨record, present, cohesive⟩
  cases answer : (session.formBonds (.ofPairs [(0, 1)])).1 with
  | error fault =>
      rw [answer] at accepted
      cases accepted
  | ok report =>
      obtain ⟨_, _, unvisited⟩ := bonds _ report answer [] []
        (.step .serial (.first 0.001) .empty none) ⟨⟨1⟩, ⟨2⟩⟩
      have unlisted : ¬Action.Evaluates formed.assembly ⟨⟨1⟩, ⟨2⟩⟩
          (.step .serial (.first 0.001) .empty none : Action Unit Float) := by
        intro evaluated
        rcases evaluated with ⟨_, member, _⟩
        cases member
      rcases unvisited unlisted record present cohesive with ⟨kept, left, keeps⟩
      exact ⟨record, kept, present, cohesive, left, keeps⟩

end Session

end GranularBonds

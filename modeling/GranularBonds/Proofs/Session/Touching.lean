import GranularBonds.Proofs.Contact.Touch
import GranularBonds.Proofs.Session.BondCount

/-!
# Contacts in a run

The ledger says of every pair whether it touches, and the report of a step
counts the pairs that it left in touch.  The two agree as long as no pair
outside the list of a step still touches.  Pruning sees to that when a new list
is announced; between two announcements the list has to name the same pairs, by
their tags, as the last step that was computed.
-/

namespace GranularBonds.Session

variable {σ α : Type} [Scalar α]

/-! ## Listings -/

/-- What a computed step worked on: the keys of its list, and whether the list
was announced as new. -/
structure Listing where
  keys : List PairKey
  rebuilt : Bool
  deriving DecidableEq

/-- A list that is not announced as new still names the pairs of the one
before. -/
def Listing.Continues (earlier later : Listing) : Prop :=
  later.rebuilt = true ∨ earlier.keys ⊆ later.keys

/-- What an action worked on, if it is a step that is computed. -/
def listing? (session : Session σ α) : Action σ α → Option Listing
  | .step exchange context list bodies =>
      match (session.step exchange context list bodies).1, list.keys session.assembly with
      | .ok _, .ok keys => some ⟨keys, context.rebuilt⟩
      | _, _ => none
  | _ => none

/-- What the computed steps of a run worked on, in their order. -/
def listings (session : Session σ α) : List (Action σ α) → List Listing
  | [] => []
  | action :: later =>
      (session.listing? action).toList ++ (session.perform action).2.listings later

/-- Every computed step but the first continues the one before it. -/
def Steady (session : Session σ α) (actions : List (Action σ α)) : Prop :=
  (session.listings actions).IsChain Listing.Continues

theorem listings_append (session : Session σ α) (earlier later : List (Action σ α)) :
    session.listings (earlier ++ later) =
      session.listings earlier ++ (session.run earlier).listings later := by
  induction earlier generalizing session with
  | nil => rfl
  | cons action rest ih =>
      rw [List.cons_append, listings, listings, ih, run_cons, List.append_assoc]

/-- A step is computed on the encounters of its list. -/
theorem listing?_of_advanced {exchange : Exchange σ α} {session : Session σ α}
    {context : StepContext α} {list : NeighborList} {bodies : Option (BodyMasses α)}
    {report : PassReport} (fits : list.Fits session.assembly)
    (accepted : (session.step exchange context list bodies).1 = .ok report) :
    session.listing? (.step exchange context list bodies) =
      some ⟨(list.encounters session.assembly).map Encounter.key, context.rebuilt⟩ := by
  simp only [listing?, accepted, list.keys_of_check fits.check]

theorem listing?_of_fault {exchange : Exchange σ α} {session : Session σ α}
    {context : StepContext α} {list : NeighborList} {bodies : Option (BodyMasses α)}
    {fault : Fault α} (failed : (session.step exchange context list bodies).1 = .error fault) :
    session.listing? (.step exchange context list bodies) = none := by
  simp only [listing?, failed]

/-- A pass leaves what is remembered of a pair that its list does not name. -/
theorem record?_advanced_of_unlisted (session : Session σ α) {list : NeighborList} (timestep : α)
    {key : PairKey} (unlisted : key ∉ (list.encounters session.assembly).map Encounter.key) :
    (session.advanced list timestep).record? key = session.record? key :=
  PassContext.get?_foldl_meet_of_not_mem _ unlisted _

/-! ## Touching pairs -/

/-- Only pairs that the last of these listings names touch. -/
def TouchesWithin (session : Session σ α) (past : List Listing) : Prop :=
  ∀ key, session.interaction.ledger.touchingAt key = true →
    ∃ listing, past.getLast? = some listing ∧ key ∈ listing.keys

namespace TouchesWithin

variable {session : Session σ α} {past : List Listing}

omit [Scalar α] in
theorem mono {after : Session σ α} (within : session.TouchesWithin past)
    (fewer : ∀ key, after.interaction.ledger.touchingAt key = true →
      session.interaction.ledger.touchingAt key = true) : after.TouchesWithin past :=
  fun key touches => within key (fewer key touches)

/-- The preparation of a step brings no pair into touch. -/
theorem prepared (within : session.TouchesWithin past) (exchange : Exchange σ α)
    (context : StepContext α) (list : NeighborList) (bodies : Option (BodyMasses α)) :
    (session.prepared exchange context list bodies).TouchesWithin past := by
  apply within.mono
  intro key touches
  rw [prepared_ledger] at touches
  split at touches
  · exact ((Ledger.touchingAt_retain ..).mp touches).2
  · exact touches

/-- A step that continues the last listing leaves no pair in touch but those of
its own. -/
theorem advanced (within : session.TouchesWithin past) (exchange : Exchange σ α)
    {context : StepContext α} {list : NeighborList} (bodies : Option (BodyMasses α))
    (timestep : α) {taken : Listing}
    (here : taken = ⟨(list.encounters session.assembly).map Encounter.key, context.rebuilt⟩)
    (steady : (past ++ [taken]).IsChain Listing.Continues) :
    ((session.prepared exchange context list bodies).advanced list timestep).TouchesWithin
      (past ++ [taken]) := by
  intro key touches
  refine ⟨taken, List.getLast?_concat, ?_⟩
  rw [here]
  by_contra unlisted
  have unmet : key ∉ (list.encounters
      (session.prepared exchange context list bodies).assembly).map Encounter.key := by
    rwa [prepared_assembly]
  have before : (session.prepared exchange context list bodies).interaction.ledger.touchingAt
      key = true := by
    rw [← touches]
    exact congrArg (Option.any _) (record?_advanced_of_unlisted _ timestep unmet).symm
  rw [prepared_ledger] at before
  split at before
  case isTrue => exact unlisted ((Ledger.touchingAt_retain ..).mp before).1
  case isFalse old =>
    rcases within key before with ⟨earlier, found, member⟩
    have continues := (List.isChain_append.mp steady).2.2 earlier found taken rfl
    rw [here] at continues
    rcases continues with rebuilt | subset
    · exact old rebuilt
    · exact unlisted (subset member)

theorem perform (within : session.TouchesWithin past) (action : Action σ α)
    (steady : (past ++ (session.listing? action).toList).IsChain Listing.Continues) :
    (session.perform action).2.TouchesWithin (past ++ (session.listing? action).toList) := by
  have idle : session.TouchesWithin (past ++ (none : Option Listing).toList) := by
    rwa [Option.toList_none, List.append_nil]
  cases action with
  | configure | announce | setUp | cutoff | resetTimestep | preview | place =>
      rw [TouchesWithin, session.perform_ledger_of_isIdle rfl]
      exact idle
  | formBonds list =>
      rcases session.formBonds_cases list with ⟨fault, refused⟩ | ⟨-, -, formed⟩
      · simp only [Session.perform, refused]
        exact idle
      · simp only [Session.perform, formed]
        exact idle.mono fun key => Material.touchingAt_foldl_bond _ _ _
  | step exchange context list bodies =>
      rcases session.step_cases exchange context list bodies with
        ⟨fault, refused⟩ | ⟨timestep, -, -, ⟨fault, stopped⟩ | ⟨fits, advanced⟩⟩
      · rw [listing?_of_fault (congrArg Prod.fst refused)]
        simp only [Session.perform, refused]
        exact idle
      · rw [listing?_of_fault (congrArg Prod.fst stopped)]
        simp only [Session.perform, stopped]
        exact idle.prepared exchange context list bodies
      · rw [listing?_of_advanced fits (congrArg Prod.fst advanced)] at steady ⊢
        simp only [Session.perform, advanced]
        exact within.advanced exchange bodies timestep rfl steady

/-- At any point of a steady run only pairs of the last computed step touch. -/
theorem run (within : session.TouchesWithin past) (actions : List (Action σ α))
    (steady : (past ++ session.listings actions).IsChain Listing.Continues) :
    (session.run actions).TouchesWithin (past ++ session.listings actions) := by
  induction actions generalizing session past with
  | nil => simpa [listings] using within
  | cons action later ih =>
      rw [listings, ← List.append_assoc] at steady ⊢
      exact ih (within.perform action (List.isChain_append.mp steady).1) steady

end TouchesWithin

/-! ## The counts of a step -/

/-- The pass of a prepared step, over the particles that the step finds. -/
theorem passed_prepared (exchange : Exchange σ α) (session : Session σ α)
    (context : StepContext α) (list : NeighborList) (bodies : Option (BodyMasses α))
    (timestep : α) :
    (session.prepared exchange context list bodies).passed list timestep =
      (list.encounters session.assembly).foldl
        ((session.prepared exchange context list bodies).passContext timestep).meet
        ⟨session.assembly,
          (session.prepared exchange context list bodies).interaction.ledger, .none⟩ := by
  rw [passed, prepared_assembly]

/-- After a step on a new list those pairs are remembered that it names, and
those that are bonded. -/
theorem isSome_record?_rebuilt (exchange : Exchange σ α) (session : Session σ α)
    {context : StepContext α} (list : NeighborList) (bodies : Option (BodyMasses α))
    (timestep : α) (rebuilt : context.rebuilt = true) (key : PairKey) :
    let after := (session.prepared exchange context list bodies).advanced list timestep
    (after.record? key).isSome = true ↔
      key ∈ (list.encounters session.assembly).map Encounter.key ∨
        after.interaction.ledger.bondAt key = .bonded := by
  intro after
  let ready := session.prepared exchange context list bodies
  let pass := ready.passContext timestep
  have left : after.interaction.ledger = ((list.encounters session.assembly).foldl pass.meet
      ⟨session.assembly, ready.interaction.ledger, .none⟩).ledger :=
    congrArg PassState.ledger (session.passed_prepared exchange context list bodies timestep)
  have pruned : ready.interaction.ledger = session.interaction.ledger.retain
      ((list.encounters session.assembly).map Encounter.key) := by
    rw [prepared_ledger, if_pos rebuilt]
  have remembered := pass.isSome_get?_foldl_meet (list.encounters session.assembly)
    ⟨session.assembly, ready.interaction.ledger, .none⟩ key
  rw [record?, left]
  constructor
  · intro present
    by_cases named : key ∈ (list.encounters session.assembly).map Encounter.key
    · exact .inl named
    · right
      have kept := (remembered.mp present).resolve_left named
      have bonded : ready.interaction.ledger.bondAt key = .bonded := by
        rw [pruned]
        exact Ledger.bondAt_retain_of_unlisted named (pruned ▸ kept)
      rwa [Ledger.bondAt, Ledger.getOrFresh, pass.get?_foldl_meet_of_not_mem named]
  · intro found
    rcases found with named | bonded
    · exact remembered.mpr (.inl named)
    · exact Ledger.isSome_get?_of_bondAt_ne (by rw [bonded]; decide)

/-- What the report of a computed step counts, and what the ledger remembers
after it. -/
theorem report_step (exchange : Exchange σ α) (session : Session σ α) {context : StepContext α}
    {list : NeighborList} {bodies : Option (BodyMasses α)} {report : PassReport}
    (accepted : (session.step exchange context list bodies).1 = .ok report) :
    let after := (session.step exchange context list bodies).2
    ∃ keys, list.keys session.assembly = .ok keys ∧
      session.listing? (.step exchange context list bodies) = some ⟨keys, context.rebuilt⟩ ∧
      report.visited = list.pairCount ∧ report.Consistent ∧
      (keys.Nodup → Exactly report.touching fun key =>
        key ∈ keys ∧ after.interaction.ledger.touchingAt key = true) ∧
      (context.rebuilt = true → ∀ key, (after.record? key).isSome = true ↔
        key ∈ keys ∨ after.interaction.ledger.bondAt key = .bonded) := by
  rcases session.step_cases exchange context list bodies with
    ⟨fault, refused⟩ | ⟨timestep, -, -, ⟨fault, stopped⟩ | ⟨fits, advanced⟩⟩
  · rw [refused] at accepted
    cases accepted
  · rw [stopped] at accepted
    cases accepted
  · have listing := listing?_of_advanced fits accepted
    rw [advanced] at accepted ⊢
    let pass := (session.prepared exchange context list bodies).passContext timestep
    let met := list.encounters session.assembly
    let state : PassState α := ⟨session.assembly,
      (session.prepared exchange context list bodies).interaction.ledger, .none⟩
    have passed := session.passed_prepared exchange context list bodies timestep
    have counted : (met.foldl pass.meet state).report = report :=
      passed ▸ Except.ok.inj accepted
    have start : state.report.Consistent := .none
    refine ⟨_, list.keys_of_check fits.check, listing, ?_, ?_, fun once => ?_,
      session.isSome_record?_rebuilt exchange list bodies timestep⟩
    · have visited := pass.visited_foldl_meet met state
      rw [counted, NeighborList.length_encounters fits.check] at visited
      exact visited.trans (Nat.zero_add _)
    · exact counted ▸ pass.consistent_foldl_meet met start
    · rcases pass.touching_foldl_meet once start with ⟨count, touching, exactly⟩
      rw [counted] at touching
      have total : report.touching = count := touching.trans (Nat.zero_add count)
      simp only [Session.advanced, withLedger, passed]
      exact total ▸ exactly

/-! ## Runs -/

/-- The counts of a step agree with the ledger.  However an interaction is
constructed and driven, a step that is computed reports as many visits as its
list has pairs; what it counts in contact, torn or coincident are different
pairs of these, what it counts as come apart was sheared off, and this in a
contact; and after a step on a list that was announced as new those pairs are
remembered that the list names and those that are bonded.  If the list names no
pair twice, and each computed step of the run but the first came with a list
announced as new or naming the pairs of the computed step before it, then the
pairs that touch are as many as the report leaves in touch. -/
theorem touching_run {interaction : Interaction Float} (constructed : interaction.Constructed)
    (assembly : Assembly Float) (transport : σ) (actions : List (Action σ Float)) :
    let start : Session σ Float := ⟨interaction, assembly, transport⟩
    let session := start.run actions
    ∀ exchange context list bodies report,
      (session.step exchange context list bodies).1 = .ok report →
      let after := (session.step exchange context list bodies).2
      ∃ keys, list.keys session.assembly = .ok keys ∧
        (keys.Nodup → start.Steady (actions ++ [.step exchange context list bodies]) →
          after.interaction.ledger.touchingCount =
            report.active - report.separated + report.coincident) ∧
        report.visited = list.pairCount ∧
        report.active + report.torn + report.coincident ≤ report.visited ∧
        report.separated ≤ report.sheared ∧ report.sheared ≤ report.active ∧
        (context.rebuilt = true → ∀ key, (after.record? key).isSome = true ↔
          key ∈ keys ∨ after.interaction.ledger.bondAt key = .bonded) := by
  intro start session exchange context list bodies report accepted after
  rcases session.report_step exchange accepted with
    ⟨keys, named, listing, visited, consistent, counted, remembered⟩
  refine ⟨keys, named, fun once steady => ?_, visited, consistent.visited, consistent.separated,
    consistent.sheared, remembered⟩
  let step : Action σ Float := .step exchange context list bodies
  have empty : start.TouchesWithin [] := by
    rcases constructed.eq_start with ⟨material, table, rfl⟩
    exact fun key touches => absurd touches (by simp [start, Ledger.touchingAt, Interaction.start])
  have within : (start.run (actions ++ [step])).TouchesWithin _ := empty.run _ steady
  have reached : start.run (actions ++ [step]) = after := start.run_append actions [step]
  have last : ([] ++ start.listings (actions ++ [step])).getLast? =
      some ⟨keys, context.rebuilt⟩ := by
    have single : session.listings [step] = [⟨keys, context.rebuilt⟩] := by
      rw [listings, listing]
      rfl
    rw [List.nil_append, listings_append, single, List.getLast?_concat]
  have inside : ∀ key, after.interaction.ledger.touchingAt key = true → key ∈ keys := by
    intro key touches
    rcases within key (reached ▸ touches) with ⟨taken, found, member⟩
    rw [last] at found
    rwa [← Option.some.inj found] at member
  have all := (counted once).congr fun key => (and_iff_right_of_imp (inside key)).symm
  exact after.interaction.ledger.exactly_touchingCount.unique all

/-- The touching spheres bond, and the first step follows. -/
def bondedStep : List (Action Unit Float) :=
  settingUp ++ [.formBonds (.ofPairs [(0, 1)])] ++
    [.step .serial (.first 0.001) (.ofPairs [(0, 1)]) none]

/-- The spheres touch, and are counted, in the step after it on the same list;
after one on a list without them their record is left by the bond alone. -/
theorem touching_run_touchingSpheres :
    let session := Session.run ⟨.start .standard (.empty 1), touchingSpheres, ()⟩ bondedStep
    let next : StepContext Float := (StepContext.first 0.001).next
    (session.step .serial next (.ofPairs [(0, 1)]) none).2.interaction.ledger.touchingCount = 1 ∧
      ((session.step .serial next.withRebuild .empty none).2.record? ⟨⟨1⟩, ⟨2⟩⟩).isSome = true := by
  intro session next
  have counts := touching_run constructed_standard touchingSpheres () bondedStep
  have listed : (NeighborList.ofPairs [(0, 1)]).keys session.assembly =
      .ok [⟨⟨1⟩, ⟨2⟩⟩] := eq_ok_of_toOption (by decide +kernel)
  have steady : Steady ⟨.start .standard (.empty 1), touchingSpheres, ()⟩
      (bondedStep ++ [.step .serial next (.ofPairs [(0, 1)]) none]) := by
    have taken : listings ⟨.start .standard (.empty 1), touchingSpheres, ()⟩
        (bondedStep ++ [.step .serial next (.ofPairs [(0, 1)]) none]) =
          [⟨[⟨⟨1⟩, ⟨2⟩⟩], true⟩, ⟨[⟨⟨1⟩, ⟨2⟩⟩], false⟩] := by
      decide +kernel
    rw [Steady, taken]
    exact List.isChain_pair.mpr (.inr (List.Subset.refl _))
  have reported : (session.step .serial next (.ofPairs [(0, 1)]) none).1 =
      .ok ⟨1, 1, 0, 0, 0, 0⟩ := eq_ok_of_toOption (by decide +kernel)
  have unlisted : (session.step .serial next.withRebuild .empty none).1 =
      .ok ⟨0, 0, 0, 0, 0, 0⟩ := eq_ok_of_toOption (by decide +kernel)
  have held : (session.step .serial next.withRebuild .empty none).2.interaction.ledger.bondAt
      ⟨⟨1⟩, ⟨2⟩⟩ = .bonded := by decide +kernel
  constructor
  · rcases counts .serial next (.ofPairs [(0, 1)]) none _ reported with ⟨keys, named, touching, -⟩
    have once : keys.Nodup := by
      rw [Except.ok.inj (named.symm.trans listed)]
      exact List.nodup_singleton _
    dsimp only [session]
    exact touching once steady
  · rcases counts .serial next.withRebuild .empty none _ unlisted with
      ⟨keys, -, -, -, -, -, -, remembered⟩
    dsimp only [session] at held ⊢
    exact (remembered rfl _).mpr (.inr held)

/-! ## Lists that are not announced -/

/-- The list that a step is given, be the step computed or refused, and whether
it is announced as new. -/
def Action.given? : Action σ α → Option (NeighborList × Bool)
  | .step _ context list _ => some (list, context.rebuilt)
  | _ => none

/-- Three spheres in a row, each in touch with the next. -/
def threeSpheres : Assembly Float :=
  .ofOwned [.atRest ⟨1⟩ 0 1 1, .atRest ⟨2⟩ ⟨1.5, 0, 0⟩ 1 1, .atRest ⟨3⟩ ⟨3, 0, 0⟩ 1 1]

/-- A first step on one pair, and no bond. -/
def unbondedStep : List (Action Unit Float) :=
  settingUp ++ [.formBonds .empty, .step .serial (.first 0.001) (.ofPairs [(0, 1)]) none]

/-- The step that announces the other pair is refused for its step length. -/
def announcedInVain : List (Action Unit Float) :=
  unbondedStep ++ [.step .serial (.first 0.002) (.ofPairs [(1, 2)]) none]

/-- The particles are others when the next step comes. -/
def exchanged : List (Action Unit Float) :=
  unbondedStep ++
    [.place (.ofOwned [.atRest ⟨3⟩ 0 1 1, .atRest ⟨4⟩ ⟨1.5, 0, 0⟩ 1 1]) ()]

/-- A last step on a list that is not announced leaves two pairs in touch where
its report has one, although the lists of the run, of one pair each, change only
when they are announced. -/
def Miscounts (assembly : Assembly Float) (actions : List (Action Unit Float))
    (list : NeighborList) : Prop :=
  let next : StepContext Float := (StepContext.first 0.001).next
  let last : Action Unit Float := .step .serial next list none
  let given := (actions ++ [last]).filterMap Action.given?
  let session := Session.run ⟨.start .standard (.empty 1), assembly, ()⟩ actions
  let step := session.step .serial next list none
  (given.IsChain fun earlier later => later.2 = true ∨ later.1 = earlier.1) ∧
    (∀ list ∈ given, list.1.pairCount = 1) ∧
    ∃ report, step.1 = .ok report ∧
      report.active - report.separated + report.coincident = 1 ∧
      step.2.interaction.ledger.touchingCount = 2

/-- Announcements of the lists alone do not make the counts agree: an
announcement that is refused prunes nothing, and the same list names other
pairs once the particles are others. -/
theorem not_touching_announced :
    Miscounts threeSpheres announcedInVain (.ofPairs [(1, 2)]) ∧
      Miscounts touchingSpheres exchanged (.ofPairs [(0, 1)]) := by
  constructor
  · exact ⟨by decide, by decide, ⟨1, 1, 0, 0, 0, 0⟩, eq_ok_of_toOption (by decide +kernel), rfl,
      by decide +kernel⟩
  · exact ⟨by decide, by decide, ⟨1, 1, 0, 0, 0, 0⟩, eq_ok_of_toOption (by decide +kernel), rfl,
      by decide +kernel⟩

end GranularBonds.Session

import Mathlib
import GranularBonds.Proofs.Contact.Preview
import GranularBonds.Proofs.Contact.Touch
import GranularBonds.Proofs.Session.Lifecycle

/-!
# Previews in a run

A preview looks at one pair before a step is computed, and the step comes to
this pair when others have changed loads and records already.  None of them
writes what the pair reads, as long as no pair is listed twice.  Main statement:
wherever a pair stands in the list, the step does with it what its preview said,
and the step reports as many failures as there are previews that announce a
break.
-/

namespace GranularBonds

namespace PassContext

section Visits

variable {α : Type} [Scalar α] (context : PassContext α)

/-- Visit pairs one after the other. -/
def visitAll (state : PassState α) (pairs : List (Nat × Nat)) : Except (Fault α) (PassState α) :=
  pairs.foldlM (fun state pair => context.visit pair.1 state pair.2) state

/-- Pairs that are there are visited without fault. -/
theorem visitAll_eq_ok {pairs : List (Nat × Nat)} {state : PassState α}
    (inside : ∀ pair ∈ pairs, pair.1 < state.assembly.size ∧ pair.2 < state.assembly.size) :
    context.visitAll state pairs =
      .ok ((pairs.filterMap (Encounter.at? state.assembly)).foldl context.meet state) := by
  induction pairs generalizing state with
  | nil => rfl
  | cons pair later ih =>
      have here := (List.forall_mem_cons.mp inside).1
      have rest := (List.forall_mem_cons.mp inside).2
      rcases Encounter.exists_at?_iff.mpr here with ⟨encounter, met⟩
      have visited : context.visit pair.1 state pair.2 = .ok (context.meet state encounter) :=
        context.visit_eq_ok_iff.mpr ⟨encounter, met, rfl⟩
      have next := @ih (context.meet state encounter) (by rwa [size_meet])
      rw [at?_meet] at next
      rw [visitAll, List.foldlM_cons, visited, List.filterMap_cons, met]
      exact next

/-- What the visit of one pair does is what a preview said of it: it adds the
force and the torques of the outcome that was announced, or nothing where the
outcome has none, it counts this outcome, it leaves the bond in the state that
was announced, and it fails the bond exactly when a break was announced. -/
structure Foretold (preview : Preview α) (first second : Nat) (key : PairKey)
    (reached left : PassState α) : Prop where
  visited : context.visit first reached second = .ok left
  loaded : ∀ force, preview.outcome = .contact force →
    left.assembly =
      let pushed := reached.assembly.load first force.force force.firstTorque
      if context.loadsBoth || reached.assembly.isOwned second then
        pushed.load second (-force.force) force.secondTorque
      else pushed
  unloaded : preview.outcome.force? = none → left.assembly = reached.assembly
  counted : left.report = reached.report.counting preview.outcome
  bondBefore : reached.ledger.bondAt key = preview.bondBefore
  bondAfter : left.ledger.bondAt key = preview.bondAfter
  failures : left.report.failures = reached.report.failures + preview.breaksBond.toNat

/-- What a preview computes of an encounter. -/
def foresee (ledger : Ledger α) (encounter : Encounter α) : Preview α :=
  context.material.preview (encounter.kinematics context.bodies)
    (ledger.getOrFresh encounter.key) encounter.flipped context.timestep

/-- An encounter goes as foreseen from any ledger that knows the same of the
pair. -/
theorem foretold_meet {ledger : Ledger α} {state : PassState α} {encounter : Encounter α}
    (known : state.ledger.getOrFresh encounter.key = ledger.getOrFresh encounter.key)
    (met : Encounter.at? state.assembly (encounter.first, encounter.second) = some encounter) :
    context.Foretold (context.foresee ledger encounter) encounter.first encounter.second
      encounter.key state (context.meet state encounter) := by
  have outcome : (context.foresee ledger encounter).outcome =
      (encounter.evaluate context (state.ledger.getOrFresh encounter.key)).1 := by
    rw [known]
    exact context.material.outcome_preview ..
  have breaks : (context.foresee ledger encounter).breaksBond =
      (encounter.evaluate context (state.ledger.getOrFresh encounter.key)).1.break?.isSome := by
    rw [known]
    exact context.material.breaksBond_preview ..
  constructor
  case visited => exact context.visit_eq_ok_iff.mpr ⟨encounter, met, rfl⟩
  case loaded =>
    intro force contact
    rw [outcome] at contact
    simp only [meet, load, contact]
    rfl
  case unloaded =>
    intro free
    rw [outcome] at free
    simp only [meet, load]
    split
    case h_1 force contact =>
      rw [contact] at free
      cases free
    case h_2 => rfl
  case counted =>
    rw [outcome]
    rfl
  case bondBefore =>
    rw [Ledger.bondAt, known]
    exact (context.material.bondBefore_preview ..).symm
  case bondAfter =>
    rw [meet, Ledger.bondAt_insert, if_pos rfl, known]
    exact (context.material.bondAfter_preview ..).symm
  case failures =>
    rw [breaks]
    exact PassReport.failures_counting ..

/-- An encounter goes as foreseen at the beginning of a pass that meets its pair
only once, whatever the pass meets before it, and nothing that the pass meets
behind it changes its bond. -/
theorem foretold_foldl_meet (start : PassState α) {before behind : List (Encounter α)}
    {encounter : Encounter α}
    (once : ((before ++ encounter :: behind).map Encounter.key).Nodup)
    (met : Encounter.at? start.assembly (encounter.first, encounter.second) = some encounter) :
    let preview := context.foresee start.ledger encounter
    let reached := before.foldl context.meet start
    let left := context.meet reached encounter
    context.Foretold preview encounter.first encounter.second encounter.key reached left ∧
      start.ledger.bondAt encounter.key = preview.bondBefore ∧
      (behind.foldl context.meet left).ledger.bondAt encounter.key = preview.bondAfter := by
  intro preview reached left
  rw [List.map_append, List.map_cons, List.nodup_append, List.nodup_cons] at once
  rcases once with ⟨-, ⟨last, -⟩, apart⟩
  have new : encounter.key ∉ before.map Encounter.key :=
    fun member => apart _ member _ List.mem_cons_self rfl
  have unwritten : reached.ledger.getOrFresh encounter.key =
      start.ledger.getOrFresh encounter.key :=
    context.getOrFresh_foldl_meet_of_not_mem new start
  have unmoved : Encounter.at? reached.assembly = Encounter.at? start.assembly :=
    context.at?_foldl_meet before start
  have foretold : context.Foretold preview encounter.first encounter.second encounter.key
      reached left :=
    context.foretold_meet unwritten ((congrFun unmoved _).trans met)
  refine ⟨foretold, ?_, ?_⟩
  · rw [← foretold.bondBefore, Ledger.bondAt, Ledger.bondAt, unwritten]
  · rw [← foretold.bondAfter, Ledger.bondAt, Ledger.bondAt,
      context.getOrFresh_foldl_meet_of_not_mem last left]

end Visits

end PassContext

namespace Session

section Steps

variable {σ α : Type} [Scalar α]

/-- A preview of a pair that is there is computed as its encounter in the next
pass will be. -/
theorem preview_eq_ok {session : Session σ α} {timestep : α}
    (known : session.interaction.timestep = some timestep) {pair : Nat × Nat}
    {encounter : Encounter α} (met : Encounter.at? session.assembly pair = some encounter) :
    session.preview pair.1 pair.2 =
      .ok ((session.passContext timestep).foresee session.interaction.ledger encounter) := by
  have inside := Encounter.exists_at?_iff.mp ⟨encounter, met⟩
  rcases Encounter.at?_eq_some_iff.mp met with ⟨first, second, firstHere, secondHere, rfl⟩
  simp only [preview, requireTimestep_eq_ok_iff.mpr known, checkPosition_eq_ok_iff.mpr inside.1,
    checkPosition_eq_ok_iff.mpr inside.2, Assembly.particle_eq_ok_iff.mpr firstHere,
    Assembly.particle_eq_ok_iff.mpr secondHere]
  rfl

theorem keyOf_eq_ok {assembly : Assembly α} {pair : Nat × Nat} {encounter : Encounter α}
    (met : Encounter.at? assembly pair = some encounter) :
    NeighborList.keyOf assembly pair = .ok encounter.key := by
  rcases Encounter.at?_eq_some_iff.mp met with ⟨first, second, firstHere, secondHere, rfl⟩
  simp only [NeighborList.keyOf, Assembly.particle_eq_ok_iff.mpr firstHere,
    Assembly.particle_eq_ok_iff.mpr secondHere]
  rfl

/-- A pass does with one pair of its list what the preview of this pair says
before it, changing nothing: when the earlier pairs are visited, the visit of the
pair goes as foretold, and its bond is before and after the whole pass as it is
before and after the visit. -/
def ForetoldAt (session : Session σ α) (pass : PassContext α) (earlier : List (Nat × Nat))
    (pair : Nat × Nat) (later : List (Nat × Nat)) (final : PassState α) : Prop :=
  ∃ preview key reached left,
    session.perform (.preview pair.1 pair.2) = (.preview (.ok preview), session) ∧
      NeighborList.keyOf session.assembly pair = .ok key ∧
      pass.visitAll ⟨session.assembly, session.interaction.ledger, .none⟩ earlier = .ok reached ∧
      pass.Foretold preview pair.1 pair.2 key reached left ∧
      pass.visitAll left later = .ok final ∧
      session.interaction.ledger.bondAt key = preview.bondBefore ∧
      final.ledger.bondAt key = preview.bondAfter

/-- A pass over a list goes as the previews before it say: at every place of the
list it does with the pair that stands there what was foretold, and its failures
are the pairs whose preview announces a break. -/
structure Foretells (session : Session σ α) (pass : PassContext α) (list : NeighborList)
    (final : PassState α) : Prop where
  places : ∀ earlier pair later, list.pairs = earlier ++ pair :: later →
    session.ForetoldAt pass earlier pair later final
  failures : Exactly final.report.failures fun key =>
    ∃ first second preview, (first, second) ∈ list.pairs ∧
      NeighborList.keyOf session.assembly (first, second) = .ok key ∧
      session.preview first second = .ok preview ∧ preview.breaksBond = true

/-- At its place in a list without repetitions a pair finds the particles and
the record that its preview found, and no later pair writes its record. -/
theorem foretoldAt_passed {session : Session σ α} {timestep : α}
    (known : session.interaction.timestep = some timestep) {list : NeighborList}
    (passes : list.check session.assembly = .ok ())
    (once : ((list.encounters session.assembly).map Encounter.key).Nodup)
    {earlier later : List (Nat × Nat)} {pair : Nat × Nat}
    (split : list.pairs = earlier ++ pair :: later) :
    session.ForetoldAt (session.passContext timestep) earlier pair later
      (session.passed list timestep) := by
  let pass := session.passContext timestep
  let start : PassState α := ⟨session.assembly, session.interaction.ledger, .none⟩
  have inside := NeighborList.check_eq_ok_iff.mp passes
  rw [split, List.forall_mem_append, List.forall_mem_cons] at inside
  rcases inside with ⟨insideEarlier, here, insideLater⟩
  rcases Encounter.exists_at?_iff.mpr here with ⟨encounter, met⟩
  have positions : pair = (encounter.first, encounter.second) := by
    rcases Encounter.at?_eq_some_iff.mp met with ⟨_, _, -, -, rfl⟩
    rfl
  subst positions
  let before := earlier.filterMap (Encounter.at? session.assembly)
  let behind := later.filterMap (Encounter.at? session.assembly)
  have encounters : list.encounters session.assembly = before ++ encounter :: behind := by
    rw [NeighborList.encounters, split, List.filterMap_append, List.filterMap_cons, met]
  rw [encounters] at once
  obtain ⟨foretold, bondBefore, bondAfter⟩ := pass.foretold_foldl_meet start once met
  let reached := before.foldl pass.meet start
  let left := pass.meet reached encounter
  have final : session.passed list timestep = behind.foldl pass.meet left := by
    rw [passed, encounters, List.foldl_append]
    rfl
  have answer : session.preview encounter.first encounter.second =
      .ok (pass.foresee session.interaction.ledger encounter) := preview_eq_ok known met
  refine ⟨_, encounter.key, reached, left, ?_, keyOf_eq_ok met,
    pass.visitAll_eq_ok insideEarlier, foretold, ?_, bondBefore, final ▸ bondAfter⟩
  · rw [perform, answer]
  · have size : left.assembly.size = session.assembly.size := by
      rw [pass.size_meet, pass.size_foldl_meet]
    have unmoved : Encounter.at? left.assembly = Encounter.at? session.assembly :=
      (pass.at?_meet ..).trans (pass.at?_foldl_meet before start)
    have rest := @PassContext.visitAll_eq_ok _ _ pass later left (by rwa [size])
    rw [unmoved] at rest
    rw [final]
    exact rest

/-- The pass of a session over a list without repetitions is foretold by its
previews. -/
theorem foretells_passed {session : Session σ α} {timestep : α}
    (known : session.interaction.timestep = some timestep) {list : NeighborList}
    (passes : list.check session.assembly = .ok ())
    (once : ((list.encounters session.assembly).map Encounter.key).Nodup) :
    session.Foretells (session.passContext timestep) list (session.passed list timestep) := by
  refine ⟨fun earlier pair later => foretoldAt_passed known passes once, ?_⟩
  let pass := session.passContext timestep
  let start : PassState α := ⟨session.assembly, session.interaction.ledger, .none⟩
  rcases pass.failures_foldl_meet (list.encounters session.assembly) start with
    ⟨count, report, exactly⟩
  have total : (session.passed list timestep).report.failures = count :=
    report.trans (Nat.zero_add count)
  rw [total]
  refine exactly.congr fun key => ?_
  constructor
  · intro announced
    rcases announced with ⟨first, second, preview, listed, named, answer, breaks⟩
    rcases List.append_of_mem listed with ⟨earlier, later, split⟩
    rcases foretoldAt_passed known passes once split with
      ⟨other, otherKey, _, _, performed, otherNamed, _, _, _, before, after⟩
    have otherAnswer : session.preview first second = .ok other :=
      Reply.preview.inj (congrArg Prod.fst performed)
    rw [answer] at otherAnswer
    rw [named] at otherNamed
    cases otherAnswer
    cases otherNamed
    rw [Preview.breaksBond, ← before, ← after, Bool.and_eq_true] at breaks
    exact ⟨beq_iff_eq.mp breaks.1, breaks.2⟩
  · intro failed
    rcases failed with ⟨held, broken⟩
    -- The bond of a pair that is not listed would hold afterwards.
    have met : key ∈ (list.encounters session.assembly).map Encounter.key := by
      by_contra unlisted
      have kept : (session.passed list timestep).ledger.bondAt key = start.ledger.bondAt key := by
        rw [Ledger.bondAt, passed, pass.getOrFresh_foldl_meet_of_not_mem unlisted]
        rfl
      have broken : ((session.passed list timestep).ledger.bondAt key).isBroken = true := broken
      rw [kept, held] at broken
      cases broken
    rcases List.mem_map.mp met with ⟨encounter, member, rfl⟩
    rcases List.mem_filterMap.mp member with ⟨pair, listed, here⟩
    rcases List.append_of_mem listed with ⟨earlier, later, split⟩
    rcases foretoldAt_passed known passes once split with
      ⟨preview, key, _, _, performed, named, _, _, _, before, after⟩
    have same : key = encounter.key := Except.ok.inj (named.symm.trans (keyOf_eq_ok here))
    subst same
    have answer : session.preview pair.1 pair.2 = .ok preview :=
      Reply.preview.inj (congrArg Prod.fst performed)
    refine ⟨pair.1, pair.2, preview, listed, named, answer, ?_⟩
    rw [Preview.breaksBond, ← before, ← after, Bool.and_eq_true]
    exact ⟨beq_iff_eq.mpr held, broken⟩

end Steps

variable {σ : Type}

/-- Three spheres in a row, with the last one at some place. -/
def rowOfSpheres (last : Float) : Assembly Float :=
  .ofOwned [.atRest ⟨1⟩ 0 1 1, .atRest ⟨2⟩ ⟨1.5, 0, 0⟩ 1 1, .atRest ⟨3⟩ ⟨last, 0, 0⟩ 1 1]

/-- The row bonds, a step is computed, and its last sphere is pulled away. -/
def pullingLast : List (Action Unit Float) :=
  settingUp ++
    [.formBonds (.ofPairs [(0, 1), (1, 2)]),
      .step .serial (.first 0.001) (.ofPairs [(0, 1), (1, 2)]) none,
      .place (rowOfSpheres 5) ()]

end Session

end GranularBonds

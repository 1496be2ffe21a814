import GranularBonds.Proofs.Contact.Renumbering
import GranularBonds.Proofs.Session.Acceptance
import GranularBonds.Proofs.Session.BodyMass
import Mathlib.Logic.Equiv.Basic

/-!
# Calls with the particles in another order

Two sessions that hold the same particles in different orders are followed
through each call.  What a session remembers of pairs goes by tags, so both know
the same of them; what it remembers of positions are the body masses, which agree
after both took them anew.
-/

namespace GranularBonds

variable {σ τ α : Type}

/-! ## Body masses -/

/-- Where the particle of a ghost is owned, when all are in another order. -/
def Origin.renumbered (order : Equiv.Perm Nat) : Origin α → Origin α
  | .here index => .here (order index)
  | .elsewhere mass => .elsewhere mass

/-- The same body masses are taken in both orders. -/
structure Rebuild.Renumbered [Scalar α] (order : Equiv.Perm Nat) (left : Rebuild σ α)
    (right : Rebuild τ α) : Prop where
  assembly : left.assembly.Renumbered order right.assembly
  provided : right.bodies.isSome = left.bodies.isSome
  bodies : ∀ told ∈ left.bodies, ∀ other ∈ right.bodies,
    ∀ index < left.assembly.ownedCount, other (order index) = told index
  /-- Both transports serve the ghosts, from the same particles. -/
  forwards : left.bodies.isSome → ∃ origins,
    left.exchange.Forwards left.transport left.assembly origins ∧
      right.exchange.Forwards right.transport right.assembly fun index =>
        (origins (order.symm index)).renumbered order

namespace Rebuild.Renumbered

variable [Scalar α] {order : Equiv.Perm Nat} {left : Rebuild σ α} {right : Rebuild τ α}

/-- The particle that a ghost replicates is told the same mass in both orders. -/
theorem spread (same : left.assembly.Renumbered order right.assembly)
    {told other : BodyMasses α} {origins : Nat → Origin α}
    (forwards : left.exchange.Forwards left.transport left.assembly origins)
    (bodies : ∀ index < left.assembly.ownedCount, other (order index) = told index)
    {index : Nat} (inside : index < left.assembly.size) :
    Origin.spread (fun index => (origins (order.symm index)).renumbered order)
        right.assembly.ownedCount other (order index) =
      Origin.spread origins left.assembly.ownedCount told index := by
  simp only [Origin.spread, same.isOwned_iff inside, Equiv.symm_apply_apply]
  split
  case isTrue own => exact bodies index own
  case isFalse foreign =>
    cases origin : origins index with
    | elsewhere mass => rfl
    | here source =>
        obtain ⟨own, -⟩ := forwards.here (List.replicate left.assembly.size 0) index source
          List.length_replicate (Nat.not_lt.mp foreign) inside origin
        exact bodies source own

/-- After both rebuilds the caches tell the same body masses. -/
theorem refreshed (same : left.Renumbered order right) (cache other : BodyCache α) :
    BodyCache.Agree order left.assembly.size (left.refreshed cache) (right.refreshed other) := by
  rcases left with ⟨assembly, exchange, transport, _ | told⟩ <;>
    rcases right with ⟨moved, otherExchange, otherTransport, _ | otherTold⟩
  · exact fun _ _ => rfl
  · cases same.provided
  · cases same.provided
  intro index inside
  rcases same.forwards rfl with ⟨origins, forwards, otherForwards⟩
  have entry := BodyCache.masses_refresh forwards told cache inside
  have otherEntry := BodyCache.masses_refresh otherForwards otherTold other
    ((same.assembly.lt_size index).mpr inside)
  have equal := spread same.assembly forwards (same.bodies told rfl otherTold rfl) inside
  simp only [Rebuild.refreshed, Option.map_some, Option.bind_some, BodyCache.get?]
  rw [entry, otherEntry, equal]

end Rebuild.Renumbered

/-! ## Sessions side by side -/

namespace Interaction

/-- Two interactions that differ at most in what they know by positions, and in
their cutoffs. -/
def Alike (left right : Interaction α) : Prop :=
  ∃ cutoffs bodies, right = { left with cutoffs, bodies }

theorem Alike.ledger {left right : Interaction α} (alike : left.Alike right) :
    right.ledger = left.ledger := by
  rcases alike with ⟨cutoffs, bodies, rfl⟩
  rfl

end Interaction

namespace Session

/-- Two sessions that differ in the order of their particles. -/
structure Renumbered (order : Equiv.Perm Nat) (left : Session σ α) (right : Session τ α) :
    Prop where
  interaction : left.interaction.Alike right.interaction
  assembly : left.assembly.Renumbered order right.assembly

/-- A call is answered alike in both sessions, and they remain alike. -/
structure AnswerAlike {β : Type} (order : Equiv.Perm Nat) (left : Except (Fault α) β × Session σ α)
    (right : Except (Fault α) β × Session τ α) : Prop where
  answer : right.1 = left.1.mapError (Fault.renumbered order)
  session : left.2.Renumbered order right.2

variable [Scalar α]

/-- The body masses that count for the particles are the same. -/
def AgreeOnBodies (order : Equiv.Perm Nat) (size : Nat) (left : Session σ α)
    (right : Session τ α) : Prop :=
  BodyCache.Agree order size left.interaction.activeBodies right.interaction.activeBodies

namespace Renumbered

variable {order : Equiv.Perm Nat} {left : Session σ α} {right : Session τ α}

omit [Scalar α] in
theorem withLedger (same : left.Renumbered order right) (ledger : Ledger α) :
    (left.withLedger ledger).Renumbered order (right.withLedger ledger) := by
  rcases left with ⟨interaction, assembly, transport⟩
  rcases right with ⟨_, other, otherTransport⟩
  rcases same with ⟨⟨cutoffs, bodies, rfl⟩, particles⟩
  exact ⟨⟨cutoffs, bodies, rfl⟩, particles⟩

theorem evaluate (same : left.Renumbered order right)
    (agree : left.AgreeOnBodies order left.assembly.size right) (list : NeighborList)
    (timestep : α) :
    AnswerAlike order (left.evaluate list timestep)
      (right.evaluate (list.renumbered order) timestep) := by
  rcases left with ⟨interaction, assembly, transport⟩
  rcases right with ⟨_, other, otherTransport⟩
  rcases same with ⟨⟨cutoffs, bodies, rfl⟩, particles⟩
  have contexts : PassContext.Renumbered order assembly.size
      (passContext ⟨interaction, assembly, transport⟩ timestep)
      (passContext ⟨{ interaction with cutoffs, bodies }, other, otherTransport⟩ timestep) :=
    ⟨rfl, rfl, rfl, agree⟩
  have passes := contexts.run particles list interaction.ledger
  simp only [passContext] at passes
  rcases passes with ⟨fault, failed, otherFailed⟩ | ⟨after, ending, done, otherDone, states⟩
  · simp only [Session.evaluate, failed, otherFailed]
    exact ⟨rfl, ⟨cutoffs, bodies, rfl⟩, particles⟩
  · simp only [Session.evaluate, done, otherDone]
    refine ⟨congrArg Except.ok states.report, ⟨cutoffs, bodies, ?_⟩, states.assembly⟩
    simp only [Session.withLedger, states.ledger]

theorem refreshBodies (same : left.Renumbered order right) {exchange : Exchange σ α}
    {other : Exchange τ α} {bodies otherBodies : Option (BodyMasses α)}
    (provided : otherBodies.isSome = bodies.isSome) :
    (left.refreshBodies exchange bodies).Renumbered order (right.refreshBodies other otherBodies) := by
  rcases left with ⟨interaction, assembly, transport⟩
  rcases right with ⟨_, moved, otherTransport⟩
  rcases same with ⟨⟨cutoffs, cache, rfl⟩, particles⟩
  rcases bodies with _ | told <;> rcases otherBodies with _ | otherTold
  · exact ⟨⟨cutoffs, cache, rfl⟩, particles⟩
  · cases provided
  · cases provided
  · exact ⟨⟨cutoffs, _, rfl⟩, particles⟩

theorem keys_encounters (same : left.Renumbered order right) (list : NeighborList) :
    ((list.renumbered order).encounters right.assembly).map Encounter.key =
      (list.encounters left.assembly).map Encounter.key := by
  rw [NeighborList.encounters_renumbered same.assembly, List.map_map]
  rfl

/-- A new list is refused in both sessions, or it is adopted in both, and then
they have the same body masses, whatever they had before. -/
theorem adopt (same : left.Renumbered order right) {exchange : Exchange σ α}
    {other : Exchange τ α} (list : NeighborList) {bodies otherBodies : Option (BodyMasses α)}
    (rebuild : Rebuild.Renumbered order ⟨left.assembly, exchange, left.exchange, bodies⟩
      ⟨right.assembly, other, right.exchange, otherBodies⟩) :
    (∃ fault, left.adopt exchange list bodies = (.error fault, left) ∧
      right.adopt other (list.renumbered order) otherBodies =
        (.error (fault.renumbered order), right)) ∨
    ∃ after ending, left.adopt exchange list bodies = (.ok (), after) ∧
      right.adopt other (list.renumbered order) otherBodies = (.ok (), ending) ∧
      after.Renumbered order ending ∧ after.AgreeOnBodies order after.assembly.size ending := by
  have check := NeighborList.check_renumbered same.assembly list
  cases passes : list.check left.assembly with
  | error fault =>
      rw [passes] at check
      exact .inl ⟨fault, by simp only [Session.adopt, passes],
        by simp only [Session.adopt, check, Except.mapError]⟩
  | ok _ =>
      rw [passes] at check
      refine .inr ⟨_, _, adopt_of_check exchange left bodies passes,
        adopt_of_check other right otherBodies check, ?_, ?_⟩
      · rw [same.keys_encounters, same.interaction.ledger]
        exact (same.refreshBodies rebuild.provided).withLedger _
      · have agree := rebuild.refreshed left.interaction.bodies right.interaction.bodies
        rw [← activeBodies_refreshBodies, ← activeBodies_refreshBodies,
          ← refreshBodies_assembly exchange left bodies] at agree
        exact agree

omit [Scalar α] in
theorem requireTimestep (same : left.Renumbered order right) (call : Call) :
    right.requireTimestep call =
      (left.requireTimestep call).mapError (Fault.renumbered order) := by
  rcases same.interaction with ⟨cutoffs, cache, alike⟩
  simp only [Session.requireTimestep, alike]
  cases left.interaction.timestep <;> rfl

theorem checkStep (same : left.Renumbered order right) (context : StepContext α) :
    right.checkStep context = (left.checkStep context).mapError (Fault.renumbered order) := by
  rcases same.interaction with ⟨cutoffs, cache, alike⟩
  simp only [Session.checkStep, same.requireTimestep, alike]
  cases left.requireTimestep .step with
  | error fault => rfl
  | ok timestep =>
      simp only [bind, Except.bind, Except.mapError]
      split
      · rfl
      · split <;> rfl

/-- A step on the body masses of both sessions. -/
theorem step (same : left.Renumbered order right) {exchange : Exchange σ α}
    {other : Exchange τ α} {context : StepContext α} (list : NeighborList)
    {bodies otherBodies : Option (BodyMasses α)}
    (agree : context.rebuilt = false → left.AgreeOnBodies order left.assembly.size right)
    (rebuild : context.rebuilt = true → Rebuild.Renumbered order
      ⟨left.assembly, exchange, left.exchange, bodies⟩
      ⟨right.assembly, other, right.exchange, otherBodies⟩) :
    AnswerAlike order (left.step exchange context list bodies)
      (right.step other context (list.renumbered order) otherBodies) := by
  have check := same.checkStep context
  cases checked : left.checkStep context with
  | error fault =>
      rw [checked] at check
      simp only [Session.step, checked, check, Except.mapError]
      exact ⟨rfl, same⟩
  | ok timestep =>
      rw [checked] at check
      simp only [Session.step, checked, check, Except.mapError]
      cases rebuilt : context.rebuilt with
      | false =>
          exact same.evaluate (agree rebuilt) list timestep
      | true =>
          simp only [if_true]
          rcases same.adopt list (rebuild rebuilt) with
            ⟨fault, refused, otherRefused⟩ |
              ⟨after, ending, adopted, otherAdopted, alike, agree⟩
          · simp only [refused, otherRefused]
            exact ⟨rfl, same⟩
          · simp only [adopted, otherAdopted]
            exact alike.evaluate agree list timestep

omit [Scalar α] in
theorem checkBonding (same : left.Renumbered order right) (list : NeighborList) :
    right.checkBonding (list.renumbered order) =
      (left.checkBonding list).mapError (Fault.renumbered order) := by
  rcases same.interaction with ⟨cutoffs, cache, alike⟩
  simp only [Session.checkBonding, same.requireTimestep, alike,
    NeighborList.check_renumbered same.assembly]
  cases left.requireTimestep .bonds with
  | error fault => rfl
  | ok timestep =>
      simp only [bind, Except.bind, Except.mapError]
      split <;> rfl

theorem formBonds (same : left.Renumbered order right) (list : NeighborList) :
    AnswerAlike order (left.formBonds list) (right.formBonds (list.renumbered order)) := by
  have check := same.checkBonding list
  cases checked : left.checkBonding list with
  | error fault =>
      rw [checked] at check
      simp only [Session.formBonds, checked, check, Except.mapError, bind, Except.bind]
      exact ⟨rfl, same⟩
  | ok _ =>
      rw [checked] at check
      rcases checkBonding_eq_ok_iff.mp checked with ⟨known, unbonded, passes⟩
      rcases checkBonding_eq_ok_iff.mp check with ⟨otherKnown, otherUnbonded, otherPasses⟩
      rcases Option.isSome_iff_exists.mp known with ⟨timestep, known⟩
      rcases Option.isSome_iff_exists.mp otherKnown with ⟨otherTimestep, otherKnown⟩
      have bonded := left.formBonds_of_check known unbonded passes
      have otherBonded := right.formBonds_of_check otherKnown otherUnbonded otherPasses
      rw [bonded, otherBonded]
      rcases left with ⟨interaction, assembly, transport⟩
      rcases right with ⟨_, other, otherTransport⟩
      rcases same with ⟨⟨cutoffs, bodies, rfl⟩, particles⟩
      dsimp only at bonded otherBonded ⊢
      rw [NeighborList.encounters_renumbered particles, Material.foldl_bond_renumbered]
      exact ⟨rfl, ⟨cutoffs, bodies, rfl⟩, particles⟩

omit [Scalar α] in
theorem checkPosition (same : left.Renumbered order right) (index : Nat) :
    right.checkPosition (order index) =
      (left.checkPosition index).mapError (Fault.renumbered order) := by
  have outside : left.assembly.size ≤ order index ↔ left.assembly.size ≤ index := by
    rw [← Nat.not_lt, ← Nat.not_lt, ← same.assembly.lt_size index, same.assembly.size]
  simp only [Session.checkPosition, same.assembly.size, outside]
  split <;> rfl

theorem preview (same : left.Renumbered order right)
    (agree : left.AgreeOnBodies order left.assembly.size right) (first second : Nat) :
    right.preview (order first) (order second) =
      (left.preview first second).mapError (Fault.renumbered order) := by
  simp only [Session.preview, same.requireTimestep, same.checkPosition, same.assembly.particle]
  cases left.requireTimestep .preview with
  | error fault => rfl
  | ok timestep =>
  cases inside : left.checkPosition first with
  | error fault => rfl
  | ok _ =>
  cases otherInside : left.checkPosition second with
  | error fault => rfl
  | ok _ =>
  have present := checkPosition_eq_ok_iff.mp inside
  have otherPresent := checkPosition_eq_ok_iff.mp otherInside
  rcases Assembly.exists_get?_of_lt present with ⟨particle, here⟩
  rcases Assembly.exists_get?_of_lt otherPresent with ⟨other, there⟩
  have pair := BodyCache.Agree.ofParticles agree present otherPresent particle other
  rcases same.interaction with ⟨cutoffs, cache, alike⟩
  simp only [Assembly.particle_eq_ok_iff.mpr here, Assembly.particle_eq_ok_iff.mpr there, bind,
    Except.bind, Except.mapError, pair]
  rw [alike]
  rfl

theorem isOk_setUp (same : left.Renumbered order right) (exchange : Exchange σ α)
    (other : Exchange τ α) (setup : RunSetup α) :
    (right.setUp other setup).1.isOk = (left.setUp exchange setup).1.isOk := by
  rcases same.interaction with ⟨cutoffs, cache, alike⟩
  rw [setUp_fst, setUp_fst, Bool.eq_iff_iff, isOk_iff, isOk_iff, checkSetup_eq_ok_iff,
    checkSetup_eq_ok_iff, same.assembly.kindCount, alike]
  simp only [same.assembly.mem_owned_iff]

/-- A setup is accepted in both sessions or in none, though the particle that it
is refused for may be another one. -/
theorem setUp (same : left.Renumbered order right) (exchange : Exchange σ α)
    (other : Exchange τ α) (setup : RunSetup α) :
    (left.setUp exchange setup).2.Renumbered order (right.setUp other setup).2 := by
  have accepted := same.isOk_setUp exchange other setup
  rw [setUp_fst, setUp_fst] at accepted
  rcases same with ⟨⟨cutoffs, cache, alike⟩, particles⟩
  cases checked : left.checkSetup setup with
  | error fault =>
      cases otherChecked : right.checkSetup setup with
      | error otherFault =>
          simp only [Session.setUp, checked, otherChecked]
          exact ⟨⟨cutoffs, cache, alike⟩, particles⟩
      | ok _ =>
          rw [checked, otherChecked] at accepted
          cases accepted
  | ok _ =>
      cases otherChecked : right.checkSetup setup with
      | error fault =>
          rw [checked, otherChecked] at accepted
          cases accepted
      | ok _ =>
          simp only [Session.setUp, checked, otherChecked]
          exact ⟨⟨_, cache, by rw [alike]⟩, particles⟩

omit [Scalar α] in
theorem configure (same : left.Renumbered order right) (rows columns : String) :
    (right.configure rows columns).1 = (left.configure rows columns).1 ∧
      (left.configure rows columns).2.Renumbered order (right.configure rows columns).2 := by
  rcases left with ⟨interaction, assembly, transport⟩
  rcases right with ⟨_, other, otherTransport⟩
  rcases same with ⟨⟨cutoffs, bodies, rfl⟩, particles⟩
  simp only [Session.configure]
  cases interaction.table.assign rows columns with
  | error fault => exact ⟨rfl, ⟨cutoffs, bodies, rfl⟩, particles⟩
  | ok assigned => exact ⟨rfl, ⟨cutoffs, bodies, rfl⟩, particles⟩

theorem resetTimestep (same : left.Renumbered order right) (timestep : α) :
    (right.resetTimestep timestep).1.isOk = (left.resetTimestep timestep).1.isOk ∧
      (left.resetTimestep timestep).2.Renumbered order (right.resetTimestep timestep).2 := by
  have required := same.requireTimestep .timestep
  cases known : left.requireTimestep .timestep with
  | error fault =>
      rw [known] at required
      simp only [Session.resetTimestep, known, required, bind, Except.bind, Except.mapError]
      exact ⟨rfl, same⟩
  | ok stored =>
      rw [known] at required
      simp only [Session.resetTimestep, known, required, bind, Except.bind, Except.mapError]
      cases checkTimestep timestep with
      | error fault => exact ⟨rfl, same⟩
      | ok _ =>
          rcases same with ⟨⟨cutoffs, bodies, alike⟩, particles⟩
          exact ⟨rfl, ⟨cutoffs, bodies, by rw [alike]⟩, particles⟩

theorem isOk_cutoff (same : left.Renumbered order right) (first second : Nat) :
    (right.cutoff first second).isOk = (left.cutoff first second).isOk := by
  rcases same.interaction with ⟨cutoffs, cache, alike⟩
  simp only [Session.cutoff, same.requireTimestep, alike]
  cases left.requireTimestep .cutoff with
  | error fault => rfl
  | ok timestep =>
      simp only [bind, Except.bind, Except.mapError]
      split <;> rfl

end Renumbered

/-! ## Calls -/

/-- What a step takes body masses from when it comes to adopt its list. -/
def Action.announced? (assembly : Assembly α) (transport : σ) :
    Action σ α → Option (Rebuild σ α)
  | .step exchange context _ bodies =>
      if context.rebuilt then some ⟨assembly, exchange, transport, bodies⟩ else none
  | _ => none

/-- The same call, which names the new positions. -/
inductive Action.Renumbered (order : Equiv.Perm Nat) : Action σ α → Action τ α → Prop where
  | configure (rows columns : String) :
      Renumbered order (.configure rows columns) (.configure rows columns)
  | announce (kind : Nat) (radius : α) :
      Renumbered order (.announce kind radius) (.announce kind radius)
  | setUp (exchange : Exchange σ α) (other : Exchange τ α) (setup : RunSetup α) :
      Renumbered order (.setUp exchange setup) (.setUp other setup)
  | cutoff (first second : Nat) : Renumbered order (.cutoff first second) (.cutoff first second)
  | resetTimestep (timestep : α) :
      Renumbered order (.resetTimestep timestep) (.resetTimestep timestep)
  | formBonds (list : NeighborList) :
      Renumbered order (.formBonds list) (.formBonds (list.renumbered order))
  | step (exchange : Exchange σ α) (other : Exchange τ α) (context : StepContext α)
      (list : NeighborList) (bodies otherBodies : Option (BodyMasses α)) :
      Renumbered order (.step exchange context list bodies)
        (.step other context (list.renumbered order) otherBodies)
  | preview (first second : Nat) :
      Renumbered order (.preview first second) (.preview (order first) (order second))

/-- The same answer, with other positions in the fault.  A setup may be refused
for another particle, and a cutoff may be another one. -/
def Reply.Renumbered (order : Equiv.Perm Nat) : Reply α → Reply α → Prop
  | .none, .none => True
  | .count left, .count right => right = left
  | .done left, .done right => right.isOk = left.isOk
  | .distance left, .distance right => right.isOk = left.isOk
  | .bonding left, .bonding right => right = left.mapError (Fault.renumbered order)
  | .pass left, .pass right => right = left.mapError (Fault.renumbered order)
  | .preview left, .preview right => right = left.mapError (Fault.renumbered order)
  | _, _ => False

namespace Renumbered

variable {order : Equiv.Perm Nat} {left : Session σ α} {right : Session τ α}
  {action : Action σ α} {other : Action τ α}

/-- A call is answered alike in both sessions. -/
theorem perform (same : left.Renumbered order right) (call : action.Renumbered order other)
    (agree : action.announced? left.assembly left.exchange = none →
      left.AgreeOnBodies order left.assembly.size right)
    (rebuild : ∀ rebuild ∈ action.announced? left.assembly left.exchange,
      ∀ otherRebuild ∈ other.announced? right.assembly right.exchange,
        rebuild.Renumbered order otherRebuild) :
    (left.perform action).1.Renumbered order (right.perform other).1 ∧
      (left.perform action).2.Renumbered order (right.perform other).2 := by
  cases call with
  | configure rows columns => exact same.configure rows columns
  | announce kind radius =>
      rcases left with ⟨interaction, assembly, transport⟩
      rcases right with ⟨_, moved, otherTransport⟩
      rcases same with ⟨⟨cutoffs, bodies, rfl⟩, particles⟩
      exact ⟨trivial, ⟨cutoffs, bodies, rfl⟩, particles⟩
  | setUp exchange otherExchange setup =>
      exact ⟨same.isOk_setUp exchange otherExchange setup, same.setUp exchange otherExchange setup⟩
  | cutoff first second => exact ⟨same.isOk_cutoff first second, same⟩
  | resetTimestep timestep => exact same.resetTimestep timestep
  | formBonds list =>
      have alike := same.formBonds list
      exact ⟨alike.answer, alike.session⟩
  | step exchange otherExchange context list bodies otherBodies =>
      have kept : context.rebuilt = false → left.AgreeOnBodies order left.assembly.size right :=
        fun old => agree (if_neg (by simp [old]))
      have renewed : context.rebuilt = true → Rebuild.Renumbered order
          ⟨left.assembly, exchange, left.exchange, bodies⟩
          ⟨right.assembly, otherExchange, right.exchange, otherBodies⟩ :=
        fun rebuilt => rebuild _ (if_pos rebuilt) _ (if_pos rebuilt)
      have alike := same.step list kept renewed
      exact ⟨alike.answer, alike.session⟩
  | preview first second => exact ⟨same.preview (agree rfl) first second, same⟩

/-- A new list is adopted in both sessions or in none. -/
theorem isSome_rebuild? (same : left.Renumbered order right)
    (call : action.Renumbered order other) :
    (right.rebuild? other).isSome = (left.rebuild? action).isSome := by
  cases call with
  | step exchange otherExchange context list bodies otherBodies =>
      have isOk : ∀ {β : Type} (call : Except (Fault α) β),
          (call.mapError (Fault.renumbered order)).isOk = call.isOk := by
        intro β call
        cases call <;> rfl
      simp only [Session.rebuild?, same.checkStep, NeighborList.check_renumbered same.assembly,
        isOk]
      split <;> rfl
  | _ => rfl

end Renumbered

omit [Scalar α] in
theorem assembly_of_announced? {action : Action σ α} {assembly : Assembly α} {transport : σ}
    {rebuild : Rebuild σ α} (announced : action.announced? assembly transport = some rebuild) :
    rebuild.assembly = assembly := by
  cases action with
  | step exchange context list bodies =>
      simp only [Action.announced?, Option.ite_none_right_eq_some] at announced
      rw [← Option.some.inj announced.2]
  | _ => cases announced

theorem announced?_of_rebuild? {session : Session σ α} {action : Action σ α}
    {rebuild : Rebuild σ α} (taken : session.rebuild? action = some rebuild) :
    action.announced? session.assembly session.exchange = some rebuild := by
  cases action with
  | step exchange context list bodies =>
      simp only [rebuild?, Option.ite_none_right_eq_some, Bool.and_eq_true] at taken
      exact (if_pos taken.1.1.1).trans taken.2
  | _ => cases taken

namespace Renumbered

variable {order : Equiv.Perm Nat} {left : Session σ α} {right : Session τ α}
  {action : Action σ α} {other : Action τ α}

/-- Body masses that are taken in a call are the same afterwards. -/
theorem agree_of_rebuild (same : left.Renumbered order right)
    (call : action.Renumbered order other)
    (rebuild : ∀ rebuild ∈ action.announced? left.assembly left.exchange,
      ∀ otherRebuild ∈ other.announced? right.assembly right.exchange,
        rebuild.Renumbered order otherRebuild)
    (taken : (left.rebuild? action).isSome = true) :
    (left.perform action).2.AgreeOnBodies order left.assembly.size (right.perform other).2 := by
  have otherTaken := (same.isSome_rebuild? call).trans taken
  rcases Option.isSome_iff_exists.mp taken with ⟨first, taken⟩
  rcases Option.isSome_iff_exists.mp otherTaken with ⟨second, otherTaken⟩
  have announced := announced?_of_rebuild? taken
  have both := rebuild first announced second (announced?_of_rebuild? otherTaken)
  have agree := both.refreshed left.interaction.bodies right.interaction.bodies
  rw [AgreeOnBodies, activeBodies_perform, activeBodies_perform, taken, otherTaken,
    ← assembly_of_announced? announced]
  exact agree

end Renumbered

end Session

end GranularBonds

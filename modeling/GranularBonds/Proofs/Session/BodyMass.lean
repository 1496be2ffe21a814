import GranularBonds.Proofs.Mass.BodyCache
import GranularBonds.Proofs.Session.Acceptance
import GranularBonds.Proofs.Session.BondLife

/-!
# Body masses in a run

A session takes body masses when a step announces a new neighbor list, and
works with them until another step does so.  In between the cache is filled,
switched off and filled again, for assemblies of any sizes.  Main statement: the
masses with which a step counts are told by the last announcement alone.
-/

namespace GranularBonds

variable {σ α : Type}

/-- What a step on a new list takes body masses from. -/
structure Rebuild (σ α : Type) where
  assembly : Assembly α
  exchange : Exchange σ α
  transport : σ
  bodies : Option (BodyMasses α)

namespace Rebuild

/-- The body mass that is told of a particle, and of a ghost as of the particle
that it replicates. -/
def told (rebuild : Rebuild σ α) (origins : Nat → Origin α) : BodyMasses α := fun index =>
  rebuild.bodies.bind fun bodies =>
    Origin.spread origins rebuild.assembly.ownedCount bodies index

/-- The body masses that count afterwards, out of a cache that was there. -/
def refreshed [Scalar α] (rebuild : Rebuild σ α) (cache : BodyCache α) : Option (BodyCache α) :=
  rebuild.bodies.map fun bodies =>
    (cache.refresh rebuild.exchange rebuild.assembly bodies rebuild.transport).1

end Rebuild

namespace Session

variable [Scalar α]

/-! ## Announcements -/

/-- What an action takes body masses from, if it is a step that announces a
list and gets as far as its preparation. -/
def rebuild? (session : Session σ α) : Action σ α → Option (Rebuild σ α)
  | .step exchange context list bodies =>
      if context.rebuilt && (session.checkStep context).isOk &&
          (list.check session.assembly).isOk then
        some ⟨session.assembly, exchange, session.exchange, bodies⟩
      else
        none
  | _ => none

/-- What the actions of a run took body masses from last. -/
def lastRebuild? (session : Session σ α) : List (Action σ α) → Option (Rebuild σ α)
  | [] => none
  | action :: later =>
      ((session.perform action).2.lastRebuild? later).or (session.rebuild? action)

theorem lastRebuild?_concat (session : Session σ α) (actions : List (Action σ α))
    (action : Action σ α) :
    session.lastRebuild? (actions ++ [action]) =
      ((session.run actions).rebuild? action).or (session.lastRebuild? actions) := by
  induction actions generalizing session with
  | nil => exact (Option.or_none ..).symm
  | cons earlier rest ih =>
      rw [List.cons_append, lastRebuild?, lastRebuild?, ih, run_cons, Option.or_assoc]

/-- A step that is computed takes body masses exactly if its list is new. -/
theorem rebuild?_of_accepted {exchange : Exchange σ α} {session : Session σ α}
    {context : StepContext α} {list : NeighborList} {timestep : α}
    (bodies : Option (BodyMasses α)) (checked : session.checkStep context = .ok timestep)
    (passes : list.check session.assembly = .ok ()) :
    session.rebuild? (.step exchange context list bodies) =
      if context.rebuilt then some ⟨session.assembly, exchange, session.exchange, bodies⟩
      else none := by
  simp [rebuild?, checked, passes, Except.isOk, Except.toBool]

/-! ## The cache in a run -/

theorem activeBodies_refreshBodies (exchange : Exchange σ α) (session : Session σ α)
    (bodies : Option (BodyMasses α)) :
    (session.refreshBodies exchange bodies).interaction.activeBodies =
      Rebuild.refreshed ⟨session.assembly, exchange, session.exchange, bodies⟩
        session.interaction.bodies := by
  cases bodies <;> rfl

theorem activeBodies_evaluate (session : Session σ α) (list : NeighborList) (timestep : α) :
    (session.evaluate list timestep).2.interaction.activeBodies =
      session.interaction.activeBodies := by
  unfold evaluate
  dsimp only
  split <;> rfl

theorem activeBodies_step (exchange : Exchange σ α) (session : Session σ α)
    (context : StepContext α) (list : NeighborList) (bodies : Option (BodyMasses α)) :
    (session.step exchange context list bodies).2.interaction.activeBodies =
      match session.rebuild? (.step exchange context list bodies) with
      | some rebuild => rebuild.refreshed session.interaction.bodies
      | none => session.interaction.activeBodies := by
  cases checked : session.checkStep context with
  | error fault => simp [step, rebuild?, checked, Except.isOk, Except.toBool]
  | ok timestep =>
      cases rebuilt : context.rebuilt with
      | false => simp [step, rebuild?, checked, rebuilt, activeBodies_evaluate]
      | true =>
          cases passes : list.check session.assembly with
          | error fault =>
              simp [step, adopt, rebuild?, checked, rebuilt, passes, Except.isOk, Except.toBool]
          | ok _ =>
              simp only [step, checked, rebuilt, if_true,
                session.adopt_of_check exchange bodies passes, activeBodies_evaluate,
                rebuild?_of_accepted bodies checked passes]
              exact session.activeBodies_refreshBodies exchange bodies

/-- Body masses change by announcements only. -/
theorem activeBodies_perform (session : Session σ α) (action : Action σ α) :
    (session.perform action).2.interaction.activeBodies =
      match session.rebuild? action with
      | some rebuild => rebuild.refreshed session.interaction.bodies
      | none => session.interaction.activeBodies := by
  cases action with
  | step exchange context list bodies =>
      exact session.activeBodies_step exchange context list bodies
  | announce | cutoff | preview | place => rfl
  | configure rows columns =>
      simp only [perform, configure, rebuild?]
      split <;> rfl
  | setUp exchange setup =>
      simp only [perform, setUp, rebuild?]
      split <;> rfl
  | resetTimestep timestep =>
      simp only [perform, resetTimestep, rebuild?]
      split <;> rfl
  | formBonds list =>
      simp only [perform, formBonds, rebuild?]
      split <;> rfl

/-- The body masses of a session are those of the last announcement, taken into
some cache that was there before it. -/
def Recalls (session : Session σ α) (last : Option (Rebuild σ α)) : Prop :=
  ∃ cache, session.interaction.activeBodies = last.bind fun rebuild => rebuild.refreshed cache

theorem Recalls.perform {session : Session σ α} {last : Option (Rebuild σ α)}
    (recalls : session.Recalls last) (action : Action σ α) :
    (session.perform action).2.Recalls ((session.rebuild? action).or last) := by
  rcases recalls with ⟨cache, known⟩
  have after := session.activeBodies_perform action
  cases taken : session.rebuild? action with
  | none => exact ⟨cache, by rw [after, taken]; exact known⟩
  | some rebuild => exact ⟨session.interaction.bodies, by rw [after, taken]; rfl⟩

/-- At any point of a run the body masses are those of the last announcement. -/
theorem Recalls.run {session : Session σ α} {last : Option (Rebuild σ α)}
    (recalls : session.Recalls last) (actions : List (Action σ α)) :
    (session.run actions).Recalls ((session.lastRebuild? actions).or last) := by
  induction actions generalizing session last with
  | nil => exact recalls
  | cons action later ih =>
      rw [lastRebuild?, Option.or_assoc]
      exact ih (recalls.perform action)

/-- The mass with which a particle counts, when body masses are recalled. -/
theorem Recalls.resolved {session : Session σ α} {last : Option (Rebuild σ α)}
    (recalls : session.Recalls last) (irrefl : ¬(0 : α) < 0) {origins : Nat → Origin α}
    {index : Nat} (forwards : ∀ rebuild ∈ last, index < rebuild.assembly.size ∧
      rebuild.exchange.Forwards rebuild.transport rebuild.assembly origins)
    (particle : Particle α) :
    (particle.contactMass session.interaction.activeBodies index).resolved =
      massFrom (last.bind fun rebuild => rebuild.told origins index) particle.mass := by
  rcases recalls with ⟨cache, known⟩
  rw [known]
  rcases last with _ | ⟨assembly, exchange, transport, _ | bodies⟩
  · rfl
  · rfl
  · obtain ⟨inside, forwards⟩ := forwards _ rfl
    exact particle.resolved_refresh irrefl forwards bodies cache inside

/-! ## Runs -/

/-- A sphere that moves. -/
def movingSphere : Particle Float := { Particle.atRest ⟨1⟩ 0 1 1 with velocity := ⟨-1, 0, 0⟩ }

/-- The moving sphere, another that belongs to a rigid body, and a ghost that
replicates the latter. -/
def bodyBesideGhost : Assembly Float :=
  .ofGhosts [movingSphere, .atRest ⟨2⟩ ⟨1.5, 0, 0⟩ 1 1] [.atRest ⟨2⟩ ⟨-1.5, 0, 0⟩ 1 1]

/-- The transport that serves one ghost beside two owned particles. -/
theorem forwards_oneGhost {assembly : Assembly Float} {source : Nat} (three : assembly.size = 3)
    (two : assembly.ownedCount = 2) (own : source < 2) :
    Exchange.scripted.Forwards (⟨[source], []⟩ : Exchange.Script Float) assembly
      fun _ => .here source := by
  refine Exchange.scripted_forwards fun index ghost inside => ⟨source, two ▸ own, ?_, rfl⟩
  have last : index - assembly.ownedCount = 0 := by omega
  rw [last]
  rfl

/-- The second particle belongs to a body. -/
def bodyOfSecond : BodyMasses Float := fun index => if index = 1 then some 10 else none

/-- The mass of the body is told with the first step. -/
def bodyTold : List (Action (Exchange.Script Float) Float) :=
  [.configure "*" "*", .setUp .scripted (.ofTimestep 0.001), .formBonds .empty,
    .step .scripted (.first 0.001) .empty (some bodyOfSecond)]

end Session

end GranularBonds

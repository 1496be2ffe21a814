import GranularBonds.Fault

/-!
# Timesteps

What the surrounding simulation decides: the length of a step, how forces on
ghosts are counted, what ghosts carry, and where in the run a step stands.
-/

namespace GranularBonds

/-- Refuse a step length that is not finite or not above zero. -/
def checkTimestep {α : Type} [Scalar α] (length : α) : Except (Fault α) Unit :=
  if Scalar.isUsable length then .ok () else .error (.timestep length)

/-- Settings of the surrounding simulation. -/
structure RunSetup (α : Type) where
  timestep : α
  /-- Whether forces are added to both partners of a pair, ghost or not. -/
  loadsBoth : Bool
  /-- Whether ghosts carry the velocities of their particles. -/
  ghostVelocities : Bool

namespace RunSetup

variable {α : Type} [Scalar α]

/-- Settings that serve where only the step length is given. -/
def ofTimestep (timestep : α) : RunSetup α where
  timestep := timestep
  loadsBoth := true
  ghostVelocities := true

/-- Settings that serve where none are given. -/
def standard : RunSetup α := ofTimestep (1 / (10000 : Nat))

/-- Refuse settings without a usable step length. -/
def validate (setup : RunSetup α) : Except (Fault α) Unit := checkTimestep setup.timestep

end RunSetup

/-- Where in the run a step stands. -/
structure StepContext (α : Type) where
  step : Nat
  timestep : α
  /-- Whether the neighbor list was built anew for this step. -/
  rebuilt : Bool

namespace StepContext

variable {α : Type}

/-- The first step of a run, for which the list is always built. -/
def first (timestep : α) : StepContext α where
  step := 0
  timestep := timestep
  rebuilt := true

/-- The step after, on the same neighbor list. -/
def next (context : StepContext α) : StepContext α :=
  { context with step := context.step + 1, rebuilt := false }

/-- The same step with a new neighbor list. -/
def withRebuild (context : StepContext α) : StepContext α :=
  { context with rebuilt := true }

end StepContext

end GranularBonds

import GranularBonds.Bonding
import GranularBonds.Contact.Pass
import GranularBonds.Contact.Preview
import GranularBonds.Interaction
import GranularBonds.Timestep

/-!
# Sessions

The calls by which a simulation drives an interaction: kinds are configured,
the run is set up, bonds are formed once, and then every step is computed.
Each call takes the state of the worker and gives an answer and the state
afterwards, whether the call was refused or not.
-/

namespace GranularBonds

/-- State of one worker: the interaction, the particles, and the transport. -/
structure Session (σ α : Type) where
  interaction : Interaction α
  assembly : Assembly α
  exchange : σ

namespace Session

variable {σ α : Type} [Scalar α]

/-- Give coefficients to the pairs of two ranges of kinds. -/
def configure (session : Session σ α) (rows columns : String) :
    Except (Fault α) Nat × Session σ α :=
  match session.interaction.table.assign rows columns with
  | .error fault => (.error fault, session)
  | .ok (count, table) =>
      (.ok count, { session with interaction := { session.interaction with table } })

/-- Refuse a particle whose radius or mass is not usable. -/
def checkParticle (particle : Particle α) : Except (Fault α) Unit :=
  if !Scalar.isUsable particle.radius then
    .error (.parameter "radius" (.number particle.radius) (.radius particle.tag))
  else if !Scalar.isUsable particle.mass then
    .error (.parameter "mass" (.number particle.mass) (.mass particle.tag))
  else
    .ok ()

/-- Refuse a setup that the interaction cannot run with. -/
def checkSetup (session : Session σ α) (setup : RunSetup α) : Except (Fault α) Unit := do
  setup.validate
  if !setup.ghostVelocities then
    .error (.capability .ghostVelocities)
  else if session.assembly.kindCount ≠ session.interaction.table.kinds then
    .error (.setup (.kindCount session.interaction.table.kinds session.assembly.kindCount))
  else if !session.interaction.table.isComplete then
    .error (.setup .pairsMissing)
  else
    session.assembly.owned.forM checkParticle

/-- Set the run up: fix the step length and how ghosts are counted, and build
the cutoffs over all workers. -/
def setUp (exchange : Exchange σ α) (session : Session σ α) (setup : RunSetup α) :
    Except (Fault α) Unit × Session σ α :=
  match session.checkSetup setup with
  | .error fault => (.error fault, session)
  | .ok () =>
      let (cutoffs, state) :=
        CutoffTable.build exchange session.assembly session.interaction.inserted
          session.exchange
      (.ok (),
       { session with
          interaction :=
            { session.interaction with
              timestep := some setup.timestep, loadsBoth := setup.loadsBoth, cutoffs }
          exchange := state })

/-- The step length, or the fault of a call that came before the setup. -/
def requireTimestep (session : Session σ α) (call : Call) : Except (Fault α) α :=
  match session.interaction.timestep with
  | some timestep => .ok timestep
  | none => .error (.phase (.beforeSetup call))

/-- Distance within which two kinds interact. -/
def cutoff (session : Session σ α) (first second : Nat) : Except (Fault α) α := do
  let _ ← session.requireTimestep .cutoff
  if session.interaction.table.isConfigured first second then
    .ok (session.interaction.cutoffs.cutoff first second)
  else
    .error (.setup (.pairMissing first second))

/-- Change the step length of a run that is set up. -/
def resetTimestep (session : Session σ α) (timestep : α) :
    Except (Fault α) Unit × Session σ α :=
  match session.requireTimestep .timestep >>= fun _ => checkTimestep timestep with
  | .error fault => (.error fault, session)
  | .ok () =>
      (.ok (),
       { session with
          interaction := { session.interaction with timestep := some timestep } })

/-- Refuse to form bonds before the setup, a second time, or for pairs that
are not there. -/
def checkBonding (session : Session σ α) (list : NeighborList) : Except (Fault α) Unit := do
  let _ ← session.requireTimestep .bonds
  if session.interaction.bondsFormed then .error (.phase .bondsTwice)
  else list.check session.assembly

/-- Write a ledger back, and remember whether it holds records. -/
def withLedger (session : Session σ α) (ledger : Ledger α) : Session σ α :=
  { session with
    interaction :=
      { session.interaction with
        ledger, tookStorage := session.interaction.tookStorage || !ledger.isEmpty } }

/-- Form the bonds of the run, on its first neighbor list. -/
def formBonds (session : Session σ α) (list : NeighborList) :
    Except (Fault α) BondingReport × Session σ α :=
  match session.checkBonding list >>= fun _ =>
      session.interaction.material.formBonds session.assembly list
        session.interaction.ledger with
  | .error fault => (.error fault, session)
  | .ok (report, ledger) =>
      let session := session.withLedger ledger
      (.ok report,
       { session with interaction := { session.interaction with bondsFormed := true } })

/-- The step length, for a step that may be computed now. -/
def checkStep (session : Session σ α) (context : StepContext α) : Except (Fault α) α := do
  let timestep ← session.requireTimestep .step
  if !session.interaction.bondsFormed then
    .error (.phase .beforeBonds)
  else if Scalar.Same context.timestep timestep then
    .ok timestep
  else
    .error (.phase (.staleTimestep context.timestep timestep))

/-- Take body masses anew, or cease to use them where none are provided. -/
def refreshBodies (exchange : Exchange σ α) (session : Session σ α)
    (bodies : Option (BodyMasses α)) : Session σ α :=
  match bodies with
  | none => { session with interaction := { session.interaction with usesBodies := false } }
  | some bodies =>
      let (cache, state) :=
        session.interaction.bodies.refresh exchange session.assembly bodies session.exchange
      { session with
        interaction := { session.interaction with bodies := cache, usesBodies := true }
        exchange := state }

/-- Forget the pairs that are not listed, except for their bonds. -/
def prune (session : Session σ α) (list : NeighborList) :
    Except (Fault α) Unit × Session σ α :=
  match list.keys session.assembly with
  | .error fault => (.error fault, session)
  | .ok keys => (.ok (), session.withLedger (session.interaction.ledger.retain keys))

/-- Evaluate all pairs of a list and add up their forces. -/
def evaluate (session : Session σ α) (list : NeighborList) (timestep : α) :
    Except (Fault α) PassReport × Session σ α :=
  let context : PassContext α :=
    { material := session.interaction.material
      bodies := session.interaction.activeBodies
      timestep
      loadsBoth := session.interaction.loadsBoth }
  match context.run list session.assembly session.interaction.ledger with
  | .error fault => (.error fault, session)
  | .ok state =>
      (.ok state.report, { session.withLedger state.ledger with assembly := state.assembly })

/-- What a new neighbor list requires before its first step: its pairs must be
there, body masses are taken anew, and pairs that left the list are
forgotten. -/
def adopt (exchange : Exchange σ α) (session : Session σ α) (list : NeighborList)
    (bodies : Option (BodyMasses α)) : Except (Fault α) Unit × Session σ α :=
  match list.check session.assembly with
  | .error fault => (.error fault, session)
  | .ok () => (session.refreshBodies exchange bodies).prune list

/-- Compute one step. -/
def step (exchange : Exchange σ α) (session : Session σ α) (context : StepContext α)
    (list : NeighborList) (bodies : Option (BodyMasses α)) :
    Except (Fault α) PassReport × Session σ α :=
  match session.checkStep context with
  | .error fault => (.error fault, session)
  | .ok timestep =>
      if context.rebuilt then
        match session.adopt exchange list bodies with
        | (.error fault, session) => (.error fault, session)
        | (.ok (), session) => session.evaluate list timestep
      else
        session.evaluate list timestep

/-- Refuse a position outside the assembly. -/
def checkPosition (session : Session σ α) (index : Nat) : Except (Fault α) Unit :=
  if session.assembly.size ≤ index then
    .error (.particleIndex index session.assembly.size)
  else
    .ok ()

/-- What the pair at two positions would do in the next step. -/
def preview (session : Session σ α) (first second : Nat) : Except (Fault α) (Preview α) := do
  let timestep ← session.requireTimestep .preview
  session.checkPosition first
  session.checkPosition second
  let firstParticle ← session.assembly.particle first
  let secondParticle ← session.assembly.particle second
  let (key, flipped) := PairKey.oriented firstParticle.tag secondParticle.tag
  let pair := Kinematics.ofParticles session.interaction.activeBodies first second
    firstParticle secondParticle
  return session.interaction.material.preview pair
    (session.interaction.ledger.getOrFresh key) flipped timestep

end Session

end GranularBonds

import GranularBonds.Decimal.Layout
import GranularBonds.Tag

/-!
# Faults

Every way in which a call can be refused, as a cause with its data.  The
wording stands in `Fault.message` alone.
-/

namespace GranularBonds

/-- A value that a message quotes: a number, or the text that should have been
one. -/
inductive Quoted (α : Type) where
  | number (value : α)
  | text (content : String)

/-- What is wrong with a parameter. -/
inductive ParameterProblem where
  | notNumber
  | notFlag
  | notFinite
  | negative
  | above (limit : Nat)
  | radius (tag : Tag)
  | mass (tag : Tag)
  | other (reason : String)

/-- What is wrong with a setup. -/
inductive SetupProblem (α : Type) where
  | particleRadius (tag : Tag) (radius : α)
  | particleMass (tag : Tag) (mass : α)
  | particleKind (tag : Tag)
  | noPairs (rows columns : String)
  | emptyTable
  | tableSize (kinds entries : Nat)
  | noKinds
  | kindCount (configured present : Nat)
  | pairsMissing
  | pairMissing (first second : Nat)
  | other (reason : String)

/-- What the surrounding simulation has to provide. -/
inductive Capability where
  | ghostVelocities
  | other (name : String)

/-- The calls that have to wait for the setup. -/
inductive Call where
  | cutoff
  | timestep
  | bonds
  | step
  | preview

/-- How a call came at the wrong time. -/
inductive PhaseProblem (α : Type) where
  | beforeSetup (call : Call)
  | beforeBonds
  | bondsTwice
  | staleTimestep (offered expected : α)
  | other (reason : String)

/-- Why a checkpoint cannot be used. -/
inductive CheckpointProblem (α : Type) where
  | unreadable
  | table (problem : SetupProblem α)
  | other (reason : String)

/-- The cause of a refused call. -/
inductive Fault (α : Type) where
  | parameter (name : String) (value : Quoted α) (problem : ParameterProblem)
  | settingsCount (expected actual : Nat)
  | timestep (value : α)
  | setup (problem : SetupProblem α)
  | capability (missing : Capability)
  | kindRange (range : String) (kinds : Nat)
  | particleIndex (index count : Nat)
  | phase (problem : PhaseProblem α)
  | checkpoint (problem : CheckpointProblem α)
  /-- A position past the end of a list was asked for, against the promise of
  the caller. -/
  | outOfBounds

namespace Fault

/-- Whether the fault lies in the configuration and not in the course of the
run. -/
def isConfiguration {α : Type} : Fault α → Bool
  | parameter .. | settingsCount .. | timestep .. | setup .. | capability .. | kindRange .. => true
  | particleIndex .. | phase .. | checkpoint .. | outOfBounds => false

end Fault

/-- Text of a number in a message. -/
def numberText (value : Float) : String := Layout.message.floatText value

namespace Quoted

def message : Quoted Float → String
  | number value => numberText value
  | text content => content

end Quoted

namespace ParameterProblem

def message : ParameterProblem → String
  | notNumber => "not a number"
  | notFlag => "must be 0 or 1"
  | notFinite => "must be finite"
  | negative => "must be non-negative"
  | above limit => s!"must not exceed {limit}"
  | radius tag => tag.text ++ " must have a positive radius"
  | mass tag => tag.text ++ " must have a positive mass"
  | other reason => reason

end ParameterProblem

namespace SetupProblem

def message : SetupProblem Float → String
  | particleRadius tag radius => tag.text ++ " has invalid radius " ++ numberText radius
  | particleMass tag mass => tag.text ++ " has invalid mass " ++ numberText mass
  | particleKind tag => tag.text ++ " has type 0 (types start at 1)"
  | noPairs rows columns => s!"type ranges `{rows}` x `{columns}` select no pairs"
  | emptyTable => "type-pair table has no types"
  | tableSize kinds entries => s!"type-pair table for {kinds} types has {entries} entries"
  | noKinds => "at least one particle type is required"
  | kindCount configured present =>
      s!"style has {configured} particle types, store has {present}"
  | pairsMissing => "not all pair coefficients are set"
  | pairMissing first second => s!"coefficients for types {first} and {second} are not set"
  | other reason => reason

end SetupProblem

namespace Capability

def message : Capability → String
  | ghostVelocities => "ghost particles must carry velocities"
  | other name => name

end Capability

namespace PhaseProblem

def message : PhaseProblem Float → String
  | beforeSetup .cutoff => "init_one called before init_style"
  | beforeSetup .timestep => "reset_dt called before init_style"
  | beforeSetup .bonds => "bonds initialized before init_style"
  | beforeSetup .step => "compute called before init_style"
  | beforeSetup .preview => "single called before init_style"
  | beforeBonds => "compute called before bond initialization"
  | bondsTwice => "bonds already initialized for this run"
  | staleTimestep offered expected =>
      "step timestep " ++ numberText offered ++ " differs from " ++ numberText expected
        ++ "; call reset_dt first"
  | other reason => reason

end PhaseProblem

/-- Message of a setup that is refused. -/
def setupMessage (problem : SetupProblem Float) : String :=
  "invalid configuration: " ++ problem.message

namespace CheckpointProblem

def message : CheckpointProblem Float → String
  | unreadable => "the text is not a checkpoint"
  | table problem => setupMessage problem
  | other reason => reason

end CheckpointProblem

namespace Fault

/-- The text that a refused call reports. -/
def message : Fault Float → String
  | parameter name value problem =>
      s!"invalid parameter `{name}` = " ++ value.message ++ ": " ++ problem.message
  | settingsCount expected actual => s!"expected {expected} settings, got {actual}"
  | timestep value =>
      "invalid timestep: " ++ numberText value ++ " (must be positive and finite)"
  | setup problem => setupMessage problem
  | capability missing => "missing capability: " ++ missing.message
  | kindRange range kinds => s!"invalid type range `{range}` for {kinds} particle types"
  | particleIndex index count => s!"particle index {index} out of range (len {count})"
  | phase problem => "lifecycle error: " ++ problem.message
  | checkpoint problem => "restart error: " ++ problem.message
  | outOfBounds => "position out of bounds"

end Fault

end GranularBonds

import GranularBonds.Archive.Form
import GranularBonds.Assembly
import GranularBonds.Contact.PairKey
import GranularBonds.Contact.Record
import GranularBonds.Species.PairTable
import GranularBonds.Timestep

/-!
# Forms of the library's types

The JSON forms of materials, contacts, particles, run settings and pair
tables.  A form decides nothing about the meaning of what it reads; that is
left to the checks of the types.
-/

namespace GranularBonds.Archive

open Json (Value)

namespace Form

/-- First number past the counts of an archive. -/
def wordLimit : Nat := Nat.pow 2 64

/-- First number past the break counters of a record. -/
def counterLimit : Nat := Nat.pow 2 32

def materialFields : Form (List Value) :=
  fields ["normal_stiffness", "tangential_stiffness", "normal_damping", "tangential_damping",
    "friction_coefficient", "damping_enabled", "tensile_strength", "cohesive_shear_strength",
    "enlarge_factor"]

def material : Form (Material Float) where
  write := fun material =>
    materialFields.write
      [float.write material.normalStiffness, float.write material.tangentialStiffness,
       float.write material.normalDamping, float.write material.tangentialDamping,
       float.write material.friction, flag.write material.damped,
       float.write material.tensileStrength, float.write material.shearStrength,
       float.write material.reach]
  read? := fun value =>
    match materialFields.read? value with
    | some [normalStiffness, tangentialStiffness, normalDamping, tangentialDamping, friction,
        damped, tensileStrength, shearStrength, reach] => do
        return {
          normalStiffness := ← float.read? normalStiffness
          tangentialStiffness := ← float.read? tangentialStiffness
          normalDamping := ← float.read? normalDamping
          tangentialDamping := ← float.read? tangentialDamping
          friction := ← float.read? friction
          damped := ← flag.read? damped
          tensileStrength := ← float.read? tensileStrength
          shearStrength := ← float.read? shearStrength
          reach := ← float.read? reach }
    | _ => none

def bondState : Form BondState := choice BondState.name BondState.all

/-- A tensile limit is written as its distance; one that no distance reaches
is not finite. -/
def tensileLimit : Form (TensileLimit Float) where
  write := fun
    | .bounded distance => float.write distance
    | .unbounded => .null
  read? := fun value => (float.read? value).map .bounded

def recordFields : Form (List Value) :=
  fields ["touching", "shear", "bond", "initial_gap", "tensile_limit", "shear_break_count",
    "tensile_break_count"]

def record : Form (ContactRecord Float) where
  write := fun record =>
    recordFields.write
      [flag.write record.touching, vector.write record.shear, bondState.write record.bond,
       float.write record.initialGap, tensileLimit.write record.tensileLimit,
       (count counterLimit).write record.shearBreaks,
       (count counterLimit).write record.tensileBreaks]
  read? := fun value =>
    match recordFields.read? value with
    | some [touching, shear, bond, initialGap, limit, shearBreaks, tensileBreaks] => do
        return {
          touching := ← flag.read? touching
          shear := ← vector.read? shear
          bond := ← bondState.read? bond
          initialGap := ← float.read? initialGap
          tensileLimit := ← tensileLimit.read? limit
          shearBreaks := ← (count counterLimit).read? shearBreaks
          tensileBreaks := ← (count counterLimit).read? tensileBreaks }
    | _ => none

def tag : Form Tag where
  write := fun tag => (count wordLimit).write tag.number
  read? := fun value => ((count wordLimit).read? value).map Tag.mk

def pairKeyFields : Form (List Value) := fields ["low", "high"]

def pairKey : Form PairKey where
  write := fun key => pairKeyFields.write [tag.write key.low, tag.write key.high]
  read? := fun value =>
    match pairKeyFields.read? value with
    | some [low, high] => do
        return { low := ← tag.read? low, high := ← tag.read? high }
    | _ => none

def runSetupFields : Form (List Value) := fields ["timestep", "newton_pair", "ghost_velocity"]

def runSetup : Form (RunSetup Float) where
  write := fun setup =>
    runSetupFields.write
      [float.write setup.timestep, flag.write setup.loadsBoth,
       flag.write setup.ghostVelocities]
  read? := fun value =>
    match runSetupFields.read? value with
    | some [timestep, loadsBoth, ghostVelocities] => do
        return {
          timestep := ← float.read? timestep
          loadsBoth := ← flag.read? loadsBoth
          ghostVelocities := ← flag.read? ghostVelocities }
    | _ => none

def stepContextFields : Form (List Value) := fields ["step", "dt", "neighbors_rebuilt"]

def stepContext : Form (StepContext Float) where
  write := fun context =>
    stepContextFields.write
      [(count wordLimit).write context.step, float.write context.timestep,
       flag.write context.rebuilt]
  read? := fun value =>
    match stepContextFields.read? value with
    | some [step, timestep, rebuilt] => do
        return {
          step := ← (count wordLimit).read? step
          timestep := ← float.read? timestep
          rebuilt := ← flag.read? rebuilt }
    | _ => none

def particleFields : Form (List Value) :=
  fields ["tag", "kind", "position", "velocity", "angular_velocity", "radius", "mass",
    "frozen", "force", "torque"]

def particle : Form (Particle Float) where
  write := fun particle =>
    particleFields.write
      [tag.write particle.tag, (count wordLimit).write particle.kind,
       vector.write particle.position, vector.write particle.velocity,
       vector.write particle.spin, float.write particle.radius, float.write particle.mass,
       flag.write particle.frozen, vector.write particle.force, vector.write particle.torque]
  read? := fun value =>
    match particleFields.read? value with
    | some [identity, kind, position, velocity, spin, radius, mass, frozen, force, torque] => do
        return {
          tag := ← tag.read? identity
          kind := ← (count wordLimit).read? kind
          position := ← vector.read? position
          velocity := ← vector.read? velocity
          spin := ← vector.read? spin
          radius := ← float.read? radius
          mass := ← float.read? mass
          frozen := ← flag.read? frozen
          force := ← vector.read? force
          torque := ← vector.read? torque }
    | _ => none

def assemblyFields : Form (List Value) := fields ["particles", "local_count", "ntypes"]

def assembly : Form (Assembly Float) where
  write := fun assembly =>
    assemblyFields.write
      [(list particle).write assembly.particles, (count wordLimit).write assembly.ownedCount,
       word.write assembly.kindWord]
  read? := fun value =>
    match assemblyFields.read? value with
    | some [particles, ownedCount, kinds] => do
        return {
          particles := ← (list particle).read? particles
          ownedCount := ← (count wordLimit).read? ownedCount
          kindWord := ← word.read? kinds }
    | _ => none

def pairTableFields : Form (List Value) := fields ["ntypes", "configured"]

def pairTable : Form PairTable where
  write := fun table =>
    pairTableFields.write [word.write table.kindWord, (list flag).write table.flags.toList]
  read? := fun value =>
    match pairTableFields.read? value with
    | some [kinds, flags] => do
        return { kindWord := ← word.read? kinds, flags := (← (list flag).read? flags).toArray }
    | _ => none

end Form

end GranularBonds.Archive

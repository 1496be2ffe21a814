import GranularBonds.Decimal.Layout
import GranularBonds.Interaction

/-!
# Descriptions

One line of text about an interaction, for logs.
-/

namespace GranularBonds.Interaction

/-- Text of a number in a description. -/
def describeNumber (value : Float) : String := Layout.description.floatText value

/-- Text of a truth value in a description. -/
def describeFlag (value : Bool) : String := if value then "true" else "false"

/-- Text of a number that may be missing. -/
def describeOption : Option Float → String
  | some value => "Some(" ++ describeNumber value ++ ")"
  | none => "None"

/-- Named parts of a structure, of which the last may stand for all others. -/
def describeParts (name : String) (parts : List (String × String)) (others : Bool) : String :=
  let shown := parts.map (fun part => part.1 ++ ": " ++ part.2) ++ (if others then [".."] else [])
  name ++ " \x7b " ++ ", ".intercalate shown ++ " \x7d"

/-- Description of a material. -/
def describeMaterial (material : Material Float) : String :=
  describeParts "CohesiveParams"
    [("normal_stiffness", describeNumber material.normalStiffness),
     ("tangential_stiffness", describeNumber material.tangentialStiffness),
     ("normal_damping", describeNumber material.normalDamping),
     ("tangential_damping", describeNumber material.tangentialDamping),
     ("friction_coefficient", describeNumber material.friction),
     ("damping_enabled", describeFlag material.damped),
     ("tensile_strength", describeNumber material.tensileStrength),
     ("cohesive_shear_strength", describeNumber material.shearStrength),
     ("enlarge_factor", describeNumber material.reach)]
    false

/-- Description of an interaction. -/
def describe (interaction : Interaction Float) : String :=
  describeParts "CohesivePairStyle"
    [("params", describeMaterial interaction.material),
     ("ntypes", toString interaction.table.kinds),
     ("contacts", toString interaction.ledger.size),
     ("timestep", describeOption interaction.timestep),
     ("bonds_formed", describeFlag interaction.bondsFormed)]
    true

end GranularBonds.Interaction

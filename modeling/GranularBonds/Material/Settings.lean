import GranularBonds.Decimal.Grammar
import GranularBonds.Material
import GranularBonds.Text.Blank
import GranularBonds.Text.Count

/-!
# Material settings

The nine texts that set up a material, in their fixed order: normal and
tangential stiffness, normal and tangential damping, friction, the damping
flag, tensile strength, shear strength, and reach.  `NULL` stands for a
tangential constant that follows from the normal one.
-/

namespace GranularBonds.Material

/-- How many settings a material has. -/
def settingsCount : Nat := 9

/-- The number that a setting gives to a constant. -/
def readNumber (name : String) (setting : List Char) : Except (Fault Float) Float :=
  match Grammar.number? setting with
  | some value => .ok value
  | none => .error (.parameter name (.text (String.ofList setting)) .notNumber)

/-- The number that a setting gives, or the derived one if it leaves it open. -/
def readOrDerive (name : String) (setting : List Char) (derived : Float) :
    Except (Fault Float) Float :=
  if setting == "NULL".toList then .ok derived else readNumber name setting

/-- Whether a setting turns the damping on. -/
def readFlag (setting : List Char) : Except (Fault Float) Bool :=
  match Text.flag? setting with
  | some flag => .ok flag
  | none => .error (.parameter "damping_flag" (.text (String.ofList setting)) .notFlag)

/-- Read the nine settings, from the first to the last, and examine the
constants that result.  With the damping turned off the tangential damping is
zero, whatever its setting says. -/
def ofSettings (settings : List String) : Except (Fault Float) (Material Float) :=
  match settings.map Text.trimmed with
  | [normalStiffness, tangentialStiffness, normalDamping, tangentialDamping, friction,
      flag, tensileStrength, shearStrength, reach] => do
      let normalStiffness ← readNumber "normal_stiffness" normalStiffness
      let tangentialStiffness ←
        readOrDerive "tangential_stiffness" tangentialStiffness (normalStiffness * 2 / 7)
      let normalDamping ← readNumber "normal_damping" normalDamping
      let tangentialDamping ←
        readOrDerive "tangential_damping" tangentialDamping (0.5 * normalDamping)
      let friction ← readNumber "friction_coefficient" friction
      let damped ← readFlag flag
      let tensileStrength ← readNumber "tensile_strength" tensileStrength
      let shearStrength ← readNumber "cohesive_shear_strength" shearStrength
      let reach ← readNumber "enlarge_factor" reach
      let material : Material Float :=
        { normalStiffness, tangentialStiffness, normalDamping
          tangentialDamping := if damped then tangentialDamping else 0
          friction, damped, tensileStrength, shearStrength, reach }
      material.validate
      return material
  | settings => .error (.settingsCount settingsCount settings.length)

end GranularBonds.Material

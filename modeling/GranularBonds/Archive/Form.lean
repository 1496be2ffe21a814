import GranularBonds.Json.Value
import GranularBonds.Vec3

/-!
# Forms

A form says how values of one type stand in a JSON text, in both directions.
A structure stands there as an object with its fields by name, and is read
also from an array of all its fields in order.
-/

namespace GranularBonds.Archive

open Json (Value Key)

/-- The JSON form of a type. -/
structure Form (β : Type) where
  write : β → Value
  read? : Value → Option β

namespace Form

/-- Truth values. -/
def flag : Form Bool where
  write := .bool
  read? := fun
    | .bool value => some value
    | _ => none

/-- Numbers with a point.  What is not finite is written as null, and null is
not read back; a numeral too large for a finite number is not read either. -/
def float : Form Float where
  write := fun value =>
    match Numeral.ofFloat? value with
    | some numeral => .number numeral
    | none => .null
  read? := fun
    | .number numeral => if numeral.toFloat.isFinite then some numeral.toFloat else none
    | _ => none

/-- Natural numbers below a limit. -/
def count (limit : Nat) : Form Nat where
  write := fun value => .number (.ofNat value)
  read? := fun
    | .number numeral => numeral.toNat? limit
    | _ => none

/-- Words of 64 bits. -/
def word : Form UInt64 where
  write := fun value => .number (.ofNat value.toNat)
  read? := fun
    | .number numeral => (numeral.toNat? (Nat.pow 2 64)).map UInt64.ofNat
    | _ => none

/-- Lists, as arrays. -/
def list {β : Type} (item : Form β) : Form (List β) where
  write := fun values => .array (values.map item.write)
  read? := fun
    | .array items => items.mapM item.read?
    | _ => none

/-- Vectors, as arrays of their components. -/
def vector : Form (Vec3 Float) where
  write := fun vector =>
    .array [float.write vector.x, float.write vector.y, float.write vector.z]
  read? := fun
    | .array [x, y, z] => do
        let x ← float.read? x
        let y ← float.read? y
        let z ← float.read? z
        return ⟨x, y, z⟩
    | _ => none

/-- A choice among named values: the name alone, or an object with the name as
its only key and null under it. -/
def choice {β : Type} (name : β → String) (options : List β) : Form β where
  write := fun value => .string (some (name value))
  read? := fun
    | .string (some text) => options.find? fun option => name option == text
    | .object [(some key, .null)] => options.find? fun option => name option == key
    | _ => none

/-- The only member of a name. -/
def member? (members : List (String × Value)) (name : String) : Option Value :=
  match members.filter fun member => member.1 == name with
  | [member] => some member.2
  | _ => none

/-- The fields of a structure, in their order.  In an object they may come in
any order and among others, but each exactly once, and every key must be
decodable. -/
def fields (names : List String) : Form (List Value) where
  write := fun values => .object ((names.map some).zip values)
  read? := fun
    | .array items => if items.length = names.length then some items else none
    | .object members => do
        let members ← members.mapM fun (key, value) => key.map (·, value)
        names.mapM (member? members)
    | _ => none

end Form

end GranularBonds.Archive

import GranularBonds.Archive.Parts

/-!
# Checkpoints

What a run needs to be taken up again: the material and the pair table.
Contacts are not part of it; bonds form anew when the run goes on.
-/

namespace GranularBonds

/-- The persistent state of an interaction. -/
structure Checkpoint where
  material : Material Float
  table : PairTable

namespace Checkpoint

open Archive

def fields : Form (List Json.Value) := Form.fields ["params", "type_pairs"]

/-- The JSON form of a checkpoint. -/
def form : Form Checkpoint where
  write := fun checkpoint =>
    fields.write
      [Form.material.write checkpoint.material, Form.pairTable.write checkpoint.table]
  read? := fun value =>
    match fields.read? value with
    | some [material, table] => do
        return { material := ← Form.material.read? material, table := ← Form.pairTable.read? table }
    | _ => none

/-- The text of a checkpoint. -/
def write (checkpoint : Checkpoint) : String := (form.write checkpoint).write

/-- The reason for which a pair table of a checkpoint is refused. -/
def tableFault : Fault Float → Fault Float
  | .setup problem => .checkpoint (.table problem)
  | fault => fault

/-- Read a checkpoint, and refuse a material or a pair table that a run could
not have. -/
def read (text : String) : Except (Fault Float) Checkpoint :=
  match (Json.Value.read? text).bind form.read? with
  | none => .error (.checkpoint .unreadable)
  | some checkpoint => do
      checkpoint.material.validate
      (checkpoint.table.validate).mapError tableFault
      return checkpoint

end Checkpoint

end GranularBonds

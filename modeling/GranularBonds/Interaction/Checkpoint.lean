import GranularBonds.Archive.Checkpoint
import GranularBonds.Interaction

/-!
# Interactions and checkpoints

An interaction that is taken up from a checkpoint starts over: what was
configured is kept, the setup and the bonds have to be made again.
-/

namespace GranularBonds.Interaction

/-- What of an interaction is persistent. -/
def checkpoint (interaction : Interaction Float) : Checkpoint :=
  ⟨interaction.material, interaction.table⟩

/-- Take up an interaction. -/
def ofCheckpoint (checkpoint : Checkpoint) : Except (Fault Float) (Interaction Float) := do
  checkpoint.table.validate
  let interaction ← create checkpoint.material checkpoint.table.kindWord
  return { interaction with table := checkpoint.table }

/-- Take up an interaction from the text of a checkpoint. -/
def readCheckpoint (text : String) : Except (Fault Float) (Interaction Float) := do
  let checkpoint ← Checkpoint.read text
  ofCheckpoint checkpoint

end GranularBonds.Interaction

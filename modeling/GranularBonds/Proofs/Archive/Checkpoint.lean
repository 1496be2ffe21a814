import GranularBonds.Proofs.Archive.Form
import GranularBonds.Proofs.Session.Lifecycle

/-!
# Taking up a run

What a run leaves in a checkpoint is all that a checkpoint is read for.  A text
is refused by the reader of checkpoints or not at all: what passes its checks
can be taken up, and be written and read again.  Main statement: the material
and the pair table survive, and everything else begins anew; a table of so many
kinds that its flags are not a square is written, but not read.
-/

namespace GranularBonds

open Archive.Form (RestoresAll)

namespace Checkpoint

/-- What the two checks of a checkpoint establish. -/
structure Valid (checkpoint : Checkpoint) : Prop where
  material : checkpoint.material.validate = .ok ()
  table : (checkpoint.table.validate : Except (Fault Float) Unit) = .ok ()

theorem mapError_eq_ok_iff {ε δ γ : Type} {change : ε → δ} {answer : Except ε γ} {result : γ} :
    answer.mapError change = .ok result ↔ answer = .ok result := by
  cases answer <;> simp [Except.mapError]

/-- A checkpoint is read if its text says it and its checks pass. -/
theorem read_eq_ok_iff {text : String} {checkpoint : Checkpoint} :
    read text = .ok checkpoint ↔
      (Json.Value.read? text).bind form.read? = some checkpoint ∧ checkpoint.Valid := by
  unfold read
  cases (Json.Value.read? text).bind form.read? with
  | none => exact ⟨nofun, nofun⟩
  | some found =>
      constructor
      · intro accepted
        rcases bind_eq_ok_iff.mp accepted with ⟨_, material, rest⟩
        rcases bind_eq_ok_iff.mp rest with ⟨_, table, same⟩
        cases same
        exact ⟨rfl, material, mapError_eq_ok_iff.mp table⟩
      · intro valid
        rcases valid with ⟨same, material, table⟩
        cases same
        simp only [material, table, bind, Except.bind, Except.mapError]
        rfl

/-- A valid checkpoint is read back if its numbers are. -/
theorem read_write {checkpoint : Checkpoint} (valid : checkpoint.Valid)
    (restores : RestoresAll checkpoint.material) : read checkpoint.write = .ok checkpoint :=
  read_eq_ok_iff.mpr ⟨(Archive.Form.readsBack_checkpoint restores).restores, valid⟩

/-- A table that is not a square is written, and refused when it is read. -/
theorem read_write_of_not_square {checkpoint : Checkpoint}
    (material : checkpoint.material.validate = .ok ()) (some : 1 ≤ checkpoint.table.kinds)
    (flagless : ¬checkpoint.table.Square) (restores : RestoresAll checkpoint.material) :
    read checkpoint.write = .error (.checkpoint
      (.table (.tableSize checkpoint.table.kinds checkpoint.table.flags.size))) := by
  have found : (Json.Value.read? checkpoint.write).bind form.read? = Option.some checkpoint :=
    (Archive.Form.readsBack_checkpoint restores).restores
  have refused := PairTable.validate_eq_error (α := Float) some flagless
  simp only [read, found, material, refused, bind, Except.bind, Except.mapError, tableFault]

end Checkpoint

namespace Interaction

/-- A valid checkpoint can be taken up. -/
theorem ofCheckpoint_eq {checkpoint : Checkpoint} (valid : checkpoint.Valid) :
    ofCheckpoint checkpoint = .ok (.start checkpoint.material checkpoint.table) := by
  have kinds := (PairTable.validate_eq_ok_iff.mp valid.table).1
  have some : checkpoint.table.kindWord ≠ 0 := by
    intro none
    rw [PairTable.kinds, none] at kinds
    cases kinds
  simp only [ofCheckpoint, create, valid.table, valid.material, bind, Except.bind, if_neg some]
  rfl

/-- The reader of checkpoints decides alone which texts can be taken up. -/
theorem readCheckpoint_eq (text : String) :
    readCheckpoint text =
      (Checkpoint.read text).map fun checkpoint => .start checkpoint.material checkpoint.table := by
  cases read : Checkpoint.read text with
  | error fault => simp only [readCheckpoint, read]; rfl
  | ok checkpoint =>
      have valid := (Checkpoint.read_eq_ok_iff.mp read).2
      simp only [readCheckpoint, read, bind, Except.bind, ofCheckpoint_eq valid]
      rfl

/-- An interaction with everything that another one had configured, at the
beginning of its life. -/
structure TakesUp (restored interaction : Interaction Float) : Prop where
  material : restored.material = interaction.material
  table : restored.table = interaction.table
  timestep : restored.timestep = none
  bonds : restored.bondsFormed = false
  ledger : restored.ledger = .empty

end Interaction

namespace Session

variable {σ : Type}

/-- A session in order leaves a valid checkpoint, if there are not too many
kinds. -/
theorem valid_checkpoint {session : Session σ Float} (orderly : session.status.Orderly)
    (bound : session.interaction.table.kinds < UInt32.size) :
    session.interaction.checkpoint.Valid where
  material := orderly.material
  table := PairTable.validate_eq_ok_iff.mpr ⟨orderly.kinds, orderly.flags.square_iff.mpr bound⟩

/-- A session with more kinds leaves a checkpoint that is not taken up. -/
theorem readCheckpoint_of_many {session : Session σ Float} (orderly : session.status.Orderly)
    (many : UInt32.size ≤ session.interaction.table.kinds)
    (restores : RestoresAll session.interaction.material) :
    Interaction.readCheckpoint session.interaction.checkpoint.write =
      .error (.checkpoint (.table (.tableSize session.interaction.table.kinds
        session.interaction.table.flags.size))) := by
  have flagless : ¬session.interaction.checkpoint.table.Square :=
    fun square => absurd square.bound (Nat.not_lt.mpr many)
  have valid : session.interaction.checkpoint.material.validate = .ok () := orderly.material
  have some : 1 ≤ session.interaction.checkpoint.table.kinds := orderly.kinds
  rw [Interaction.readCheckpoint_eq,
    Checkpoint.read_write_of_not_square valid some flagless restores]
  rfl

/-- After any run of an interaction, however constructed, it is taken up from
its checkpoint, provided that its numbers are restored and that it has fewer than
2 ^ 32 kinds; with more kinds the checkpoint is refused for the number of its
flags.  And whatever text is taken up was accepted as a checkpoint, and is written
and read again. -/
theorem takenUp_run {interaction : Interaction Float} (constructed : interaction.Constructed)
    (assembly : Assembly Float) (exchange : σ) (actions : List (Action σ Float)) :
    let session := Session.run ⟨interaction, assembly, exchange⟩ actions
    let table := session.interaction.table
    (RestoresAll session.interaction.material →
      (table.kinds < UInt32.size →
        ∃ restored, Interaction.readCheckpoint session.interaction.checkpoint.write = .ok restored ∧
          restored.TakesUp session.interaction) ∧
      (UInt32.size ≤ table.kinds →
        Interaction.readCheckpoint session.interaction.checkpoint.write =
          .error (.checkpoint (.table (.tableSize table.kinds table.flags.size))))) ∧
    ∀ text,
      ((∃ restored, Interaction.readCheckpoint text = .ok restored) ↔
        ∃ checkpoint, Checkpoint.read text = .ok checkpoint) ∧
      ∀ checkpoint, Checkpoint.read text = .ok checkpoint → checkpoint.Valid ∧
        (RestoresAll checkpoint.material → Checkpoint.read checkpoint.write = .ok checkpoint) := by
  intro session table
  have orderly := orderly_run (constructed.orderly assembly exchange) actions
  constructor
  · intro restores
    constructor
    · intro bound
      have read := Checkpoint.read_write (valid_checkpoint orderly bound) restores
      refine ⟨.start session.interaction.material session.interaction.table, ?_, rfl, rfl, rfl,
        rfl, rfl⟩
      rw [Interaction.readCheckpoint_eq, read]
      rfl
    · exact fun many => readCheckpoint_of_many orderly many restores
  · intro text
    constructor
    · rw [Interaction.readCheckpoint_eq]
      cases Checkpoint.read text with
      | error fault => exact ⟨nofun, nofun⟩
      | ok checkpoint => exact ⟨fun _ => ⟨_, rfl⟩, fun _ => ⟨_, rfl⟩⟩
    · intro checkpoint accepted
      have valid := (Checkpoint.read_eq_ok_iff.mp accepted).2
      exact ⟨valid, Checkpoint.read_write valid⟩

/-- A checkpoint with its fields in another order, numbers with exponents, and
a material that is written as an array. -/
def foreignCheckpoint : String :=
  "\x7b\"type_pairs\": \x7b\"configured\": [true], \"ntypes\": 1\x7d, \"params\": [2e5, 57142.857142857145, 50, 25, 0.5, true, 100, 1E2, 1.0]\x7d"

/-- The session that was set up is taken up with the same pair table and
without bonds, and the foreign text is written and read again. -/
theorem takenUp_run_settingUp :
    let session := Session.run ⟨.start .standard (.empty 1), touchingSpheres, ()⟩ settingUp
    (∃ restored, Interaction.readCheckpoint session.interaction.checkpoint.write = .ok restored ∧
      restored.table = session.interaction.table ∧ restored.timestep = none) ∧
    ∃ checkpoint, Checkpoint.read foreignCheckpoint = .ok checkpoint ∧
      Checkpoint.read checkpoint.write = .ok checkpoint := by
  intro session
  obtain ⟨takenUp, texts⟩ := takenUp_run constructed_standard touchingSpheres () settingUp
  have standard : RestoresAll session.interaction.material := by decide +kernel
  constructor
  · have bound : session.interaction.table.kinds < UInt32.size := by decide +kernel
    rcases (takenUp standard).1 bound with ⟨restored, read, same⟩
    exact ⟨restored, read, same.table, same.timestep⟩
  · have found : (Checkpoint.read foreignCheckpoint).toOption.any
        (fun checkpoint => decide (RestoresAll checkpoint.material)) = true := by decide +kernel
    cases read : Checkpoint.read foreignCheckpoint with
    | error fault => rw [read] at found; cases found
    | ok checkpoint =>
        rw [read] at found
        have restores : RestoresAll checkpoint.material := of_decide_eq_true found
        exact ⟨checkpoint, rfl, ((texts _).2 checkpoint read).2 restores⟩

/-- The checkpoint of a new interaction with 2 ^ 32 kinds, whose numbers are all
restored, is not taken up. -/
theorem not_takenUp_wideKinds :
    let interaction : Interaction Float := .start .standard (.empty 4294967296)
    interaction.Constructed ∧ RestoresAll interaction.material ∧
      ¬∃ restored, Interaction.readCheckpoint interaction.checkpoint.write = .ok restored := by
  intro interaction
  have made : Interaction.create (.standard : Material Float) 4294967296 = .ok interaction := rfl
  have restores : RestoresAll interaction.material := by decide +kernel
  let session : Session Unit Float := ⟨interaction, touchingSpheres, ()⟩
  have orderly : session.status.Orderly := Interaction.orderly_of_create made touchingSpheres ()
  have refused := readCheckpoint_of_many orderly (by decide +kernel) restores
  refine ⟨.created made, restores, fun taken => ?_⟩
  rcases taken with ⟨restored, read⟩
  cases read.symm.trans refused

end Session

end GranularBonds

import GranularBonds.Proofs.Binary64
import GranularBonds.Proofs.Neighbors
import GranularBonds.Proofs.Session.Acceptance
import GranularBonds.Proofs.Session.BondLife

/-!
# The lifecycle of a session

A session is first configured, then set up, and then bonded; only a bonded one
computes steps.  What decides whether a call is accepted is a small part of
its state, and that part follows from the calls that were accepted before.
Main statement: after any run the calls that are accepted are told exactly by
the transcript of the run and the arguments of the call.
-/

namespace GranularBonds

/-- The part of a session that decides which calls it accepts. -/
structure Status (α : Type) where
  material : Material α
  table : PairTable
  timestep : Option α
  bondsFormed : Bool

namespace Session

variable {σ α : Type}

/-- The status of a session. -/
def status (session : Session σ α) : Status α where
  material := session.interaction.material
  table := session.interaction.table
  timestep := session.interaction.timestep
  bondsFormed := session.interaction.bondsFormed

/-- An action with its answer. -/
abbrev Event (σ α : Type) := Action σ α × Reply α

namespace Event

/-- Whether the event is a setup that was accepted. -/
def isSetUp : Event σ α → Bool
  | (.setUp _ _, reply) => reply.isAccepted
  | _ => false

/-- Whether the event is a bonding that was accepted. -/
def isBonding : Event σ α → Bool
  | (.formBonds _, reply) => reply.isAccepted
  | _ => false

/-- The step length that the event fixed: that of an accepted setup, or of an
accepted change. -/
def timestep? : Event σ α → Option α
  | (.setUp _ setup, reply) => if reply.isAccepted then some setup.timestep else none
  | (.resetTimestep timestep, reply) => if reply.isAccepted then some timestep else none
  | _ => none

end Event

/-- The step length that was fixed last. -/
def lastTimestep (events : List (Event σ α)) : Option α :=
  (events.filterMap Event.timestep?).getLast?

/-- A setup was accepted. -/
def WasSetUp (events : List (Event σ α)) : Prop := ∃ event ∈ events, event.isSetUp = true

/-- A bonding was accepted. -/
def WasBonded (events : List (Event σ α)) : Prop := ∃ event ∈ events, event.isBonding = true

variable [Scalar α]

/-! ## What an action does to the status -/

/-- What an event can do to the status of a session. -/
inductive Advance (session : Session σ α) : Event σ α → Status α → Prop where
  /-- Most calls leave it alone, and so do refused ones. -/
  | kept {event : Event σ α} :
      event.isSetUp = false → event.isBonding = false → event.timestep? = none →
      Advance session event session.status
  | configured {rows columns : String} {count : Nat} {table : PairTable} :
      session.interaction.table.Grows table →
      Advance session (.configure rows columns, .count (.ok count))
        { session.status with table }
  | setUp {exchange : Exchange σ α} {setup : RunSetup α} :
      session.checkSetup setup = .ok () →
      Advance session (.setUp exchange setup, .done (.ok ()))
        { session.status with timestep := some setup.timestep }
  | reset {timestep : α} :
      session.interaction.timestep.isSome = true → Scalar.isUsable timestep = true →
      Advance session (.resetTimestep timestep, .done (.ok ()))
        { session.status with timestep := some timestep }
  | bonded {list : NeighborList} {report : BondingReport} :
      session.interaction.timestep.isSome = true →
      Advance session (.formBonds list, .bonding (.ok report))
        { session.status with bondsFormed := true }

theorem status_prepared (exchange : Exchange σ α) (session : Session σ α)
    (context : StepContext α) (list : NeighborList) (bodies : Option (BodyMasses α)) :
    (session.prepared exchange context list bodies).status = session.status := by
  unfold prepared
  split
  · cases bodies <;> rfl
  · rfl

/-- Every action advances the status in one of these ways. -/
theorem perform_advance (session : Session σ α) (action : Action σ α) :
    session.Advance (action, (session.perform action).1) (session.perform action).2.status := by
  cases action with
  | announce | cutoff | preview | place => exact .kept rfl rfl rfl
  | configure rows columns =>
      simp only [perform, configure]
      split
      case h_1 => exact .kept rfl rfl rfl
      case h_2 count table assigned => exact .configured (PairTable.grows_assign assigned)
  | setUp exchange setup =>
      simp only [perform, Session.setUp]
      split
      case h_1 => exact .kept rfl rfl rfl
      case h_2 checked => exact .setUp checked
  | resetTimestep timestep =>
      have allowed :
          (session.perform (.resetTimestep timestep)).1.isAccepted = true ↔ _ :=
        isAccepted_resetTimestep_iff
      simp only [perform, resetTimestep] at allowed ⊢
      split
      case h_1 => exact .kept rfl rfl rfl
      case h_2 checked =>
        rw [checked] at allowed
        exact .reset (allowed.mp rfl).1 (allowed.mp rfl).2
  | formBonds list =>
      have allowed : (session.perform (.formBonds list)).1.isAccepted = true ↔ _ :=
        isAccepted_formBonds_iff
      rcases session.formBonds_cases list with ⟨fault, refused⟩ | ⟨-, -, formed⟩
      · simp only [perform, refused]
        exact .kept rfl rfl rfl
      · simp only [perform, formed] at allowed ⊢
        exact .bonded (allowed.mp rfl).1
  | step exchange context list bodies =>
      have prepared := session.status_prepared exchange context list bodies
      rcases session.step_cases exchange context list bodies with
        ⟨fault, refused⟩ | ⟨timestep, -, -, ⟨fault, stopped⟩ | ⟨-, advanced⟩⟩
      · simp only [perform, refused]
        exact .kept rfl rfl rfl
      · simp only [perform, stopped]
        exact prepared ▸ .kept rfl rfl rfl
      · simp only [perform, advanced]
        exact prepared ▸ .kept rfl rfl rfl

namespace Advance

variable {session : Session σ α} {event : Event σ α} {after : Status α}

theorem timestep (advance : session.Advance event after) :
    after.timestep = event.timestep?.or session.interaction.timestep := by
  cases advance with
  | kept _ _ unfixed => rw [unfixed]; rfl
  | configured | setUp | reset | bonded => rfl

theorem isSome_timestep (advance : session.Advance event after) :
    after.timestep.isSome = (session.interaction.timestep.isSome || event.isSetUp) := by
  cases advance with
  | kept unset => rw [unset, Bool.or_false]; rfl
  | configured | bonded => exact (Bool.or_false _).symm
  | setUp => exact (Bool.or_true _).symm
  | reset known => rw [known]; rfl

theorem bondsFormed (advance : session.Advance event after) :
    after.bondsFormed = (session.interaction.bondsFormed || event.isBonding) := by
  cases advance with
  | kept _ unbonded => rw [unbonded, Bool.or_false]; rfl
  | configured | setUp | reset => exact (Bool.or_false _).symm
  | bonded => exact (Bool.or_true _).symm

end Advance

/-! ## The status in a run -/

/-- A status is the one that a transcript tells. -/
structure Told (events : List (Event σ α)) (status : Status α) : Prop where
  timestep : status.timestep = lastTimestep events
  setUp : status.timestep.isSome = true ↔ WasSetUp events
  bonded : status.bondsFormed = true ↔ WasBonded events

omit [Scalar α] in
theorem lastTimestep_concat (events : List (Event σ α)) (event : Event σ α) :
    lastTimestep (events ++ [event]) = event.timestep?.or (lastTimestep events) := by
  unfold lastTimestep
  cases fixed : event.timestep? <;> simp [fixed]

/-- One more event tells how the status goes on. -/
theorem Told.concat {session : Session σ α} {events : List (Event σ α)} {event : Event σ α}
    {after : Status α} (told : Told events session.status)
    (advance : session.Advance event after) : Told (events ++ [event]) after where
  timestep := by
    rw [lastTimestep_concat, advance.timestep, ← told.timestep]
    rfl
  setUp := by
    have before : session.interaction.timestep.isSome = true ↔ WasSetUp events := told.setUp
    rw [advance.isSome_timestep, Bool.or_eq_true, before]
    simp [WasSetUp, or_and_right, exists_or]
  bonded := by
    have before : session.interaction.bondsFormed = true ↔ WasBonded events := told.bonded
    rw [advance.bondsFormed, Bool.or_eq_true, before]
    simp [WasBonded, or_and_right, exists_or]

/-- The transcript of a run tells the status after it. -/
theorem told_run {session : Session σ α} {events : List (Event σ α)}
    (told : Told events session.status) (actions : List (Action σ α)) :
    Told (events ++ session.transcript actions) (session.run actions).status := by
  induction actions generalizing session events with
  | nil => simpa [transcript] using told
  | cons action later ih =>
      have rest := ih (told.concat (session.perform_advance action))
      rwa [List.append_assoc] at rest

end Session

/-! ## Order in a run -/

/-- What holds of the status of a session at every point of a run. -/
structure Status.Orderly (status : Status Float) : Prop where
  material : status.material.validate = .ok ()
  kinds : 1 ≤ status.table.kinds
  /-- The flags are as many as the product of the kinds, which is taken in words. -/
  flags : status.table.WordSquare
  timestep : ∀ timestep, status.timestep = some timestep →
    timestep.isFinite = true ∧ 0 < timestep ∧ status.table.Full
  bonded : status.bondsFormed = true → status.timestep.isSome = true

namespace Interaction

variable {σ : Type}

theorem valid_of_create {material : Material Float} {kinds : UInt64}
    {interaction : Interaction Float} (made : create material kinds = .ok interaction) :
    material.validate = .ok () ∧ 1 ≤ (PairTable.empty kinds).kinds := by
  rcases bind_eq_ok_iff.mp made with ⟨_, valid, rest⟩
  refine ⟨valid, ?_⟩
  split at rest
  case isTrue => cases rest
  case isFalse some => exact Nat.pos_of_ne_zero fun none => some (UInt64.toNat_inj.mp none)

theorem orderly_of_create {material : Material Float} {kinds : UInt64}
    {interaction : Interaction Float} (made : create material kinds = .ok interaction)
    (assembly : Assembly Float) (exchange : σ) :
    Status.Orderly (Session.status ⟨interaction, assembly, exchange⟩) := by
  obtain ⟨valid, some⟩ := valid_of_create made
  rw [eq_start_of_create made]
  exact ⟨valid, some, PairTable.wordSquare_empty kinds, nofun, nofun⟩

theorem orderly_of_ofCheckpoint {checkpoint : Checkpoint} {interaction : Interaction Float}
    (made : ofCheckpoint checkpoint = .ok interaction) (assembly : Assembly Float) (exchange : σ) :
    Status.Orderly (Session.status ⟨interaction, assembly, exchange⟩) := by
  rcases bind_eq_ok_iff.mp made with ⟨_, checked, rest⟩
  rcases bind_eq_ok_iff.mp rest with ⟨_, fresh, -⟩
  obtain ⟨some, square⟩ := PairTable.validate_eq_ok_iff.mp checked
  rw [eq_start_of_ofCheckpoint made]
  exact ⟨(valid_of_create fresh).1, some, square.wordSquare, nofun, nofun⟩

/-- However an interaction is constructed, it begins in order. -/
theorem Constructed.orderly {interaction : Interaction Float}
    (constructed : interaction.Constructed) (assembly : Assembly Float) (exchange : σ) :
    Status.Orderly (Session.status ⟨interaction, assembly, exchange⟩) := by
  cases constructed with
  | created made => exact orderly_of_create made assembly exchange
  | ofSettings made =>
      rcases bind_eq_ok_iff.mp made with ⟨material, -, made⟩
      exact orderly_of_create made assembly exchange
  | ofCheckpoint made => exact orderly_of_ofCheckpoint made assembly exchange
  | readCheckpoint made =>
      rcases bind_eq_ok_iff.mp made with ⟨checkpoint, -, made⟩
      exact orderly_of_ofCheckpoint made assembly exchange

end Interaction

namespace Session

variable {σ : Type}

theorem Advance.orderly {session : Session σ Float} {event : Event σ Float} {after : Status Float}
    (advance : session.Advance event after) (orderly : session.status.Orderly) :
    after.Orderly := by
  rcases orderly with ⟨material, kinds, flags, timestep, bonded⟩
  cases advance with
  | kept => exact ⟨material, kinds, flags, timestep, bonded⟩
  | configured grows =>
      refine ⟨material, grows.kinds ▸ kinds, grows.wordSquare flags, fun stored known => ?_, bonded⟩
      obtain ⟨finite, positive, full⟩ := timestep stored known
      exact ⟨finite, positive, grows.full full⟩
  | setUp checked =>
      obtain ⟨usable, -, -, complete, -⟩ := checkSetup_eq_ok_iff.mp checked
      obtain ⟨finite, positive⟩ := Scalar.isUsable_iff.mp usable
      have full := PairTable.isComplete_iff.mp complete
      refine ⟨material, kinds, flags, fun stored known => ?_, fun _ => rfl⟩
      rw [← Option.some.inj known]
      exact ⟨finite, positive, full⟩
  | reset known usable =>
      obtain ⟨finite, positive⟩ := Scalar.isUsable_iff.mp usable
      rcases Option.isSome_iff_exists.mp known with ⟨earlier, known⟩
      obtain ⟨-, -, full⟩ := timestep earlier known
      refine ⟨material, kinds, flags, fun stored known => ?_, fun _ => rfl⟩
      rw [← Option.some.inj known]
      exact ⟨finite, positive, full⟩
  | bonded known => exact ⟨material, kinds, flags, timestep, fun _ => known⟩

theorem orderly_run {session : Session σ Float} (orderly : session.status.Orderly)
    (actions : List (Action σ Float)) : (session.run actions).status.Orderly :=
  run_induction (fun session => session.status.Orderly)
    (fun session action orderly => (session.perform_advance action).orderly orderly) orderly actions

/-- The calls that a session accepts after the events of a transcript. -/
structure Admits (session : Session σ Float) (events : List (Event σ Float)) : Prop where
  /-- Coefficients are given to ranges of kinds that have a pair, if the flags of
  their pairs are there. -/
  configure : ∀ rows columns,
    (session.perform (.configure rows columns)).1.isAccepted = true ↔
      ∃ first second,
        (KindRange.ofText rows session.interaction.table.kinds : Except (Fault Float) _) =
          .ok first ∧
        (KindRange.ofText columns session.interaction.table.kinds : Except (Fault Float) _) =
          .ok second ∧
        PairTable.selection first second ≠ [] ∧
        session.interaction.table.HasFlags first second
  /-- A setup fits the particles, whatever came before. -/
  setUp : ∀ exchange setup,
    (session.perform (.setUp exchange setup)).1.isAccepted = true ↔
      (setup.timestep.isFinite = true ∧ 0 < setup.timestep) ∧ setup.ghostVelocities = true ∧
        session.assembly.kindCount = session.interaction.table.kinds ∧
        session.interaction.table.Full ∧
        ∀ particle ∈ session.assembly.owned,
          (particle.radius.isFinite = true ∧ 0 < particle.radius) ∧
            particle.mass.isFinite = true ∧ 0 < particle.mass
  /-- After a setup every pair of kinds has a cutoff. -/
  cutoff : ∀ first second,
    (session.perform (.cutoff first second)).1.isAccepted = true ↔
      WasSetUp events ∧
        (1 ≤ first ∧ first ≤ session.interaction.table.kinds) ∧
        1 ≤ second ∧ second ≤ session.interaction.table.kinds
  resetTimestep : ∀ timestep,
    (session.perform (.resetTimestep timestep)).1.isAccepted = true ↔
      WasSetUp events ∧ timestep.isFinite = true ∧ 0 < timestep
  /-- Bonds are formed once, after a setup. -/
  formBonds : ∀ list,
    (session.perform (.formBonds list)).1.isAccepted = true ↔
      WasSetUp events ∧ ¬WasBonded events ∧
        ∀ pair ∈ list.pairs, pair.1 < session.assembly.size ∧ pair.2 < session.assembly.size
  /-- Steps come after a setup and the bonding, and have the length that was
  fixed last. -/
  step : ∀ exchange context list bodies, list.Pushed →
    ((session.perform (.step exchange context list bodies)).1.isAccepted = true ↔
      WasSetUp events ∧ WasBonded events ∧
        (∃ timestep, lastTimestep events = some timestep ∧
          (context.timestep == timestep) = true) ∧
        ∀ pair ∈ list.pairs, pair.1 < session.assembly.size ∧ pair.2 < session.assembly.size)
  preview : ∀ first second,
    (session.perform (.preview first second)).1.isAccepted = true ↔
      WasSetUp events ∧ first < session.assembly.size ∧
        second < session.assembly.size

/-- An orderly session admits what its transcript says. -/
theorem Told.admits {session : Session σ Float} {events : List (Event σ Float)}
    (told : Told events session.status) (orderly : session.status.Orderly) :
    session.Admits events := by
  rcases told with ⟨stored, known, bonded⟩
  rcases orderly with ⟨-, -, -, timestep, -⟩
  simp only [status] at stored known bonded timestep
  constructor
  case configure =>
    intro rows columns
    exact isAccepted_configure_iff
  case setUp =>
    intro exchange setup
    rw [isAccepted_setUp_iff, checkSetup_eq_ok_iff, PairTable.isComplete_iff]
    simp only [Scalar.isUsable_iff]
  case cutoff =>
    intro first second
    rw [isAccepted_cutoff_iff, ← known]
    refine and_congr_right fun found => ?_
    rcases Option.isSome_iff_exists.mp found with ⟨length, found⟩
    exact (timestep length found).2.2.isConfigured_iff
  case resetTimestep =>
    intro length
    rw [isAccepted_resetTimestep_iff, Scalar.isUsable_iff, known]
  case formBonds =>
    intro list
    rw [isAccepted_formBonds_iff, NeighborList.check_eq_ok_iff, known, ← bonded,
      Bool.not_eq_true]
  case step =>
    intro exchange context list bodies pushed
    rw [isAccepted_step_iff, pushed.fits_iff, NeighborList.check_eq_ok_iff, ← known, ← bonded,
      ← stored]
    simp only [checkStep_eq_ok_iff, Scalar.same_iff_beq]
    constructor
    · intro accepted
      rcases accepted with ⟨⟨length, found, formed, same⟩, inside⟩
      exact ⟨Option.isSome_of_mem found, formed, ⟨length, found, same⟩, inside⟩
    · intro allowed
      rcases allowed with ⟨-, formed, ⟨length, found, same⟩, inside⟩
      exact ⟨⟨length, found, formed, same⟩, inside⟩
  case preview =>
    intro first second
    rw [isAccepted_preview_iff, known]

/-- The kinds and the number of flags of a table are never changed. -/
theorem Advance.table {session : Session σ Float} {event : Event σ Float} {after : Status Float}
    (advance : session.Advance event after) : session.interaction.table.Grows after.table := by
  cases advance with
  | kept | setUp | reset | bonded => exact .refl _
  | configured grows => exact grows

theorem table_run (session : Session σ Float) (actions : List (Action σ Float)) :
    session.interaction.table.Grows (session.run actions).interaction.table :=
  run_induction (fun after => session.interaction.table.Grows after.interaction.table)
    (fun after action grows => grows.trans (after.perform_advance action).table) (.refl _) actions

/-- After any run of an interaction, however constructed, the status of the
session is in order, and the transcript decides which calls are accepted.  The
number of kinds is the one at the beginning.  There is a flag for each of their
pairs if they are fewer than 2 ^ 32, and only then; coefficients are then given to
any two ranges that select a pair.  In a session that is set up one more than the
number of kinds is still a word. -/
theorem lifecycle_run {interaction : Interaction Float} (constructed : interaction.Constructed)
    (assembly : Assembly Float) (exchange : σ) (actions : List (Action σ Float)) :
    let session : Session σ Float := ⟨interaction, assembly, exchange⟩
    let after := session.run actions
    let table := after.interaction.table
    after.status.Orderly ∧ after.Admits (session.transcript actions) ∧
      table.kinds = interaction.table.kinds ∧
      (table.flags.size = table.kinds * table.kinds ↔ table.kinds < UInt32.size) ∧
      (table.kinds < UInt32.size → ∀ rows columns,
        (after.perform (.configure rows columns)).1.isAccepted = true ↔
          ∃ first second,
            (KindRange.ofText rows table.kinds : Except (Fault Float) _) = .ok first ∧
            (KindRange.ofText columns table.kinds : Except (Fault Float) _) = .ok second ∧
            PairTable.selection first second ≠ []) ∧
      (after.interaction.timestep.isSome = true → table.kinds + 1 < UInt64.size) := by
  intro session after table
  have orderly := orderly_run (constructed.orderly assembly exchange) actions
  have fresh : Told ([] : List (Event σ Float)) session.status := by
    rcases constructed.eq_start with ⟨material, table, rfl⟩
    exact ⟨rfl, by simp [WasSetUp, session, status, Interaction.start],
      by simp [WasBonded, session, status, Interaction.start]⟩
  have admits := (told_run fresh actions).admits orderly
  refine ⟨orderly, admits, (session.table_run actions).kinds, orderly.flags.size_eq_iff, ?_, ?_⟩
  · intro bound rows columns
    exact isAccepted_configure_iff_of_square (orderly.flags.square_iff.mpr bound)
  · intro known
    rcases Option.isSome_iff_exists.mp known with ⟨timestep, known⟩
    exact (orderly.timestep timestep known).2.2.succ_kinds_lt orderly.flags

/-- Once the touching spheres are set up their bonding is accepted, and a step
is not yet. -/
theorem lifecycle_run_settingUp :
    let session := Session.run ⟨.start .standard (.empty 1), touchingSpheres, ()⟩ settingUp
    (session.perform (.formBonds (.ofPairs [(0, 1)]))).1.isAccepted = true ∧
      (session.perform (.step .serial (.first 0.001) (.ofPairs [(0, 1)]) none)).1.isAccepted =
        false := by
  intro session
  obtain ⟨-, admits, -⟩ := lifecycle_run constructed_standard touchingSpheres () settingUp
  let events := Session.transcript ⟨.start .standard (.empty 1), touchingSpheres, ()⟩ settingUp
  have ready : WasSetUp events := List.any_eq_true.mp (by decide +kernel)
  have unbonded : ¬WasBonded events := by
    intro bonded
    have found : events.any Event.isBonding = true := List.any_eq_true.mpr bonded
    have none : events.any Event.isBonding = false := by decide +kernel
    rw [none] at found
    cases found
  constructor
  · exact (admits.formBonds _).mpr ⟨ready, unbonded, by decide +kernel⟩
  · rw [← Bool.not_eq_true, admits.step _ _ _ _ (NeighborList.pushed_ofPairs _)]
    exact fun allowed => unbonded allowed.2.1

/-- With 2 ^ 32 kinds the product of the kinds is zero in words: a new interaction
has no flag for any pair, and the ranges of the first pair are not accepted. -/
theorem not_configured_wideKinds :
    let interaction : Interaction Float := .start .standard (.empty 4294967296)
    let session : Session Unit Float := ⟨interaction, touchingSpheres, ()⟩
    interaction.Constructed ∧
      interaction.table.flags.size ≠ interaction.table.kinds * interaction.table.kinds ∧
      (∃ range, (KindRange.ofText "1" interaction.table.kinds : Except (Fault Float) _) =
        .ok range ∧ PairTable.selection range range ≠ []) ∧
      (session.perform (.configure "1" "1")).1.isAccepted = false := by
  intro interaction session
  have made : Interaction.create (.standard : Material Float) 4294967296 = .ok interaction := rfl
  have parsed : (KindRange.ofText "1" 4294967296 : Except (Fault Float) _) = .ok ⟨1, 1⟩ :=
    eq_ok_of_toOption (by decide +kernel)
  exact ⟨.created made, by decide +kernel, ⟨_, parsed, by decide⟩, by decide +kernel⟩

end Session

end GranularBonds

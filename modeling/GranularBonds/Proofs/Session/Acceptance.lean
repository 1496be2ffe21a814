import GranularBonds.Proofs.Session.Run
import GranularBonds.Proofs.Species.PairTable

/-!
# Calls that a session accepts

For every call of a session what its acceptance requires: of the state of the
session, of the particles that it finds, and of the arguments.
-/

namespace GranularBonds.Session

variable {σ α : Type}

/-! ## What the checks ask for -/

/-- A call that needs the setup finds a step length. -/
theorem requireTimestep_eq_ok_iff {session : Session σ α} {call : Call} {timestep : α} :
    session.requireTimestep call = .ok timestep ↔
      session.interaction.timestep = some timestep := by
  unfold requireTimestep
  cases session.interaction.timestep <;> simp

theorem checkBonding_eq_ok_iff {session : Session σ α} {list : NeighborList} :
    session.checkBonding list = .ok () ↔
      session.interaction.timestep.isSome = true ∧ session.interaction.bondsFormed = false ∧
        list.check session.assembly = .ok () := by
  rw [checkBonding, bind_eq_ok_iff]
  simp only [requireTimestep_eq_ok_iff, Option.isSome_iff_exists, exists_and_right]
  cases session.interaction.bondsFormed <;> simp

theorem checkPosition_eq_ok_iff {session : Session σ α} {index : Nat} :
    session.checkPosition index = .ok () ↔ index < session.assembly.size := by
  unfold checkPosition
  split <;> simp_all

section

variable [Scalar α]

theorem checkStep_eq_ok_iff {session : Session σ α} {context : StepContext α} {timestep : α} :
    session.checkStep context = .ok timestep ↔
      session.interaction.timestep = some timestep ∧ session.interaction.bondsFormed = true ∧
        Scalar.Same context.timestep timestep := by
  rw [checkStep, bind_eq_ok_iff]
  simp only [requireTimestep_eq_ok_iff]
  cases session.interaction.bondsFormed with
  | false => simp
  | true =>
      constructor
      · intro found
        rcases found with ⟨stored, known, rest⟩
        rw [if_neg (by decide)] at rest
        split at rest
        case isTrue same =>
          rw [← Except.ok.inj rest]
          exact ⟨known, rfl, same⟩
        case isFalse => cases rest
      · intro allowed
        exact ⟨timestep, allowed.1, by rw [if_neg (by decide), if_pos allowed.2.2]⟩

end

/-! ## Answers -/

theorem isOk_iff_exists {ε β : Type} {call : Except ε β} :
    call.isOk = true ↔ ∃ result, call = .ok result := by
  cases call <;> simp [Except.isOk, Except.toBool]

theorem isOk_iff {ε : Type} {call : Except ε Unit} : call.isOk = true ↔ call = .ok () := by
  cases call <;> simp [Except.isOk, Except.toBool]

theorem isOk_map {ε β γ : Type} (call : Except ε β) (change : β → γ) :
    (call.map change).isOk = call.isOk := by
  cases call <;> rfl

/-- Giving coefficients is answered by the table. -/
theorem configure_fst (session : Session σ α) (rows columns : String) :
    (session.configure rows columns).1 =
      (session.interaction.table.assign rows columns).map Prod.fst := by
  unfold configure
  cases session.interaction.table.assign rows columns <;> rfl

variable [Scalar α]

/-- A setup is answered by its check. -/
theorem setUp_fst (exchange : Exchange σ α) (session : Session σ α) (setup : RunSetup α) :
    (session.setUp exchange setup).1 = session.checkSetup setup := by
  unfold setUp
  cases session.checkSetup setup <;> rfl

/-- A change of the step length is answered by the checks before it. -/
theorem resetTimestep_fst (session : Session σ α) (timestep : α) :
    (session.resetTimestep timestep).1 =
      session.requireTimestep .timestep >>= fun _ => checkTimestep timestep := by
  unfold resetTimestep
  cases session.requireTimestep .timestep >>= fun _ => checkTimestep timestep <;> rfl

/-- A bonding is answered by its check and by the bonding of the pairs. -/
theorem formBonds_fst (session : Session σ α) (list : NeighborList) :
    (session.formBonds list).1 = (session.checkBonding list >>= fun _ =>
      session.interaction.material.formBonds session.assembly list
        session.interaction.ledger).map Prod.fst := by
  unfold formBonds
  cases session.checkBonding list >>= fun _ =>
    session.interaction.material.formBonds session.assembly list
      session.interaction.ledger <;> rfl

/-! ## Calls that are accepted -/

theorem isAccepted_configure_iff {session : Session σ α} {rows columns : String} :
    (session.perform (.configure rows columns)).1.isAccepted = true ↔
      ∃ first second,
        (KindRange.ofText rows session.interaction.table.kinds : Except (Fault α) KindRange) =
          .ok first ∧
        (KindRange.ofText columns session.interaction.table.kinds : Except (Fault α) KindRange) =
          .ok second ∧
        PairTable.selection first second ≠ [] ∧
        session.interaction.table.HasFlags first second := by
  have answer : (session.perform (.configure rows columns)).1.isAccepted =
      ((session.interaction.table.assign rows columns).map Prod.fst).isOk :=
    congrArg Except.isOk (session.configure_fst rows columns)
  rw [answer, isOk_map, isOk_iff_exists]
  exact PairTable.assign_accepted_iff

/-- In a square table the flags of the pairs are there. -/
theorem isAccepted_configure_iff_of_square {session : Session σ α}
    (square : session.interaction.table.Square) {rows columns : String} :
    (session.perform (.configure rows columns)).1.isAccepted = true ↔
      ∃ first second,
        (KindRange.ofText rows session.interaction.table.kinds : Except (Fault α) KindRange) =
          .ok first ∧
        (KindRange.ofText columns session.interaction.table.kinds : Except (Fault α) KindRange) =
          .ok second ∧
        PairTable.selection first second ≠ [] := by
  rw [isAccepted_configure_iff]
  constructor
  · intro accepted
    rcases accepted with ⟨first, second, parsed, other, some, -⟩
    exact ⟨first, second, parsed, other, some⟩
  · intro selected
    rcases selected with ⟨first, second, parsed, other, some⟩
    exact ⟨first, second, parsed, other, some, square.hasFlags
      (KindRange.within_of_ofText parsed) (KindRange.within_of_ofText other)⟩

theorem isAccepted_setUp_iff {session : Session σ α} {exchange : Exchange σ α}
    {setup : RunSetup α} :
    (session.perform (.setUp exchange setup)).1.isAccepted = true ↔
      session.checkSetup setup = .ok () := by
  have answer : (session.perform (.setUp exchange setup)).1.isAccepted =
      (session.checkSetup setup).isOk :=
    congrArg Except.isOk (session.setUp_fst exchange setup)
  rw [answer, isOk_iff]

theorem isAccepted_cutoff_iff {session : Session σ α} {first second : Nat} :
    (session.perform (.cutoff first second)).1.isAccepted = true ↔
      session.interaction.timestep.isSome = true ∧
        session.interaction.table.isConfigured first second = true := by
  have answer : (session.perform (.cutoff first second)).1.isAccepted =
      (session.cutoff first second).isOk := rfl
  rw [answer, isOk_iff_exists, cutoff]
  simp only [bind_eq_ok_iff, requireTimestep_eq_ok_iff, Option.isSome_iff_exists]
  cases session.interaction.table.isConfigured first second <;> simp

theorem isAccepted_resetTimestep_iff {session : Session σ α} {timestep : α} :
    (session.perform (.resetTimestep timestep)).1.isAccepted = true ↔
      session.interaction.timestep.isSome = true ∧ Scalar.isUsable timestep = true := by
  have answer : (session.perform (.resetTimestep timestep)).1.isAccepted =
      (session.requireTimestep .timestep >>= fun _ => checkTimestep timestep).isOk :=
    congrArg Except.isOk (session.resetTimestep_fst timestep)
  rw [answer, isOk_iff]
  simp only [bind_eq_ok_iff, requireTimestep_eq_ok_iff, Option.isSome_iff_exists,
    exists_and_right, checkTimestep_eq_ok_iff]

theorem isAccepted_formBonds_iff {session : Session σ α} {list : NeighborList} :
    (session.perform (.formBonds list)).1.isAccepted = true ↔
      session.interaction.timestep.isSome = true ∧ session.interaction.bondsFormed = false ∧
        list.check session.assembly = .ok () := by
  have answer : (session.perform (.formBonds list)).1.isAccepted =
      ((session.checkBonding list >>= fun _ =>
        session.interaction.material.formBonds session.assembly list
          session.interaction.ledger).map Prod.fst).isOk :=
    congrArg Except.isOk (session.formBonds_fst list)
  rw [answer, isOk_map, isOk_iff_exists, ← checkBonding_eq_ok_iff]
  constructor
  · intro accepted
    rcases accepted with ⟨bonded, done⟩
    rcases bind_eq_ok_iff.mp done with ⟨_, checked, -⟩
    exact checked
  · intro checked
    have passes := (checkBonding_eq_ok_iff.mp checked).2.2
    exact ⟨_, bind_eq_ok_iff.mpr
      ⟨(), checked, session.interaction.material.formBonds_eq_ok_iff.mpr ⟨passes, rfl⟩⟩⟩

theorem isAccepted_step_iff {session : Session σ α} {exchange : Exchange σ α}
    {context : StepContext α} {list : NeighborList} {bodies : Option (BodyMasses α)} :
    (session.perform (.step exchange context list bodies)).1.isAccepted = true ↔
      (∃ timestep, session.checkStep context = .ok timestep) ∧ list.Fits session.assembly := by
  constructor
  · intro accepted
    rcases session.step_cases exchange context list bodies with
      ⟨fault, refused⟩ | ⟨timestep, checked, -, ⟨fault, stopped⟩ | ⟨fits, -⟩⟩
    · rw [perform, refused] at accepted
      cases accepted
    · rw [perform, stopped] at accepted
      cases accepted
    · exact ⟨⟨timestep, checked⟩, fits⟩
  · intro allowed
    rcases allowed with ⟨⟨timestep, checked⟩, fits⟩
    rw [perform, session.step_of_fits exchange bodies checked fits]
    rfl

theorem isAccepted_preview_iff {session : Session σ α} {first second : Nat} :
    (session.perform (.preview first second)).1.isAccepted = true ↔
      session.interaction.timestep.isSome = true ∧ first < session.assembly.size ∧
        second < session.assembly.size := by
  constructor
  · intro accepted
    simp only [perform] at accepted
    cases answer : session.preview first second with
    | error fault =>
        rw [answer] at accepted
        cases accepted
    | ok preview =>
        rcases bind_eq_ok_iff.mp answer with ⟨timestep, known, rest⟩
        rcases bind_eq_ok_iff.mp rest with ⟨_, firstInside, rest⟩
        rcases bind_eq_ok_iff.mp rest with ⟨_, secondInside, -⟩
        exact ⟨Option.isSome_of_mem (requireTimestep_eq_ok_iff.mp known),
          checkPosition_eq_ok_iff.mp firstInside, checkPosition_eq_ok_iff.mp secondInside⟩
  · intro allowed
    rcases allowed with ⟨known, firstInside, secondInside⟩
    rcases Option.isSome_iff_exists.mp known with ⟨timestep, known⟩
    rcases Assembly.exists_get?_of_lt firstInside with ⟨firstParticle, firstHere⟩
    rcases Assembly.exists_get?_of_lt secondInside with ⟨secondParticle, secondHere⟩
    simp only [perform, preview, requireTimestep_eq_ok_iff.mpr known,
      checkPosition_eq_ok_iff.mpr firstInside, checkPosition_eq_ok_iff.mpr secondInside,
      Assembly.particle_eq_ok_iff.mpr firstHere, Assembly.particle_eq_ok_iff.mpr secondHere]
    rfl

end GranularBonds.Session

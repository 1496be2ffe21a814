import GranularBonds.Proofs.Neighbors
import GranularBonds.Proofs.Session.Acceptance

/-!
# Calls that stay within bounds

The calls of a session look at particles and flags by position.  All of them
but a step check their positions first, or are promised that their positions
are there, and so none of them runs past the end of a list.
-/

namespace GranularBonds.Session

variable {σ α : Type}

/-- A call that does not run past the end of a list. -/
def InBounds {β : Type} (call : Except (Fault α) β) : Prop := call ≠ .error .outOfBounds

theorem InBounds.bind {β γ : Type} {call : Except (Fault α) β}
    {next : β → Except (Fault α) γ} (first : InBounds call)
    (rest : ∀ value, call = .ok value → InBounds (next value)) : InBounds (call >>= next) := by
  intro beyond
  rcases bind_eq_error_iff.mp beyond with failed | ⟨value, done, failed⟩
  · exact first failed
  · exact rest value done failed

theorem InBounds.map {β γ : Type} {call : Except (Fault α) β} (inside : InBounds call)
    (change : β → γ) : InBounds (call.map change) := by
  intro beyond
  cases call with
  | error fault => exact inside (congrArg Except.error (Except.error.inj beyond))
  | ok value => cases beyond

theorem InBounds.forM {β : Type} {check : β → Except (Fault α) Unit}
    (each : ∀ element, InBounds (check element)) (elements : List β) :
    InBounds (forM elements check) := by
  induction elements with
  | nil => exact nofun
  | cons element later ih =>
      rw [List.forM_cons]
      exact .bind (each element) fun _ _ => ih

/-! ## Checks -/

theorem inBounds_assign {table : PairTable} (square : table.Square) (rows columns : String) :
    InBounds (table.assign rows columns : Except (Fault α) _) := by
  have parsed : ∀ text, InBounds (KindRange.ofText text table.kinds : Except (Fault α) _) := by
    intro text
    unfold KindRange.ofText
    split
    · split <;> exact nofun
    · exact nofun
  rw [table.assign_eq square]
  refine .bind (parsed rows) fun first _ => .bind (parsed columns) fun second _ => ?_
  split <;> exact nofun

theorem inBounds_requireTimestep (session : Session σ α) (call : Call) :
    InBounds (session.requireTimestep call) := by
  unfold requireTimestep
  split <;> exact nofun

theorem inBounds_check (list : NeighborList) (assembly : Assembly α) :
    InBounds (list.check assembly) := by
  unfold NeighborList.check
  split <;> intro beyond <;> cases beyond

theorem inBounds_checkPosition (session : Session σ α) (index : Nat) :
    InBounds (session.checkPosition index) := by
  unfold checkPosition
  split <;> exact nofun

theorem inBounds_particle {assembly : Assembly α} {index : Nat} (inside : index < assembly.size) :
    InBounds (assembly.particle index) := by
  rcases Assembly.exists_get?_of_lt inside with ⟨particle, here⟩
  rw [Assembly.particle_eq_ok_iff.mpr here]
  exact nofun

section

variable [Scalar α]

theorem inBounds_checkTimestep (timestep : α) : InBounds (checkTimestep timestep) := by
  unfold checkTimestep
  split <;> exact nofun

theorem inBounds_checkSetup (session : Session σ α) (setup : RunSetup α) :
    InBounds (session.checkSetup setup) := by
  have particles : ∀ particle : Particle α, InBounds (checkParticle particle) := by
    intro particle
    unfold checkParticle
    split
    · exact nofun
    · split <;> exact nofun
  refine .bind (inBounds_checkTimestep setup.timestep) fun _ _ => ?_
  split
  · exact nofun
  · split
    · exact nofun
    · split
      · exact nofun
      · exact .forM particles _

theorem inBounds_checkStep (session : Session σ α) (context : StepContext α) :
    InBounds (session.checkStep context) := by
  refine .bind (session.inBounds_requireTimestep _) fun _ _ => ?_
  split
  · exact nofun
  · split <;> exact nofun

end

/-! ## Calls -/

theorem inBounds_configure {session : Session σ α} (square : session.interaction.table.Square)
    (rows columns : String) : InBounds (session.configure rows columns).1 := by
  rw [configure_fst]
  exact (inBounds_assign square rows columns).map _

variable [Scalar α]

theorem inBounds_setUp (exchange : Exchange σ α) (session : Session σ α) (setup : RunSetup α) :
    InBounds (session.setUp exchange setup).1 := by
  rw [setUp_fst]
  exact session.inBounds_checkSetup setup

theorem inBounds_resetTimestep (session : Session σ α) (timestep : α) :
    InBounds (session.resetTimestep timestep).1 := by
  rw [resetTimestep_fst]
  exact .bind (session.inBounds_requireTimestep _) fun _ _ => inBounds_checkTimestep timestep

theorem inBounds_cutoff (session : Session σ α) (first second : Nat) :
    InBounds (session.cutoff first second) := by
  refine .bind (session.inBounds_requireTimestep _) fun _ _ => ?_
  split <;> exact nofun

theorem inBounds_formBonds (session : Session σ α) (list : NeighborList) :
    InBounds (session.formBonds list).1 := by
  have checked : InBounds (session.checkBonding list) := by
    refine .bind (session.inBounds_requireTimestep _) fun _ _ => ?_
    split
    · intro beyond
      cases beyond
    · exact inBounds_check list session.assembly
  rw [formBonds_fst]
  refine (InBounds.bind checked fun _ allowed => ?_).map _
  -- What passes the check is there when its bonds are formed.
  have passes := (checkBonding_eq_ok_iff.mp allowed).2.2
  rw [session.interaction.material.formBonds_eq_ok_iff.mpr ⟨passes, rfl⟩]
  intro beyond
  cases beyond

theorem inBounds_preview (session : Session σ α) (first second : Nat) :
    InBounds (session.preview first second) := by
  refine .bind (session.inBounds_requireTimestep _) fun _ _ => ?_
  refine .bind (session.inBounds_checkPosition first) fun _ firstInside => ?_
  refine .bind (session.inBounds_checkPosition second) fun _ secondInside => ?_
  refine .bind (inBounds_particle (checkPosition_eq_ok_iff.mp firstInside)) fun _ _ => ?_
  refine .bind (inBounds_particle (checkPosition_eq_ok_iff.mp secondInside)) fun _ _ => ?_
  exact nofun

end GranularBonds.Session

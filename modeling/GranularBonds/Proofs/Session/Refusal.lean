import GranularBonds.Proofs.Session.Bounds
import GranularBonds.Proofs.Session.Lifecycle

/-!
# Refused calls

A call that is refused has done nothing: the interaction, the particles and
the transport are as they were, and no operation of the transport was used.
Refused calls can therefore be left out of a run.  Running past the end of the
assembly or of the flags is no refusal but the end of a call on the way; it happens
for lists alone that pass the check and still do not fit, and for tables of so many
kinds that their flags are not a square.
-/

namespace GranularBonds.Session

variable {σ α : Type}

/-- The fault of a call that failed. -/
def faultOf {β : Type} : Except (Fault α) β → Option (Fault α)
  | .error fault => some fault
  | .ok _ => none

theorem faultOf_eq_some_iff {β : Type} {call : Except (Fault α) β} {fault : Fault α} :
    faultOf call = some fault ↔ call = .error fault := by
  cases call <;> simp [faultOf]

/-- The fault that an answer reports. -/
def Reply.fault? : Reply α → Option (Fault α)
  | none => Option.none
  | count answer => faultOf answer
  | done answer => faultOf answer
  | distance answer => faultOf answer
  | bonding answer => faultOf answer
  | pass answer => faultOf answer
  | preview answer => faultOf answer

/-- Whether the call was refused, and did not just run out of the assembly. -/
def Reply.isRefused (reply : Reply α) : Bool :=
  match reply.fault? with
  | Option.none => false
  | some .outOfBounds => false
  | some _ => true

theorem isRefused_or {reply : Reply α} {fault : Fault α} (failed : reply.fault? = some fault) :
    reply.isRefused = true ∨ fault = .outOfBounds := by
  unfold Reply.isRefused
  rw [failed]
  cases fault <;> simp

/-- The same action over another transport. -/
def Action.over (other : Exchange σ α) : Action σ α → Action σ α
  | setUp _ setup => setUp other setup
  | step _ context list bodies => step other context list bodies
  | action => action

variable [Scalar α]

/-! ## Refusals change nothing -/

/-- A pass that fails leaves the session as it is. -/
theorem evaluate_fault {session : Session σ α} {list : NeighborList} {timestep : α}
    {fault : Fault α} (failed : (session.evaluate list timestep).1 = .error fault) :
    session.evaluate list timestep = (.error fault, session) ∧
      (list.check session.assembly = .error fault ∨
        list.check session.assembly = .ok () ∧ ¬list.Fits session.assembly ∧
          fault = .outOfBounds) := by
  simp only [evaluate] at failed ⊢
  split at failed
  case h_1 other stopped =>
    have same : other = fault := Except.error.inj failed
    exact ⟨by rw [same], PassContext.run_fault _ (same ▸ stopped)⟩
  case h_2 => cases failed

/-- A step fails before it has touched anything, or it runs out of the
assembly. -/
theorem step_fault {exchange : Exchange σ α} {session : Session σ α} {context : StepContext α}
    {list : NeighborList} {bodies : Option (BodyMasses α)} {fault : Fault α}
    (failed : (session.step exchange context list bodies).1 = .error fault) :
    (∀ other : Exchange σ α,
        session.step other context list bodies = (.error fault, session)) ∧
      fault ≠ .outOfBounds ∨
    fault = .outOfBounds ∧ list.check session.assembly = .ok () ∧
      ¬list.Fits session.assembly := by
  cases checked : session.checkStep context with
  | error other =>
      simp only [step, checked] at failed ⊢
      rw [← Except.error.inj failed]
      refine .inl ⟨fun _ => rfl, fun beyond => ?_⟩
      exact session.inBounds_checkStep context (beyond ▸ checked)
  | ok timestep =>
      cases rebuilt : context.rebuilt with
      | false =>
          simp only [step, checked, rebuilt] at failed ⊢
          obtain ⟨stopped, reason⟩ := evaluate_fault failed
          rcases reason with refused | ⟨passes, misfit, beyond⟩
          · refine .inl ⟨fun _ => stopped, fun beyond => ?_⟩
            exact inBounds_check list session.assembly (beyond ▸ refused)
          · exact .inr ⟨beyond, passes, misfit⟩
      | true =>
          cases passes : list.check session.assembly with
          | error other =>
              simp only [step, checked, rebuilt, adopt, passes, if_true] at failed ⊢
              rw [← Except.error.inj failed]
              refine .inl ⟨fun _ => rfl, fun beyond => ?_⟩
              exact inBounds_check list session.assembly (beyond ▸ passes)
          | ok _ =>
              -- The check of the pass sees the same particles and cannot fail.
              simp only [step, checked, rebuilt, adopt_of_check exchange session bodies passes,
                if_true] at failed
              have present := refreshBodies_assembly exchange session bodies
              rcases (evaluate_fault failed).2 with refused | ⟨-, misfit, beyond⟩
              · simp only [withLedger, present, passes] at refused
                cases refused
              · simp only [withLedger, present] at misfit
                exact .inr ⟨beyond, rfl, misfit⟩

/-- A refused action leaves the session as it is, and would be refused in the
same way over every other transport. -/
theorem perform_refused {session : Session σ α} {action : Action σ α}
    (refused : (session.perform action).1.isRefused = true) :
    (session.perform action).2 = session ∧
      ∀ other, session.perform (action.over other) = session.perform action := by
  cases action with
  | announce | place => cases refused
  | cutoff | preview => exact ⟨rfl, fun _ => rfl⟩
  | configure rows columns =>
      refine ⟨?_, fun _ => rfl⟩
      simp only [perform, configure] at refused ⊢
      split at refused
      case h_1 => rfl
      case h_2 => cases refused
  | setUp exchange setup =>
      simp only [perform, setUp, Action.over] at refused ⊢
      split at refused
      case h_1 => exact ⟨rfl, fun _ => rfl⟩
      case h_2 => cases refused
  | resetTimestep timestep =>
      refine ⟨?_, fun _ => rfl⟩
      simp only [perform, resetTimestep] at refused ⊢
      split at refused
      case h_1 => rfl
      case h_2 => cases refused
  | formBonds list =>
      refine ⟨?_, fun _ => rfl⟩
      rcases session.formBonds_cases list with ⟨fault, failed⟩ | ⟨-, -, formed⟩
      · rw [perform, failed]
        rfl
      · rw [perform, formed] at refused
        cases refused
  | step exchange context list bodies =>
      cases answer : (session.step exchange context list bodies).1 with
      | ok report =>
          simp only [perform, Prod.map_fst, answer] at refused
          cases refused
      | error fault =>
          rcases step_fault answer with ⟨untouched, -⟩ | ⟨rfl, -⟩
          · constructor
            · rw [perform, untouched exchange]
              rfl
            · intro other
              rw [Action.over, perform, perform, untouched other, untouched exchange]
          · simp only [perform, Prod.map_fst, answer] at refused
            cases refused

/-- Only a step can run out of the assembly, with a list that passes the check
and does not fit, and only coefficients can run out of the flags, of a table that
is no square. -/
theorem perform_outOfBounds {session : Session σ α} {action : Action σ α}
    (beyond : (session.perform action).1.fault? = some .outOfBounds) :
    (∃ exchange context list bodies, action = .step exchange context list bodies ∧
      list.check session.assembly = .ok () ∧ ¬list.Fits session.assembly) ∨
    ∃ rows columns, action = .configure rows columns ∧ ¬session.interaction.table.Square := by
  cases action with
  | announce | place => cases beyond
  | configure rows columns =>
      refine .inr ⟨rows, columns, rfl, fun square => ?_⟩
      exact inBounds_configure square rows columns (faultOf_eq_some_iff.mp beyond)
  | setUp exchange setup =>
      exact absurd (faultOf_eq_some_iff.mp beyond) (session.inBounds_setUp exchange setup)
  | cutoff first second =>
      exact absurd (faultOf_eq_some_iff.mp beyond) (session.inBounds_cutoff first second)
  | resetTimestep timestep =>
      exact absurd (faultOf_eq_some_iff.mp beyond) (session.inBounds_resetTimestep timestep)
  | formBonds list =>
      exact absurd (faultOf_eq_some_iff.mp beyond) (session.inBounds_formBonds list)
  | preview first second =>
      exact absurd (faultOf_eq_some_iff.mp beyond) (session.inBounds_preview first second)
  | step exchange context list bodies =>
      rcases step_fault (faultOf_eq_some_iff.mp beyond) with ⟨-, other⟩ | ⟨-, passes, misfit⟩
      · exact absurd rfl other
      · exact .inl ⟨exchange, context, list, bodies, rfl, passes, misfit⟩

/-! ## Runs without their refused actions -/

/-- The actions of a list that are not refused. -/
def heeded (session : Session σ α) (actions : List (Action σ α)) : List (Action σ α) :=
  ((session.transcript actions).filter fun event => !event.2.isRefused).map Prod.fst

/-- A run without its refused actions ends in the same state, and has the same
answers. -/
theorem run_heeded (session : Session σ α) (actions : List (Action σ α)) :
    session.run (session.heeded actions) = session.run actions ∧
      session.transcript (session.heeded actions) =
        (session.transcript actions).filter fun event => !event.2.isRefused := by
  induction actions generalizing session with
  | nil => exact ⟨rfl, rfl⟩
  | cons action later ih =>
      cases refused : (session.perform action).1.isRefused with
      | true =>
          have kept := (perform_refused refused).1
          have skipped : session.heeded (action :: later) = session.heeded later := by
            simp [heeded, transcript, refused, kept]
          rw [skipped, run_cons, kept, transcript, kept, List.filter_cons_of_neg (by simp [refused])]
          exact ih session
      | false =>
          have taken : session.heeded (action :: later) =
              action :: (session.perform action).2.heeded later := by
            simp [heeded, transcript, refused]
          obtain ⟨same, answers⟩ := ih (session.perform action).2
          rw [taken, run_cons, run_cons, transcript, transcript, answers,
            List.filter_cons_of_pos (by simp [refused])]
          exact ⟨same, rfl⟩

/-- Refused calls have done nothing.  At any point of a run of an interaction,
however constructed, an action that is refused leaves interaction, particles
and transport as they are, and it asks nothing of the transport: over every
other one it is refused in the same way.  All faults are refusals but that of
a step whose list passes the check and does not fit, and that of coefficients
whose flags a table of 2 ^ 32 kinds or more does not have.  And the run without
its refused actions ends in the same state with the same answers. -/
theorem refusals_run {interaction : Interaction Float} (constructed : interaction.Constructed)
    (assembly : Assembly Float) (exchange : σ) (actions : List (Action σ Float)) :
    let start : Session σ Float := ⟨interaction, assembly, exchange⟩
    let session := start.run actions
    (∀ action, (session.perform action).1.isRefused = true →
      (session.perform action).2 = session ∧
        ∀ other, session.perform (action.over other) = session.perform action) ∧
    (∀ action fault, (session.perform action).1.fault? = some fault →
      (session.perform action).1.isRefused = true ∨
        (∃ exchange context list bodies, action = .step exchange context list bodies ∧
          list.check session.assembly = .ok () ∧ ¬list.Fits session.assembly) ∨
        ∃ rows columns, action = .configure rows columns ∧
          UInt32.size ≤ session.interaction.table.kinds) ∧
    start.run (start.heeded actions) = session ∧
      start.transcript (start.heeded actions) =
        (start.transcript actions).filter fun event => !event.2.isRefused := by
  intro start session
  have orderly := orderly_run (constructed.orderly assembly exchange) actions
  refine ⟨fun action => perform_refused, fun action fault failed => ?_, start.run_heeded actions⟩
  rcases isRefused_or failed with refused | rfl
  · exact .inl refused
  · rcases perform_outOfBounds failed with misfit | ⟨rows, columns, same, flagless⟩
    · exact .inr (.inl misfit)
    · have words : session.interaction.table.WordSquare := orderly.flags
      exact .inr (.inr ⟨rows, columns, same, Nat.not_lt.mp (mt words.square_iff.mpr flagless)⟩)

/-- The step comes before the bonding, is refused, and might as well have been
left out. -/
theorem refusals_run_touchingSpheres :
    let start : Session Unit Float := ⟨.start .standard (.empty 1), touchingSpheres, ()⟩
    let early : Action Unit Float := .step .serial (.first 0.001) (.ofPairs [(0, 1)]) none
    let session := start.run settingUp
    (session.perform early).1.isRefused = true ∧ (session.perform early).2 = session ∧
      (start.heeded (settingUp ++ [early])).length = 2 ∧
      start.run (start.heeded (settingUp ++ [early])) = start.run (settingUp ++ [early]) := by
  intro start early session
  have refused : (session.perform early).1.isRefused = true := by decide +kernel
  obtain ⟨kept, -⟩ := refusals_run constructed_standard touchingSpheres () settingUp
  obtain ⟨-, -, same, -⟩ :=
    refusals_run constructed_standard touchingSpheres () (settingUp ++ [early])
  exact ⟨refused, (kept early refused).1, by decide +kernel, same⟩

end GranularBonds.Session

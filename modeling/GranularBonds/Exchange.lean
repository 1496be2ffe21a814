import GranularBonds.Scalar

/-!
# Exchange between workers

What the contact law asks of the transport between workers: to copy values of
owned particles onto their ghosts, and to take the largest value over all
workers.  A transport has a state of its own, such as the messages still to
come.
-/

namespace GranularBonds

/-- A transport with states in `σ`.  Neither operation changes how many values
there are. -/
structure Exchange (σ α : Type) where
  /-- Overwrite the values past the owned ones by those of the particles they
  replicate. -/
  forward : List α → (owned : Nat) → σ → List α × σ
  /-- Replace each value by the largest that any worker has in its place. -/
  reduceMax : List α → σ → List α × σ
  forward_length : ∀ values owned state,
    (forward values owned state).1.length = values.length
  reduceMax_length : ∀ values state, (reduceMax values state).1.length = values.length

namespace Exchange

variable {σ α : Type}

/-- The transport of a worker that is alone. -/
def serial : Exchange Unit α where
  forward := fun values _ state => (values, state)
  reduceMax := fun values state => (values, state)
  forward_length := fun _ _ _ => rfl
  reduceMax_length := fun _ _ => rfl

/-- Messages that a worker will receive: which owned particle each ghost
replicates, and the values of the others for each reduction to come. -/
structure Script (α : Type) where
  sources : List Nat
  reductions : List (List α)

/-- Overwrite ghosts one after the other by the values of their sources.  A
source that is not owned is passed over. -/
def copySources (sources : List Nat) (owned : Nat) (values : List α) : List α :=
  values.mapIdx fun index value =>
    match sources[index - owned]? with
    | some source =>
        if owned ≤ index ∧ source < owned then values.getD source value else value
    | none => value

/-- Take the larger of two values in each place that both lists have. -/
def raiseAll [Scalar α] : List α → List α → List α
  | value :: values, other :: others =>
      (if value < other then other else value) :: raiseAll values others
  | values, _ => values

theorem length_raiseAll [Scalar α] (values others : List α) :
    (raiseAll values others).length = values.length := by
  fun_induction raiseAll values others with
  | case1 value values other others ih => simp [ih]
  | case2 => rfl

/-- The transport that plays back a script. -/
def scripted [Scalar α] : Exchange (Script α) α where
  forward := fun values owned state => (copySources state.sources owned values, state)
  reduceMax := fun values state =>
    match state.reductions with
    | [] => (values, state)
    | others :: later => (raiseAll values others, { state with reductions := later })
  forward_length := fun values owned state => by simp [copySources]
  reduceMax_length := fun values state => by
    cases h : state.reductions with
    | nil => rfl
    | cons others later => exact length_raiseAll values others

end Exchange

end GranularBonds

import GranularBonds.Proofs.Contact.Pass

/-!
# Neighbor lists and the bounds of an assembly

The check before a pass looks at pairs, and the pass itself looks at entries.
The two differ for entries without neighbors, which name a particle but no
pair.  Lists that are put together pair by pair have no such entries; the list
of near pairs has one for every particle without neighbors.  Main statement: a
pass is answered by a report or by a position out of range, except when all
pairs are there and a particle without neighbors is not.
-/

namespace GranularBonds

variable {α : Type}

namespace NeighborList

/-! ## How lists come about -/

/-- Lists that are put together pair by pair. -/
inductive Pushed : NeighborList → Prop where
  | empty : Pushed empty
  | push {list : NeighborList} (first second : Nat) : Pushed list → Pushed (list.push first second)

/-- Lists that a simulation can obtain, the near pairs of any assembly
included. -/
inductive Obtained (α : Type) [Scalar α] : NeighborList → Prop where
  | empty : Obtained α empty
  | ofPairs (pairs : List (Nat × Nat)) : Obtained α (ofPairs pairs)
  | near (assembly : Assembly α) (skin : α) : Obtained α (near assembly skin)
  | push {list : NeighborList} (first second : Nat) :
      Obtained α list → Obtained α (list.push first second)

theorem pushed_ofPairs (pairs : List (Nat × Nat)) : Pushed (ofPairs pairs) := by
  suffices onto : ∀ list, Pushed list →
      Pushed (pairs.foldl (fun list pair => list.push pair.1 pair.2) list) from onto _ .empty
  induction pairs with
  | nil => exact fun _ pushed => pushed
  | cons pair later ih => exact fun list pushed => ih _ (.push pair.1 pair.2 pushed)

theorem pushEntry_ne_nil {first second : Nat} {entries : List (Nat × List Nat)}
    (full : ∀ entry ∈ entries, entry.2 ≠ []) :
    ∀ entry ∈ pushEntry first second entries, entry.2 ≠ [] := by
  induction entries with
  | nil => simp [pushEntry]
  | cons head rest ih =>
      have here := (List.forall_mem_cons.mp full).1
      have later := (List.forall_mem_cons.mp full).2
      rw [pushEntry]
      split
      · exact List.forall_mem_cons.mpr ⟨List.append_ne_nil_of_right_ne_nil _ nofun, later⟩
      · exact List.forall_mem_cons.mpr ⟨here, ih later⟩

/-- A list that is put together pair by pair has no entry without
neighbors. -/
theorem Pushed.ne_nil {list : NeighborList} (pushed : list.Pushed) :
    ∀ entry ∈ list.entries, entry.2 ≠ [] := by
  induction pushed with
  | empty => exact List.forall_mem_nil _
  | push first second pushed ih => exact pushEntry_ne_nil ih

/-! ## Lists that fit -/

/-- The check refuses a position that is out of range. -/
theorem check_fault {list : NeighborList} {assembly : Assembly α} {fault : Fault α}
    (refused : list.check assembly = .error fault) :
    ∃ index, assembly.size ≤ index ∧ fault = .particleIndex index assembly.size := by
  unfold check at refused
  split at refused
  case h_1 index outside =>
    refine ⟨index, ?_, (Except.error.inj refused).symm⟩
    simpa using List.find?_some outside
  case h_2 => cases refused

/-- The fault of a list that does not fit: that of the check, or that of a
particle without neighbors that is not there. -/
def misfit (list : NeighborList) (assembly : Assembly α) : Fault α :=
  match list.check assembly with
  | .error fault => fault
  | .ok () => .outOfBounds

/-- A list fits an assembly when its pairs pass the check and its particles
without neighbors are there too. -/
theorem fits_iff {list : NeighborList} {assembly : Assembly α} :
    list.Fits assembly ↔
      list.check assembly = .ok () ∧
        ∀ entry ∈ list.entries, entry.2 = [] → entry.1 < assembly.size := by
  constructor
  · intro fits
    exact ⟨fits.check, fun entry member _ => (fits entry member).1⟩
  · intro found
    rcases found with ⟨passes, alone⟩
    rw [check_eq_ok_iff] at passes
    intro entry member
    have inside : ∀ second ∈ entry.2, entry.1 < assembly.size ∧ second < assembly.size :=
      fun second here => passes (entry.1, second) (mem_pairs_iff.mpr ⟨entry, member, rfl, here⟩)
    refine ⟨?_, fun second here => (inside second here).2⟩
    cases neighbors : entry.2 with
    | nil => exact alone entry member neighbors
    | cons second rest =>
        rw [neighbors] at inside
        exact (inside second List.mem_cons_self).1

/-- For a list that is put together pair by pair the check says everything. -/
theorem Pushed.fits_iff {list : NeighborList} (pushed : list.Pushed) {assembly : Assembly α} :
    list.Fits assembly ↔ list.check assembly = .ok () := by
  rw [NeighborList.fits_iff, and_iff_left_iff_imp]
  intro _ entry member alone
  exact absurd alone (pushed.ne_nil entry member)

/-- The list of near pairs fits its own assembly. -/
theorem near_fits [Scalar α] (assembly : Assembly α) (skin : α) :
    (near assembly skin).Fits assembly := by
  intro entry member
  rcases List.mem_mapIdx.mp member with ⟨index, owned, rfl⟩
  have inside : index < assembly.size :=
    Nat.lt_of_lt_of_le owned (List.length_take_le' ..)
  refine ⟨inside, fun second listed => ?_⟩
  rcases List.mem_filterMap.mp listed with ⟨⟨particle, position⟩, later, near⟩
  have there := List.mem_zipIdx (List.mem_of_mem_drop later)
  rw [Option.ite_none_right_eq_some] at near
  rw [← Option.some.inj near.2]
  simpa [Assembly.size] using there.2.1

end NeighborList

/-! ## Faults of a pass -/

variable [Scalar α]

/-- A chain of calls fails where its first call does, or where the next one
does. -/
theorem bind_eq_error_iff {ε β γ : Type} {call : Except ε β} {next : β → Except ε γ} {fault : ε} :
    call >>= next = .error fault ↔
      call = .error fault ∨ ∃ between, call = .ok between ∧ next between = .error fault := by
  cases call with
  | error other => simp [bind, Except.bind]
  | ok value => simp [bind, Except.bind]

/-- What holds of the faults of every step holds of the fault of a fold. -/
theorem foldlM_fault {ε β γ : Type} {holds : ε → Prop} {step : β → γ → Except ε β}
    (each : ∀ {state element fault}, step state element = .error fault → holds fault)
    {elements : List γ} {state : β} {fault : ε}
    (failed : elements.foldlM step state = .error fault) : holds fault := by
  induction elements generalizing state with
  | nil => cases failed
  | cons element later ih =>
      rw [List.foldlM_cons] at failed
      rcases bind_eq_error_iff.mp failed with here | ⟨between, -, rest⟩
      · exact each here
      · exact ih rest

omit [Scalar α] in
theorem Assembly.particle_fault {assembly : Assembly α} {index : Nat} {fault : Fault α}
    (failed : assembly.particle index = .error fault) : fault = .outOfBounds := by
  unfold Assembly.particle at failed
  split at failed
  · cases failed
  · exact (Except.error.inj failed).symm

namespace PassContext

variable (context : PassContext α)

theorem visit_fault {first second : Nat} {state : PassState α} {fault : Fault α}
    (failed : context.visit first state second = .error fault) : fault = .outOfBounds := by
  rcases bind_eq_error_iff.mp failed with missing | ⟨firstParticle, -, rest⟩
  · exact Assembly.particle_fault missing
  · rcases bind_eq_error_iff.mp rest with missing | ⟨secondParticle, -, evaluated⟩
    · exact Assembly.particle_fault missing
    · cases evaluated

theorem visitEntry_fault {entry : Nat × List Nat} {state : PassState α} {fault : Fault α}
    (failed : context.visitEntry state entry = .error fault) : fault = .outOfBounds := by
  rcases bind_eq_error_iff.mp failed with missing | ⟨particle, -, rest⟩
  · exact Assembly.particle_fault missing
  · exact foldlM_fault context.visit_fault rest

/-- A pass fails by its check, before it visits any pair, or it runs out of
the assembly. -/
theorem run_fault {list : NeighborList} {assembly : Assembly α} {ledger : Ledger α}
    {fault : Fault α} (failed : context.run list assembly ledger = .error fault) :
    list.check assembly = .error fault ∨
      list.check assembly = .ok () ∧ ¬list.Fits assembly ∧ fault = .outOfBounds := by
  rcases bind_eq_error_iff.mp failed with refused | ⟨_, passes, rest⟩
  · exact .inl refused
  · refine .inr ⟨passes, fun fits => ?_, foldlM_fault context.visitEntry_fault rest⟩
    rw [context.run_eq_ok_iff.mpr ⟨fits, rfl⟩] at failed
    cases failed

/-- Every pass over a list that does not fit fails in the same way. -/
theorem run_of_not_fits {list : NeighborList} {assembly : Assembly α}
    (misfit : ¬list.Fits assembly) (ledger : Ledger α) :
    context.run list assembly ledger = .error (list.misfit assembly) := by
  cases answer : context.run list assembly ledger with
  | ok after => exact absurd (context.run_eq_ok_iff.mp answer).1 misfit
  | error fault =>
      rcases context.run_fault answer with refused | ⟨passes, -, rfl⟩
      · rw [NeighborList.misfit, refused]
      · rw [NeighborList.misfit, passes]

/-- A pass is answered by a report, or by a position that is out of range. -/
def Answers (list : NeighborList) (assembly : Assembly α) (ledger : Ledger α) : Prop :=
  (∃ after, context.run list assembly ledger = .ok after) ∨
    ∃ index, assembly.size ≤ index ∧
      context.run list assembly ledger = .error (.particleIndex index assembly.size)

/-- A pass is answered unless the check lets a list through although a particle
without neighbors is not there. -/
theorem answers_iff (list : NeighborList) (assembly : Assembly α) (ledger : Ledger α) :
    context.Answers list assembly ledger ↔
      (list.check assembly = .ok () →
        ∀ entry ∈ list.entries, entry.2 = [] → entry.1 < assembly.size) := by
  constructor
  · intro answered passes
    have fits : list.Fits assembly := by
      rcases answered with ⟨after, done⟩ | ⟨index, -, refused⟩
      · exact (context.run_eq_ok_iff.mp done).1
      · rcases context.run_fault refused with failed | ⟨-, -, other⟩
        · rw [passes] at failed
          cases failed
        · cases other
    exact (NeighborList.fits_iff.mp fits).2
  · intro alone
    cases answer : context.run list assembly ledger with
    | ok after => exact .inl ⟨after, answer⟩
    | error fault =>
        rcases context.run_fault answer with refused | ⟨passes, misfit, -⟩
        · rcases NeighborList.check_fault refused with ⟨index, outside, rfl⟩
          exact .inr ⟨index, outside, answer⟩
        · exact absurd (NeighborList.fits_iff.mpr ⟨passes, alone passes⟩) misfit

/-- A list that is put together pair by pair is answered. -/
theorem answers_pushed {list : NeighborList} (pushed : list.Pushed) (assembly : Assembly α)
    (ledger : Ledger α) : context.Answers list assembly ledger := by
  rw [answers_iff]
  intro passes
  exact (NeighborList.fits_iff.mp (pushed.fits_iff.mpr passes)).2

/-- The near pairs of an assembly are answered there. -/
theorem answers_near (assembly : Assembly α) (skin : α) (ledger : Ledger α) :
    context.Answers (.near assembly skin) assembly ledger :=
  .inl ⟨_, context.run_eq_ok_iff.mpr ⟨NeighborList.near_fits assembly skin, rfl⟩⟩

/-- Two spheres that are not near each other. -/
def distantSpheres : Assembly Float :=
  .ofOwned [.atRest ⟨1⟩ 0 1 1, .atRest ⟨2⟩ ⟨5, 0, 0⟩ 1 1]

/-- The near pairs of two distant spheres, of which the second is gone when
the pass comes: no pair is out of range, and still there is no answer. -/
theorem not_answers_distantSpheres :
    (NeighborList.near distantSpheres 0).Obtained Float ∧
      ¬Answers ⟨.standard, none, 0.001, true⟩ (.near distantSpheres 0)
        (.ofOwned [.atRest ⟨1⟩ 0 1 1]) .empty := by
  refine ⟨.near distantSpheres 0, fun answered => ?_⟩
  have entries : (NeighborList.near distantSpheres 0).entries = [(0, []), (1, [])] := by
    decide +kernel
  rw [answers_iff] at answered
  have inside := answered (by
    rw [NeighborList.check_eq_ok_iff, NeighborList.pairs, entries]
    exact List.forall_mem_nil _) (1, []) (by simp [entries]) rfl
  exact absurd inside (by decide)

end PassContext

end GranularBonds

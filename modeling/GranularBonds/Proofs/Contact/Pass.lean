import GranularBonds.Contact.Pass
import GranularBonds.Proofs.Contact.Bond
import GranularBonds.Proofs.Contact.Ledger

/-!
# Passes as sequences of encounters

A pass reads particles whose loads it changes while it goes on.  Since the
force law reads nothing of these loads, every pair meets the particles as they
were at the beginning, and a pass is a fold over encounters that are fixed
before it starts.  Main statement: a pass succeeds exactly for lists that fit
the assembly, and then it is that fold.
-/

namespace GranularBonds

/-- The two particles of a listed pair with their positions, without the loads
of the step. -/
structure Encounter (α : Type) where
  first : Nat
  second : Nat
  firstParticle : Particle α
  secondParticle : Particle α

variable {α : Type} [Scalar α]

/-! ## Loads are not read -/

namespace Assembly

omit [Scalar α] in
theorem exists_get?_of_lt {assembly : Assembly α} {index : Nat} (inside : index < assembly.size) :
    ∃ particle, assembly.get? index = some particle :=
  ⟨_, List.getElem?_eq_getElem inside⟩

omit [Scalar α] in
theorem lt_of_get? {assembly : Assembly α} {index : Nat} {particle : Particle α}
    (here : assembly.get? index = some particle) : index < assembly.size :=
  (List.getElem?_eq_some_iff.mp here).1

omit [Scalar α] in
theorem particle_eq_ok_iff {assembly : Assembly α} {index : Nat} {particle : Particle α} :
    assembly.particle index = .ok particle ↔ assembly.get? index = some particle := by
  unfold Assembly.particle
  cases assembly.get? index <;> simp

theorem get?_cleared (assembly : Assembly α) (index : Nat) :
    assembly.cleared.get? index = (assembly.get? index).map Particle.cleared := by
  simp [get?, cleared]

@[simp] theorem size_cleared (assembly : Assembly α) : assembly.cleared.size = assembly.size := by
  simp [size, cleared]

@[simp] theorem ownedCount_load (assembly : Assembly α) (index : Nat) (force torque : Vec3 α) :
    (assembly.load index force torque).ownedCount = assembly.ownedCount := rfl

@[simp] theorem cleared_load (assembly : Assembly α) (index : Nat) (force torque : Vec3 α) :
    (assembly.load index force torque).cleared = assembly.cleared := by
  simp only [load, modify, cleared]
  congr 1
  apply List.ext_getElem?
  intro other
  simp only [List.getElem?_map, List.getElem?_modify]
  split
  · cases assembly.particles[other]? <;> rfl
  · simp

end Assembly

/-! ## Encounters -/

namespace Encounter

/-- The encounter of the pair at two positions. -/
def at? (assembly : Assembly α) (pair : Nat × Nat) : Option (Encounter α) :=
  (assembly.cleared.get? pair.1).bind fun first =>
    (assembly.cleared.get? pair.2).map fun second => ⟨pair.1, pair.2, first, second⟩

omit [Scalar α] in
/-- The key under which the pair is remembered. -/
def key (encounter : Encounter α) : PairKey :=
  .ofTags encounter.firstParticle.tag encounter.secondParticle.tag

omit [Scalar α] in
/-- Whether the pair is visited with the higher tag first. -/
def flipped (encounter : Encounter α) : Bool :=
  (PairKey.oriented encounter.firstParticle.tag encounter.secondParticle.tag).2

/-- The motion of the pair. -/
def kinematics (bodies : Option (BodyCache α)) (encounter : Encounter α) : Kinematics α :=
  .ofParticles bodies encounter.first encounter.second encounter.firstParticle
    encounter.secondParticle

/-- What the pair does in a pass, and its record afterwards. -/
def evaluate (context : PassContext α) (encounter : Encounter α) (record : ContactRecord α) :
    Outcome α × ContactRecord α :=
  context.material.evaluate (encounter.kinematics context.bodies) record encounter.flipped
    context.timestep

/-- Encounters read nothing of the loads. -/
theorem at?_eq_of_cleared {left right : Assembly α} (same : left.cleared = right.cleared) :
    at? left = at? right := by
  funext pair
  simp only [at?, same]

theorem at?_eq_some_iff {assembly : Assembly α} {pair : Nat × Nat} {encounter : Encounter α} :
    at? assembly pair = some encounter ↔
      ∃ first second, assembly.get? pair.1 = some first ∧ assembly.get? pair.2 = some second ∧
        encounter = ⟨pair.1, pair.2, first.cleared, second.cleared⟩ := by
  simp only [at?, Assembly.get?_cleared, Option.bind_eq_some_iff, Option.map_eq_some_iff]
  constructor
  · intro found
    rcases found with ⟨_, ⟨first, firstHere, rfl⟩, _, ⟨second, secondHere, rfl⟩, rfl⟩
    exact ⟨first, second, firstHere, secondHere, rfl⟩
  · intro found
    rcases found with ⟨first, second, firstHere, secondHere, rfl⟩
    exact ⟨_, ⟨first, firstHere, rfl⟩, _, ⟨second, secondHere, rfl⟩, rfl⟩

/-- A pair meets when both of its positions are those of particles. -/
theorem exists_at?_iff {assembly : Assembly α} {pair : Nat × Nat} :
    (∃ encounter, at? assembly pair = some encounter) ↔
      pair.1 < assembly.size ∧ pair.2 < assembly.size := by
  simp only [at?_eq_some_iff]
  constructor
  · intro found
    rcases found with ⟨_, first, second, firstHere, secondHere, -⟩
    exact ⟨Assembly.lt_of_get? firstHere, Assembly.lt_of_get? secondHere⟩
  · intro found
    rcases found with ⟨firstInside, secondInside⟩
    rcases Assembly.exists_get?_of_lt firstInside with ⟨first, firstHere⟩
    rcases Assembly.exists_get?_of_lt secondInside with ⟨second, secondHere⟩
    exact ⟨_, first, second, firstHere, secondHere, rfl⟩

end Encounter

namespace NeighborList

omit [Scalar α] in
/-- All positions of a list, those of particles without neighbors included,
are positions of an assembly. -/
def Fits (list : NeighborList) (assembly : Assembly α) : Prop :=
  ∀ entry ∈ list.entries,
    entry.1 < assembly.size ∧ ∀ second ∈ entry.2, second < assembly.size

/-- The encounters of all pairs, in the order in which they are visited. -/
def encounters (list : NeighborList) (assembly : Assembly α) : List (Encounter α) :=
  list.pairs.filterMap (Encounter.at? assembly)

end NeighborList

/-! ## Passes -/

/-- A chain of calls succeeds when each of them does. -/
theorem bind_eq_ok_iff {ε β γ : Type} {call : Except ε β} {next : β → Except ε γ} {result : γ} :
    call >>= next = .ok result ↔ ∃ between, call = .ok between ∧ next between = .ok result := by
  cases call with
  | error fault => simp [bind, Except.bind]
  | ok value => simp [bind, Except.bind]

/-- Calls in a row are the same where the later ones are the same for every
answer of the first. -/
theorem bind_congr_of_ok {ε β γ : Type} {call : Except ε β} {next other : β → Except ε γ}
    (same : ∀ result, call = .ok result → next result = other result) :
    call >>= next = call >>= other := by
  cases call with
  | error fault => rfl
  | ok result => exact same result rfl

theorem eq_ok_of_toOption {ε β : Type} {call : Except ε β} {result : β}
    (answer : call.toOption = some result) : call = .ok result := by
  cases call with
  | error fault => cases answer
  | ok value => exact congrArg Except.ok (Option.some.inj answer)

/-- A check of every element passes when each of them does. -/
theorem forM_eq_ok_iff {ε β : Type} {check : β → Except ε Unit} {elements : List β} :
    forM elements check = .ok () ↔ ∀ element ∈ elements, check element = .ok () := by
  induction elements with
  | nil => exact ⟨fun _ => List.forall_mem_nil _, fun _ => rfl⟩
  | cons element later ih =>
      rw [List.forM_cons, bind_eq_ok_iff, List.forall_mem_cons, ← ih]
      constructor
      · intro found
        rcases found with ⟨_, here, rest⟩
        exact ⟨here, rest⟩
      · intro found
        rcases found with ⟨here, rest⟩
        exact ⟨(), here, rest⟩

namespace PassContext

variable (context : PassContext α)

/-- One more encounter of a pass. -/
def meet (state : PassState α) (encounter : Encounter α) : PassState α :=
  let result := encounter.evaluate context (state.ledger.getOrFresh encounter.key)
  { assembly := context.load state.assembly encounter.first encounter.second result.1
    ledger := state.ledger.insert encounter.key result.2
    report := state.report.counting result.1 }

@[simp] theorem cleared_passLoad (assembly : Assembly α) (first second : Nat)
    (outcome : Outcome α) :
    (context.load assembly first second outcome).cleared = assembly.cleared := by
  cases outcome with
  | separated | torn | coincident => rfl
  | contact force =>
      simp only [load]
      split <;> simp

@[simp] theorem ownedCount_passLoad (assembly : Assembly α) (first second : Nat)
    (outcome : Outcome α) :
    (context.load assembly first second outcome).ownedCount = assembly.ownedCount := by
  cases outcome with
  | separated | torn | coincident => rfl
  | contact force =>
      simp only [load]
      split <;> simp

theorem at?_meet (state : PassState α) (encounter : Encounter α) :
    Encounter.at? (context.meet state encounter).assembly = Encounter.at? state.assembly :=
  Encounter.at?_eq_of_cleared (context.cleared_passLoad ..)

theorem size_meet (state : PassState α) (encounter : Encounter α) :
    (context.meet state encounter).assembly.size = state.assembly.size := by
  rw [← Assembly.size_cleared, ← Assembly.size_cleared state.assembly]
  exact congrArg Assembly.size (context.cleared_passLoad ..)

/-- A visit is the encounter of its pair. -/
theorem visit_eq_ok_iff {first second : Nat} {state after : PassState α} :
    context.visit first state second = .ok after ↔
      ∃ encounter, Encounter.at? state.assembly (first, second) = some encounter ∧
        after = context.meet state encounter := by
  simp only [visit, Assembly.particle, Encounter.at?_eq_some_iff]
  cases state.assembly.get? first with
  | none => simp [bind, Except.bind]
  | some firstParticle =>
      cases state.assembly.get? second with
      | none => simp [bind, Except.bind]
      | some secondParticle =>
          constructor
          · intro same
            exact ⟨_, ⟨firstParticle, secondParticle, rfl, rfl, rfl⟩,
              (Except.ok.inj same).symm⟩
          · intro found
            rcases found with ⟨_, ⟨_, _, firstHere, secondHere, rfl⟩, rfl⟩
            cases firstHere
            cases secondHere
            rfl

/-- The visits of one particle's neighbors succeed when all are there. -/
theorem foldlM_visit_eq_ok_iff {first : Nat} {seconds : List Nat} {state after : PassState α}
    (present : first < state.assembly.size) :
    seconds.foldlM (context.visit first) state = .ok after ↔
      (∀ second ∈ seconds, second < state.assembly.size) ∧
        after = ((seconds.map fun second => (first, second)).filterMap
          (Encounter.at? state.assembly)).foldl context.meet state := by
  induction seconds generalizing state with
  | nil =>
      simp only [List.foldlM_nil, List.map_nil, List.filterMap_nil, List.foldl_nil]
      constructor
      · intro same
        exact ⟨List.forall_mem_nil _, (Except.ok.inj same).symm⟩
      · intro found
        rcases found with ⟨-, rfl⟩
        rfl
  | cons second seconds ih =>
      simp only [List.foldlM_cons, List.map_cons, List.filterMap_cons, List.forall_mem_cons]
      constructor
      · intro same
        rcases bind_eq_ok_iff.mp same with ⟨between, visited, rest⟩
        rcases context.visit_eq_ok_iff.mp visited with ⟨encounter, met, rfl⟩
        obtain ⟨inside, later⟩ := (ih (by rwa [size_meet])).mp rest
        rw [size_meet] at inside
        rw [at?_meet] at later
        have here := Encounter.exists_at?_iff.mp ⟨encounter, met⟩
        exact ⟨⟨here.2, inside⟩, by rw [met, List.foldl_cons]; exact later⟩
      · intro found
        rcases found with ⟨⟨here, inside⟩, rfl⟩
        have meets : ∃ encounter, Encounter.at? state.assembly (first, second) = some encounter :=
          Encounter.exists_at?_iff.mpr ⟨present, here⟩
        rcases meets with ⟨encounter, met⟩
        rw [bind_eq_ok_iff]
        refine ⟨_, context.visit_eq_ok_iff.mpr ⟨encounter, met, rfl⟩, ?_⟩
        rw [ih (by rwa [size_meet]), size_meet, at?_meet, met, List.foldl_cons]
        exact ⟨inside, rfl⟩

/-- No encounter changes what later pairs meet. -/
theorem cleared_foldl_meet (encounters : List (Encounter α)) (state : PassState α) :
    (encounters.foldl context.meet state).assembly.cleared = state.assembly.cleared := by
  induction encounters generalizing state with
  | nil => rfl
  | cons encounter later ih =>
      rw [List.foldl_cons, ih]
      exact context.cleared_passLoad ..

theorem at?_foldl_meet (encounters : List (Encounter α)) (state : PassState α) :
    Encounter.at? (encounters.foldl context.meet state).assembly =
      Encounter.at? state.assembly :=
  Encounter.at?_eq_of_cleared (context.cleared_foldl_meet encounters state)

theorem size_foldl_meet (encounters : List (Encounter α)) (state : PassState α) :
    (encounters.foldl context.meet state).assembly.size = state.assembly.size := by
  rw [← Assembly.size_cleared, ← Assembly.size_cleared state.assembly,
    cleared_foldl_meet]

theorem visitEntry_eq_ok_iff {entry : Nat × List Nat} {state after : PassState α} :
    context.visitEntry state entry = .ok after ↔
      (entry.1 < state.assembly.size ∧ ∀ second ∈ entry.2, second < state.assembly.size) ∧
        after = ((entry.2.map fun second => (entry.1, second)).filterMap
          (Encounter.at? state.assembly)).foldl context.meet state := by
  rw [visitEntry, bind_eq_ok_iff]
  simp only [Assembly.particle_eq_ok_iff]
  constructor
  · intro found
    rcases found with ⟨particle, here, rest⟩
    have present := Assembly.lt_of_get? here
    obtain ⟨inside, same⟩ := (context.foldlM_visit_eq_ok_iff present).mp rest
    exact ⟨⟨present, inside⟩, same⟩
  · intro found
    rcases found with ⟨⟨present, inside⟩, same⟩
    rcases Assembly.exists_get?_of_lt present with ⟨particle, here⟩
    exact ⟨particle, here, (context.foldlM_visit_eq_ok_iff present).mpr ⟨inside, same⟩⟩

theorem foldlM_visitEntry_eq_ok_iff {entries : List (Nat × List Nat)}
    {state after : PassState α} :
    entries.foldlM context.visitEntry state = .ok after ↔
      (∀ entry ∈ entries, entry.1 < state.assembly.size ∧
        ∀ second ∈ entry.2, second < state.assembly.size) ∧
      after = ((entries.flatMap fun entry => entry.2.map fun second => (entry.1, second)).filterMap
        (Encounter.at? state.assembly)).foldl context.meet state := by
  induction entries generalizing state with
  | nil =>
      simp only [List.foldlM_nil, List.flatMap_nil, List.filterMap_nil, List.foldl_nil]
      constructor
      · intro same
        exact ⟨List.forall_mem_nil _, (Except.ok.inj same).symm⟩
      · intro found
        rcases found with ⟨-, rfl⟩
        rfl
  | cons entry entries ih =>
      simp only [List.foldlM_cons, List.flatMap_cons, List.filterMap_append, List.foldl_append,
        List.forall_mem_cons, bind_eq_ok_iff, context.visitEntry_eq_ok_iff]
      constructor
      · intro found
        rcases found with ⟨_, ⟨here, rfl⟩, rest⟩
        obtain ⟨inside, same⟩ := ih.mp rest
        rw [size_foldl_meet] at inside
        rw [at?_foldl_meet] at same
        exact ⟨⟨here, inside⟩, same⟩
      · intro found
        rcases found with ⟨⟨here, inside⟩, rfl⟩
        refine ⟨_, ⟨here, rfl⟩, ih.mpr ?_⟩
        rw [size_foldl_meet, at?_foldl_meet]
        exact ⟨inside, rfl⟩

end PassContext

namespace NeighborList

omit [Scalar α] in
/-- A check passes when both members of every pair are there. -/
theorem check_eq_ok_iff {list : NeighborList} {assembly : Assembly α} :
    list.check assembly = .ok () ↔
      ∀ pair ∈ list.pairs, pair.1 < assembly.size ∧ pair.2 < assembly.size := by
  simp only [check, outside?]
  constructor
  · intro passes
    split at passes
    · cases passes
    case h_2 none =>
      intro pair member
      have inside := List.find?_eq_none.mp none
      have first := inside pair.1 (List.mem_flatMap.mpr ⟨pair, member, by simp⟩)
      have second := inside pair.2 (List.mem_flatMap.mpr ⟨pair, member, by simp⟩)
      simp only [decide_eq_true_eq, Nat.not_le] at first second
      exact ⟨first, second⟩
  · intro inside
    have none : (list.pairs.flatMap fun pair => [pair.1, pair.2]).find?
        (fun index => decide (assembly.size ≤ index)) = none := by
      rw [List.find?_eq_none]
      intro index member
      rcases List.mem_flatMap.mp member with ⟨pair, listed, here⟩
      have := inside pair listed
      simp only [List.mem_cons, List.not_mem_nil, or_false] at here
      rcases here with rfl | rfl <;> simp [this]
    rw [none]

omit [Scalar α] in
theorem mem_pairs_iff {list : NeighborList} {pair : Nat × Nat} :
    pair ∈ list.pairs ↔ ∃ entry ∈ list.entries, entry.1 = pair.1 ∧ pair.2 ∈ entry.2 := by
  simp only [pairs, List.mem_flatMap, List.mem_map]
  constructor
  · intro found
    rcases found with ⟨entry, listed, second, here, rfl⟩
    exact ⟨entry, listed, rfl, here⟩
  · intro found
    rcases found with ⟨entry, listed, first, here⟩
    exact ⟨entry, listed, pair.2, here, Prod.ext first rfl⟩

omit [Scalar α] in
theorem Fits.check {list : NeighborList} {assembly : Assembly α} (fits : list.Fits assembly) :
    list.check assembly = .ok () := by
  rw [check_eq_ok_iff]
  intro pair member
  rcases mem_pairs_iff.mp member with ⟨entry, listed, first, second⟩
  obtain ⟨present, inside⟩ := fits entry listed
  exact ⟨first ▸ present, inside pair.2 second⟩

/-- An encounter of a list stands for one of its pairs. -/
theorem pair_of_mem_encounters {list : NeighborList} {assembly : Assembly α}
    {encounter : Encounter α} (member : encounter ∈ list.encounters assembly) :
    (encounter.first, encounter.second) ∈ list.pairs ∧
      encounter.first < assembly.size ∧ encounter.second < assembly.size := by
  rcases List.mem_filterMap.mp member with ⟨pair, listed, met⟩
  have inside := Encounter.exists_at?_iff.mp ⟨encounter, met⟩
  rcases Encounter.at?_eq_some_iff.mp met with ⟨_, _, -, -, rfl⟩
  exact ⟨listed, inside⟩

/-- A list that passes the check has an encounter for every pair. -/
theorem length_encounters {list : NeighborList} {assembly : Assembly α}
    (passes : list.check assembly = .ok ()) :
    (list.encounters assembly).length = list.pairCount := by
  rw [check_eq_ok_iff] at passes
  rw [encounters, List.length_filterMap_eq_countP, ← list.length_pairs, List.countP_eq_length]
  intro pair member
  exact Option.isSome_iff_exists.mpr (Encounter.exists_at?_iff.mpr (passes pair member))

/-- The keys of a list that passes the check are those of its encounters. -/
theorem keys_of_check {list : NeighborList} {assembly : Assembly α}
    (passes : list.check assembly = .ok ()) :
    list.keys assembly = .ok ((list.encounters assembly).map Encounter.key) := by
  rw [check_eq_ok_iff] at passes
  simp only [keys, encounters]
  generalize list.pairs = pairs at passes
  induction pairs with
  | nil => rfl
  | cons pair pairs ih =>
      have here := (List.forall_mem_cons.mp passes).1
      have later := (List.forall_mem_cons.mp passes).2
      rcases Encounter.exists_at?_iff.mpr here with ⟨encounter, met⟩
      rcases Encounter.at?_eq_some_iff.mp met with ⟨first, second, firstHere, secondHere, rfl⟩
      have named : keyOf assembly pair = .ok (.ofTags first.tag second.tag) := by
        rw [keyOf, Assembly.particle_eq_ok_iff.mpr firstHere,
          Assembly.particle_eq_ok_iff.mpr secondHere]
        rfl
      rw [List.mapM_cons, named, ih later, List.filterMap_cons, met]
      rfl

end NeighborList

namespace PassContext

/-- A pass succeeds for the lists that fit the assembly, and then it is the
fold over the encounters of the list with the particles as they were at its
beginning. -/
theorem run_eq_ok_iff (context : PassContext α) {list : NeighborList} {assembly : Assembly α}
    {ledger : Ledger α} {after : PassState α} :
    context.run list assembly ledger = .ok after ↔
      list.Fits assembly ∧
        after = (list.encounters assembly).foldl context.meet ⟨assembly, ledger, .none⟩ := by
  rw [run, bind_eq_ok_iff]
  constructor
  · intro found
    rcases found with ⟨_, -, rest⟩
    exact context.foldlM_visitEntry_eq_ok_iff.mp rest
  · intro found
    rcases found with ⟨fits, same⟩
    exact ⟨(), fits.check, context.foldlM_visitEntry_eq_ok_iff.mpr ⟨fits, same⟩⟩

end PassContext

end GranularBonds

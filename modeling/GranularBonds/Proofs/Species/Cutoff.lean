import Mathlib
import GranularBonds.Proofs.ExactArithmetic
import GranularBonds.Species.Cutoff

/-!
# Reach of the cutoffs

Every worker knows its own particles and the insertions announced to it, and the
largest radii of all are found together, by two reductions over all workers.
Main statement: in exact arithmetic it makes no difference how the particles are
distributed; the cutoff of two kinds reaches every two of their particles that are
not both frozen, and no farther than some two of them need.
-/

namespace GranularBonds

variable {α : Type} [ExactScalar α]

/-! ## Reductions -/

/-- Values that are, place by place, the largest of those that several workers
contribute. -/
structure IsLargest (contributions : List (List α)) (values : List α) : Prop where
  length : ∀ contribution ∈ contributions, contribution.length = values.length
  greatest : ∀ (place : Nat) (largest : α), values[place]? = some largest →
    IsGreatest {value | ∃ contribution ∈ contributions, contribution[place]? = some value} largest

theorem IsLargest.perm {contributions others : List (List α)} {values : List α}
    (largest : IsLargest contributions values) (permuted : contributions.Perm others) :
    IsLargest others values where
  length contribution member := largest.length contribution (permuted.mem_iff.mpr member)
  greatest place value found := by
    simp only [← permuted.mem_iff]
    exact largest.greatest place value found

namespace Exchange

variable {σ : Type}

/-- The part of one worker in a reduction: its transport, in a state, and the
values that it contributes. -/
structure Part (σ α : Type) where
  exchange : Exchange σ α
  state : σ
  values : List α

/-- The values that a worker gets back, and the state of its transport
afterwards. -/
def Part.received (part : Part σ α) : List α × σ :=
  part.exchange.reduceMax part.values part.state

/-- A reduction in which every worker gets the largest of the values that all of
them contribute. -/
def Reduces (parts : List (Part σ α)) : Prop :=
  ∀ part ∈ parts, IsLargest (parts.map Part.values) part.received.1

theorem getElem?_raiseAll {values others : List α} (same : values.length = others.length)
    {place : Nat} {value other : α} (here : values[place]? = some value)
    (there : others[place]? = some other) :
    (raiseAll values others)[place]? = some (max value other) := by
  fun_induction raiseAll values others generalizing place with
  | case1 first values second others ih =>
      cases place with
      | zero =>
          cases here
          cases there
          rw [max_def_lt]
          rfl
      | succ place => exact ih (Nat.succ.inj same) here there
  | case2 values others mismatch =>
      cases values with
      | nil => cases here
      | cons first values =>
          cases others with
          | nil => cases there
          | cons second others => exact absurd rfl (mismatch first values second others rfl)

/-- Taking the larger of two values in each place gives the largest of both
lists. -/
theorem isLargest_raiseAll {values others : List α} (same : values.length = others.length) :
    IsLargest [values, others] (raiseAll values others) where
  length := by
    intro contribution member
    rw [length_raiseAll]
    rcases List.mem_pair.mp member with rfl | rfl
    · rfl
    · exact same.symm
  greatest := by
    intro place largest found
    have inside : place < values.length := by
      rw [← length_raiseAll values others]
      exact (List.getElem?_eq_some_iff.mp found).1
    have here : values[place]? = some values[place] := List.getElem?_eq_getElem inside
    have otherInside : place < others.length := same ▸ inside
    have there : others[place]? = some others[place] := List.getElem?_eq_getElem otherInside
    have entries : {value | ∃ contribution ∈ [values, others], contribution[place]? = some value} =
        {values[place], others[place]} := by
      ext value
      simp [here, there, eq_comm]
    rw [getElem?_raiseAll same here there] at found
    rw [entries, ← Option.some.inj found]
    exact isGreatest_pair

end Exchange

/-! ## What cutoffs have to reach -/

/-- A particle as far as cutoffs know it: one that is there, or one that will be
inserted, which counts as free. -/
structure Occupant (α : Type) where
  kind : Nat
  radius : α
  frozen : Bool

namespace Occupant

/-- A particle that is there. -/
def ofParticle (particle : Particle α) : Occupant α :=
  ⟨particle.kind, particle.radius, particle.frozen⟩

/-- A particle that will be inserted. -/
def ofInserted (inserted : Nat × α) : Occupant α := ⟨inserted.1, inserted.2, false⟩

/-- The radii of the frozen or free particles of a kind. -/
def radii (occupants : List (Occupant α)) (frozen : Bool) (kind : Nat) : Set α :=
  {radius | ⟨kind, radius, frozen⟩ ∈ occupants}

theorem radii_concat (occupants : List (Occupant α)) (occupant : Occupant α) (frozen : Bool)
    (kind : Nat) :
    radii (occupants ++ [occupant]) frozen kind =
      if occupant.kind = kind ∧ occupant.frozen = frozen then
        insert occupant.radius (radii occupants frozen kind)
      else radii occupants frozen kind := by
  rcases occupant with ⟨ownKind, ownRadius, ownFrozen⟩
  ext radius
  simp only [radii, Set.mem_ofPred_eq, List.mem_append, List.mem_singleton, mk.injEq]
  split
  case isTrue concerned =>
    rw [Set.mem_insert_iff, Set.mem_ofPred_eq, concerned.1, concerned.2, or_comm]
    tauto
  case isFalse elsewhere =>
    rw [Set.mem_ofPred_eq]
    tauto

end Occupant

namespace CutoffTable

/-- The radii of frozen or free particles. -/
def side (table : CutoffTable α) (frozen : Bool) : List α :=
  if frozen then table.frozen else table.free

/-- The largest radius of the frozen or of the free particles of a kind,
as far as a table knows. -/
def largest (table : CutoffTable α) (frozen : Bool) (kind : Nat) : α :=
  (table.side frozen).getD kind 0

/-- Make room for a particle. -/
def withOccupant (table : CutoffTable α) (occupant : Occupant α) : CutoffTable α :=
  if occupant.frozen then
    { table with frozen := raise table.frozen occupant.kind occupant.radius }
  else
    { table with free := raise table.free occupant.kind occupant.radius }

/-- A table of the largest radii of some particles, zero where there are none. -/
structure Holds (table : CutoffTable α) (kinds : Nat) (occupants : List (Occupant α)) : Prop where
  length : ∀ frozen, (table.side frozen).length = kinds + 1
  greatest : ∀ frozen kind, kind ≤ kinds →
    IsGreatest (insert 0 (Occupant.radii occupants frozen kind)) (table.largest frozen kind)

theorem holds_zeros (kinds : UInt64) : (zeros kinds : CutoffTable α).Holds kinds.toNat [] where
  length frozen := by cases frozen <;> exact List.length_replicate
  greatest frozen kind inside := by
    have side :
        (zeros kinds : CutoffTable α).side frozen = List.replicate (kinds.toNat + 1) 0 := by
      cases frozen <;> rfl
    have none : Occupant.radii ([] : List (Occupant α)) frozen kind = ∅ := by simp [Occupant.radii]
    rw [largest, side, List.getD_replicate _ (Nat.lt_succ_of_le inside), none, insert_empty_eq]
    exact isGreatest_singleton

theorem side_withOccupant (table : CutoffTable α) (occupant : Occupant α) (frozen : Bool) :
    (table.withOccupant occupant).side frozen =
      if occupant.frozen = frozen then raise (table.side frozen) occupant.kind occupant.radius
      else table.side frozen := by
  unfold withOccupant
  cases here : occupant.frozen <;> cases frozen <;> rfl

theorem length_raise (radii : List α) (kind : Nat) (radius : α) :
    (raise radii kind radius).length = radii.length :=
  List.length_modify ..

/-- Room is made in the place of the kind, and no other place is touched. -/
theorem getD_raise {radii : List α} (kind : Nat) (radius : α) {place : Nat}
    (inside : place < radii.length) :
    (raise radii kind radius).getD place 0 =
      if kind = place then max radius (radii.getD place 0) else radii.getD place 0 := by
  rw [List.getD_eq_getElem?_getD, List.getD_eq_getElem?_getD, raise, List.getElem?_modify,
    List.getElem?_eq_getElem inside]
  split
  · exact (Scalar.maximum_eq_max _ _).trans (max_comm _ _)
  · rfl

/-- One more particle has room in the table once room was made for it. -/
theorem Holds.withOccupant {table : CutoffTable α} {kinds : Nat} {occupants : List (Occupant α)}
    (holds : table.Holds kinds occupants) (occupant : Occupant α) :
    (table.withOccupant occupant).Holds kinds (occupants ++ [occupant]) where
  length frozen := by
    rw [side_withOccupant]
    split
    · rw [length_raise, holds.length]
    · exact holds.length frozen
  greatest frozen kind inside := by
    have place : kind < (table.side frozen).length := by
      rw [holds.length]
      omega
    have before := holds.greatest frozen kind inside
    rw [largest, side_withOccupant, Occupant.radii_concat]
    by_cases here : occupant.frozen = frozen
    · rw [if_pos here, getD_raise _ _ place]
      by_cases same : occupant.kind = kind
      · rw [if_pos same, if_pos ⟨same, here⟩, Set.insert_comm]
        exact before.insert occupant.radius
      · rw [if_neg same, if_neg fun both => same both.1]
        exact before
    · rw [if_neg here, if_neg fun both => here both.2]
      exact before

theorem Holds.foldl {table : CutoffTable α} {kinds : Nat} {occupants : List (Occupant α)}
    (holds : table.Holds kinds occupants) (later : List (Occupant α)) :
    (later.foldl CutoffTable.withOccupant table).Holds kinds (occupants ++ later) := by
  induction later generalizing table occupants with
  | nil => rwa [List.append_nil]
  | cons occupant rest ih =>
      have next := ih (holds.withOccupant occupant)
      rwa [List.append_assoc] at next

theorem getElem?_side {table : CutoffTable α} {frozen : Bool} {kind : Nat}
    (inside : kind < (table.side frozen).length) :
    (table.side frozen)[kind]? = some (table.largest frozen kind) := by
  rw [largest, List.getD_eq_getElem _ _ inside, List.getElem?_eq_getElem inside]

theorem Holds.place {table : CutoffTable α} {kinds : Nat} {occupants : List (Occupant α)}
    (holds : table.Holds kinds occupants) (frozen : Bool) {kind : Nat} (inside : kind ≤ kinds) :
    kind < (table.side frozen).length := by
  rw [holds.length]
  omega

/-- A table is known by the particles that it has room for. -/
theorem Holds.unique {table other : CutoffTable α} {kinds : Nat}
    {occupants others : List (Occupant α)} (holds : table.Holds kinds occupants)
    (otherHolds : other.Holds kinds others)
    (same : ∀ occupant, occupant ∈ occupants ↔ occupant ∈ others) : table = other := by
  have sides : ∀ frozen, table.side frozen = other.side frozen := by
    intro frozen
    apply List.ext_getElem?
    intro kind
    by_cases inside : kind ≤ kinds
    · have radii : Occupant.radii occupants frozen kind = Occupant.radii others frozen kind := by
        ext radius
        exact same ⟨kind, radius, frozen⟩
      have greatest := holds.greatest frozen kind inside
      rw [radii] at greatest
      rw [getElem?_side (holds.place frozen inside), getElem?_side (otherHolds.place frozen inside),
        greatest.unique (otherHolds.greatest frozen kind inside)]
    · rw [List.getElem?_eq_none, List.getElem?_eq_none]
      · rw [otherHolds.length]
        omega
      · rw [holds.length]
        omega
  have free : table.free = other.free := sides false
  have frozen : table.frozen = other.frozen := sides true
  rcases table with ⟨_, _⟩
  rcases other with ⟨_, _⟩
  subst free frozen
  rfl

/-! ## Cutoffs -/

theorem cutoff_eq (table : CutoffTable α) (first second : Nat) :
    table.cutoff first second =
      max (max (table.largest false first + table.largest false second)
        (table.largest true first + table.largest false second))
        (table.largest false first + table.largest true second) := by
  rw [cutoff, Scalar.maximum_eq_max, Scalar.maximum_eq_max]
  rfl

theorem cutoff_comm (table : CutoffTable α) (first second : Nat) :
    table.cutoff second first = table.cutoff first second := by
  rw [cutoff_eq, cutoff_eq, max_right_comm, add_comm (table.largest false second),
    add_comm (table.largest false second), add_comm (table.largest true second)]

/-- A cutoff is one of three sums, in none of which both sides are frozen. -/
theorem exists_cutoff_eq_sum (table : CutoffTable α) (first second : Nat) :
    ∃ left right, ¬(left = true ∧ right = true) ∧
      table.cutoff first second = table.largest left first + table.largest right second := by
  rw [cutoff_eq]
  rcases max_choice (max (table.largest false first + table.largest false second)
    (table.largest true first + table.largest false second))
    (table.largest false first + table.largest true second) with before | last
  · rcases max_choice (table.largest false first + table.largest false second)
      (table.largest true first + table.largest false second) with free | frozen
    · exact ⟨false, false, by decide, before.trans free⟩
    · exact ⟨true, false, by decide, before.trans frozen⟩
  · exact ⟨false, true, by decide, last⟩

theorem sum_le_cutoff (table : CutoffTable α) (first second : Nat) {left right : Bool}
    (free : ¬(left = true ∧ right = true)) :
    table.largest left first + table.largest right second ≤ table.cutoff first second := by
  rw [cutoff_eq]
  cases left with
  | false =>
      cases right with
      | false => exact (le_max_left _ _).trans (le_max_left _ _)
      | true => exact le_max_right _ _
  | true =>
      cases right with
      | false => exact (le_max_right _ _).trans (le_max_left _ _)
      | true => exact absurd ⟨rfl, rfl⟩ free

section

variable {table : CutoffTable α} {kinds : Nat} {occupants : List (Occupant α)}

theorem Holds.radius_le (holds : table.Holds kinds occupants) {occupant : Occupant α}
    (member : occupant ∈ occupants) (inside : occupant.kind ≤ kinds) :
    occupant.radius ≤ table.largest occupant.frozen occupant.kind :=
  (holds.greatest occupant.frozen occupant.kind inside).2 (.inr member)

/-- A largest radius that is not zero is that of a particle. -/
theorem Holds.mem_of_pos (holds : table.Holds kinds occupants) {frozen : Bool} {kind : Nat}
    (inside : kind ≤ kinds) (some : 0 < table.largest frozen kind) :
    (⟨kind, table.largest frozen kind, frozen⟩ : Occupant α) ∈ occupants :=
  (holds.greatest frozen kind inside).1.resolve_left some.ne'

/-- The cutoff reaches any two particles that are not both frozen. -/
theorem Holds.le_cutoff (holds : table.Holds kinds occupants) {first second : Occupant α}
    (firstMember : first ∈ occupants) (secondMember : second ∈ occupants)
    (firstInside : first.kind ≤ kinds) (secondInside : second.kind ≤ kinds)
    (free : ¬(first.frozen = true ∧ second.frozen = true)) :
    first.radius + second.radius ≤ table.cutoff first.kind second.kind :=
  (add_le_add (holds.radius_le firstMember firstInside)
    (holds.radius_le secondMember secondInside)).trans (table.sum_le_cutoff _ _ free)

/-- The cutoff of two kinds that both have free particles is what some two of
their particles need. -/
theorem Holds.exists_cutoff_eq (holds : table.Holds kinds occupants) {first second : Nat}
    (firstInside : first ≤ kinds) (secondInside : second ≤ kinds)
    (firstFree : 0 < table.largest false first) (secondFree : 0 < table.largest false second) :
    ∃ left ∈ occupants, ∃ right ∈ occupants, left.kind = first ∧ right.kind = second ∧
      ¬(left.frozen = true ∧ right.frozen = true) ∧
      table.cutoff first second = left.radius + right.radius := by
  rcases table.exists_cutoff_eq_sum first second with ⟨left, right, free, same⟩
  have bothFree : table.largest false first + table.largest false second ≤
      table.largest left first + table.largest right second :=
    same ▸ table.sum_le_cutoff first second (by decide)
  -- A side without such particles counts as zero, and the sum of two free radii is larger.
  have firstSome : 0 < table.largest left first := by
    cases left with
    | false => exact firstFree
    | true =>
        cases right with
        | false => linarith only [bothFree, firstFree]
        | true => exact absurd ⟨rfl, rfl⟩ free
  have secondSome : 0 < table.largest right second := by
    cases right with
    | false => exact secondFree
    | true =>
        cases left with
        | false => linarith only [bothFree, secondFree]
        | true => exact absurd ⟨rfl, rfl⟩ free
  exact ⟨_, holds.mem_of_pos firstInside firstSome, _, holds.mem_of_pos secondInside secondSome,
    rfl, rfl, free, same⟩

end

/-! ## Workers -/

/-- The table of a worker has room for its own particles. -/
theorem holds_ofWorker (assembly : Assembly α) (inserted : List (Nat × α)) :
    (ofWorker assembly inserted).Holds assembly.kindCount
      (inserted.map .ofInserted ++ assembly.owned.map .ofParticle) := by
  have folds : ofWorker assembly inserted =
      (inserted.map Occupant.ofInserted ++ assembly.owned.map Occupant.ofParticle).foldl
        withOccupant (zeros assembly.kindWord) := by
    rw [List.foldl_append, List.foldl_map, List.foldl_map]
    rfl
  rw [folds]
  exact (holds_zeros assembly.kindWord).foldl _

end CutoffTable

/-- A worker that builds its cutoffs: its particles, what will be inserted, and
its transport in a state. -/
structure Worker (σ α : Type) where
  assembly : Assembly α
  inserted : List (Nat × α)
  exchange : Exchange σ α
  state : σ

namespace Worker

variable {σ : Type} {workers : List (Worker σ α)} {worker : Worker σ α} {kinds : Nat}

/-- The particles that a worker knows of. -/
def occupants (worker : Worker σ α) : List (Occupant α) :=
  worker.inserted.map .ofInserted ++ worker.assembly.owned.map .ofParticle

/-- The table of a worker's own particles. -/
def table (worker : Worker σ α) : CutoffTable α := .ofWorker worker.assembly worker.inserted

/-- The table that a worker ends with. -/
def cutoffs (worker : Worker σ α) : CutoffTable α :=
  (CutoffTable.build worker.exchange worker.assembly worker.inserted worker.state).1

/-- A worker's part in the reduction of the radii of free particles. -/
def freePart (worker : Worker σ α) : Exchange.Part σ α :=
  ⟨worker.exchange, worker.state, worker.table.free⟩

/-- A worker's part in the reduction of the radii of frozen particles, which
follows the other one. -/
def frozenPart (worker : Worker σ α) : Exchange.Part σ α :=
  ⟨worker.exchange, worker.freePart.received.2, worker.table.frozen⟩

/-- Workers whose transports take part in the same two reductions. -/
structure Joint (workers : List (Worker σ α)) : Prop where
  free : Exchange.Reduces (workers.map freePart)
  frozen : Exchange.Reduces (workers.map frozenPart)

/-- Every worker ends with the largest of the radii that all of them have. -/
theorem Joint.isLargest (joint : Joint workers) (member : worker ∈ workers) (frozen : Bool) :
    IsLargest (workers.map fun other => other.table.side frozen) (worker.cutoffs.side frozen) := by
  cases frozen with
  | false =>
      have largest := joint.free worker.freePart (List.mem_map_of_mem member)
      rwa [List.map_map] at largest
  | true =>
      have largest := joint.frozen worker.frozenPart (List.mem_map_of_mem member)
      rwa [List.map_map] at largest

/-- The table that a worker ends with has room for the particles of all. -/
theorem Joint.holds (joint : Joint workers)
    (alike : ∀ worker ∈ workers, worker.assembly.kindCount = kinds) (member : worker ∈ workers) :
    worker.cutoffs.Holds kinds (workers.flatMap occupants) := by
  have own : ∀ other ∈ workers, other.table.Holds kinds other.occupants := by
    intro other otherMember
    rw [← alike other otherMember]
    exact CutoffTable.holds_ofWorker other.assembly other.inserted
  have length : ∀ frozen, (worker.cutoffs.side frozen).length = kinds + 1 := by
    intro frozen
    rw [← (joint.isLargest member frozen).length _ (List.mem_map_of_mem member),
      (own worker member).length]
  refine ⟨length, ?_⟩
  intro frozen kind inside
  have place : kind < (worker.cutoffs.side frozen).length := by
    rw [length]
    omega
  have greatest := (joint.isLargest member frozen).greatest kind _
    (CutoffTable.getElem?_side place)
  have entry : ∀ other ∈ workers, (other.table.side frozen)[kind]? =
      some (other.table.largest frozen kind) :=
    fun other otherMember => CutoffTable.getElem?_side ((own other otherMember).place frozen inside)
  have least : ∀ other ∈ workers,
      other.table.largest frozen kind ≤ worker.cutoffs.largest frozen kind :=
    fun other otherMember => greatest.2 ⟨_, List.mem_map_of_mem otherMember, entry other otherMember⟩
  constructor
  · rcases greatest.1 with ⟨_, contributed, here⟩
    rcases List.mem_map.mp contributed with ⟨other, otherMember, rfl⟩
    rw [entry other otherMember] at here
    rw [← Option.some.inj here]
    rcases ((own other otherMember).greatest frozen kind inside).1 with zero | present
    · exact .inl zero
    · exact .inr (List.mem_flatMap.mpr ⟨other, otherMember, present⟩)
  · intro radius found
    rcases found with rfl | present
    · exact (((own worker member).greatest frozen kind inside).2 (.inl rfl)).trans
        (least worker member)
    · rcases List.mem_flatMap.mp present with ⟨other, otherMember, known⟩
      exact (((own other otherMember).greatest frozen kind inside).2 (.inr known)).trans
        (least other otherMember)

/-- The cutoffs reach every contact, and do not depend on who owns what.  Take
workers with the same number of kinds whose transports take part in the same two
reductions, with any particles and insertions.  Each of them ends with the table
that one worker alone has who owns all particles and knows of all insertions.  The
order of two kinds makes no difference to their cutoff; it reaches every two
particles of these kinds that are not both frozen, wherever they are owned or
announced; and if both kinds have a free particle with a radius above zero, it is
what some two of their particles that are not both frozen need. -/
theorem cutoffs_joint (alike : ∀ worker ∈ workers, worker.assembly.kindCount = kinds)
    (joint : Joint workers) :
    let present := workers.flatMap occupants
    (∀ (whole : Assembly α) (inserted : List (Nat × α)), whole.kindCount = kinds →
      whole.owned.Perm (workers.flatMap fun worker => worker.assembly.owned) →
      inserted.Perm (workers.flatMap Worker.inserted) →
        ∀ worker ∈ workers, worker.cutoffs = (CutoffTable.build .serial whole inserted ()).1) ∧
    ∀ worker ∈ workers,
      (∀ first second,
        worker.cutoffs.cutoff second first = worker.cutoffs.cutoff first second) ∧
      (∀ first ∈ present, ∀ second ∈ present, first.kind ≤ kinds → second.kind ≤ kinds →
        ¬(first.frozen = true ∧ second.frozen = true) →
          first.radius + second.radius ≤ worker.cutoffs.cutoff first.kind second.kind) ∧
      ∀ first ≤ kinds, ∀ second ≤ kinds,
        (∃ left ∈ present, left.kind = first ∧ left.frozen = false ∧ 0 < left.radius) →
        (∃ right ∈ present, right.kind = second ∧ right.frozen = false ∧ 0 < right.radius) →
          ∃ left ∈ present, ∃ right ∈ present, left.kind = first ∧ right.kind = second ∧
            ¬(left.frozen = true ∧ right.frozen = true) ∧
            worker.cutoffs.cutoff first second = left.radius + right.radius := by
  intro present
  refine ⟨?_, ?_⟩
  · intro whole inserted count owned announced worker member
    have serial : (CutoffTable.build .serial whole inserted ()).1 =
        CutoffTable.ofWorker whole inserted := rfl
    rw [serial]
    have holds := CutoffTable.holds_ofWorker whole inserted
    rw [count] at holds
    refine (joint.holds alike member).unique holds fun occupant => ?_
    rw [List.mem_append, (announced.map _).mem_iff, (owned.map _).mem_iff, List.map_flatMap,
      List.map_flatMap, List.mem_flatMap, List.mem_flatMap, List.mem_flatMap, ← exists_or]
    refine exists_congr fun other => ?_
    rw [← and_or_left, ← List.mem_append]
    rfl
  · intro worker member
    have holds := joint.holds alike member
    refine ⟨worker.cutoffs.cutoff_comm, ?_, ?_⟩
    · intro first firstMember second secondMember firstInside secondInside free
      exact holds.le_cutoff firstMember secondMember firstInside secondInside free
    · intro first firstInside second secondInside firstFree secondFree
      rcases firstFree with ⟨left, leftMember, rfl, leftFree, leftPositive⟩
      rcases secondFree with ⟨right, rightMember, rfl, rightFree, rightPositive⟩
      have leftLargest := holds.radius_le leftMember firstInside
      have rightLargest := holds.radius_le rightMember secondInside
      rw [leftFree] at leftLargest
      rw [rightFree] at rightLargest
      exact holds.exists_cutoff_eq firstInside secondInside (leftPositive.trans_le leftLargest)
        (rightPositive.trans_le rightLargest)

/-- Two workers, each of which is sent the radii of the other. -/
def couple (assembly other : Assembly α) (inserted otherInserted : List (Nat × α)) :
    List (Worker (Exchange.Script α) α) :=
  let own := CutoffTable.ofWorker assembly inserted
  let remote := CutoffTable.ofWorker other otherInserted
  [⟨assembly, inserted, .scripted, ⟨[], [remote.free, remote.frozen]⟩⟩,
    ⟨other, otherInserted, .scripted, ⟨[], [own.free, own.frozen]⟩⟩]

theorem joint_couple {assembly other : Assembly α} (inserted otherInserted : List (Nat × α))
    (alike : assembly.kindCount = other.kindCount) :
    Joint (couple assembly other inserted otherInserted) := by
  have same : ∀ frozen, ((CutoffTable.ofWorker assembly inserted).side frozen).length =
      ((CutoffTable.ofWorker other otherInserted).side frozen).length := by
    intro frozen
    rw [(CutoffTable.holds_ofWorker assembly inserted).length,
      (CutoffTable.holds_ofWorker other otherInserted).length, alike]
  constructor
  · intro part member
    rcases List.mem_pair.mp member with rfl | rfl
    · exact Exchange.isLargest_raiseAll (same false)
    · exact (Exchange.isLargest_raiseAll (same false).symm).perm (.swap ..)
  · intro part member
    rcases List.mem_pair.mp member with rfl | rfl
    · exact Exchange.isLargest_raiseAll (same true)
    · exact (Exchange.isLargest_raiseAll (same true).symm).perm (.swap ..)

/-- A sphere of one worker and a larger, frozen one of another, which also expects
a small sphere of a second kind: both workers end with the table of one that has
them all, and the cutoff of the two kinds is a sum of two of their radii. -/
theorem cutoffs_joint_besideAnchor :
    let free : Particle ℝ := .atRest ⟨1⟩ 0 1 1
    let anchor : Particle ℝ := { Particle.atRest ⟨2⟩ 0 2 1 with frozen := true }
    let workers := couple ((Assembly.ofOwned [free]).withKinds 2)
      ((Assembly.ofOwned [anchor]).withKinds 2) [] [(2, 1 / 2)]
    ∀ worker ∈ workers,
      worker.cutoffs = (CutoffTable.build .serial ((Assembly.ofOwned [anchor, free]).withKinds 2)
        [(2, 1 / 2)] ()).1 ∧
      1 + 2 ≤ worker.cutoffs.cutoff 1 1 ∧
      ∃ left ∈ workers.flatMap occupants, ∃ right ∈ workers.flatMap occupants,
        worker.cutoffs.cutoff 1 2 = left.radius + right.radius := by
  intro free anchor workers worker member
  have alike : ∀ worker ∈ workers, worker.assembly.kindCount = 2 := by
    intro worker member
    rcases List.mem_pair.mp member with rfl | rfl <;> rfl
  obtain ⟨serial, reach⟩ := cutoffs_joint alike (joint_couple [] [(2, 1 / 2)] rfl)
  obtain ⟨-, covers, tight⟩ := reach worker member
  have present : workers.flatMap occupants =
      [.ofParticle free, .ofInserted (2, 1 / 2), .ofParticle anchor] := rfl
  have freeMember : Occupant.ofParticle free ∈ workers.flatMap occupants := by simp [present]
  have insertedMember : Occupant.ofInserted (2, 1 / 2) ∈ workers.flatMap occupants := by
    simp [present]
  have anchorMember : Occupant.ofParticle anchor ∈ workers.flatMap occupants := by simp [present]
  refine ⟨serial ((Assembly.ofOwned [anchor, free]).withKinds 2) [(2, 1 / 2)] rfl
    (List.Perm.swap free anchor []) (.refl _) worker member, ?_, ?_⟩
  · exact covers _ freeMember _ anchorMember (by decide) (by decide) (by decide)
  · rcases tight 1 (by decide) 2 (by decide) ⟨_, freeMember, rfl, rfl, one_pos⟩
      ⟨_, insertedMember, rfl, rfl, one_half_pos⟩ with
      ⟨left, leftMember, right, rightMember, -, -, -, same⟩
    exact ⟨left, leftMember, right, rightMember, same⟩

end Worker

end GranularBonds

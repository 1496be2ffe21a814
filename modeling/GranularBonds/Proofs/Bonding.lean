import GranularBonds.Bonding
import GranularBonds.Proofs.Contact.Pass

/-!
# Bonds in a ledger

Three operations write to a ledger: bonding, pruning and passes.  All of them
keep its records sound.  Bonds are formed by the first alone; pruning and
passes continue every bond that they do not break, and a bond can be broken
only by an encounter of its pair.
-/

namespace GranularBonds

variable {α : Type} [Scalar α]

/-! ## Bonding as a fold -/

namespace Encounter

/-- The first record of the pair. -/
def firstRecord (material : Material α) (encounter : Encounter α) : ContactRecord α :=
  material.firstRecord encounter.firstParticle.radius encounter.secondParticle.radius
    (encounter.firstParticle.position - encounter.secondParticle.position).norm

end Encounter

namespace Material

variable (material : Material α)

/-- Give the pair of an encounter its first record. -/
def bond (state : BondingReport × Ledger α) (encounter : Encounter α) :
    BondingReport × Ledger α :=
  let record := encounter.firstRecord material
  (state.1.counting record.isCohesive, state.2.insert encounter.key record)

/-- What bonding puts into a ledger. -/
theorem foldl_bond_snd (encounters : List (Encounter α)) (state : BondingReport × Ledger α) :
    (encounters.foldl material.bond state).2 =
      encounters.foldl
        (fun ledger encounter => ledger.insert encounter.key (encounter.firstRecord material))
        state.2 := by
  induction encounters generalizing state with
  | nil => rfl
  | cons encounter later ih => exact ih (material.bond state encounter)

/-- Bonding succeeds for the lists that pass the check, and then it is the fold
over their encounters. -/
theorem formBonds_eq_ok_iff {assembly : Assembly α} {list : NeighborList} {ledger : Ledger α}
    {after : BondingReport × Ledger α} :
    material.formBonds assembly list ledger = .ok after ↔
      list.check assembly = .ok () ∧
        after = (list.encounters assembly).foldl material.bond (⟨0, 0⟩, ledger) := by
  rw [NeighborList.check_eq_ok_iff]
  simp only [formBonds, NeighborList.encounters]
  generalize list.pairs = pairs
  generalize ((⟨0, 0⟩, ledger) : BondingReport × Ledger α) = state
  induction pairs generalizing state with
  | nil =>
      simp only [List.foldlM_nil, List.filterMap_nil, List.foldl_nil]
      constructor
      · intro same
        exact ⟨List.forall_mem_nil _, (Except.ok.inj same).symm⟩
      · intro found
        rcases found with ⟨-, rfl⟩
        rfl
  | cons pair pairs ih =>
      have bonded : ∀ {between}, material.bondPair assembly state pair = .ok between ↔
          ∃ encounter, Encounter.at? assembly pair = some encounter ∧
            between = material.bond state encounter := by
        intro between
        simp only [bondPair, bind_eq_ok_iff, Assembly.particle_eq_ok_iff,
          Encounter.at?_eq_some_iff]
        constructor
        · intro found
          rcases found with ⟨first, firstHere, second, secondHere, same⟩
          exact ⟨_, ⟨first, second, firstHere, secondHere, rfl⟩, (Except.ok.inj same).symm⟩
        · intro found
          rcases found with ⟨_, ⟨first, second, firstHere, secondHere, rfl⟩, rfl⟩
          exact ⟨first, firstHere, second, secondHere, rfl⟩
      simp only [List.foldlM_cons, List.filterMap_cons, List.forall_mem_cons, bind_eq_ok_iff,
        bonded, ih]
      constructor
      · intro found
        rcases found with ⟨_, ⟨encounter, met, rfl⟩, inside, rfl⟩
        exact ⟨⟨Encounter.exists_at?_iff.mp ⟨encounter, met⟩, inside⟩, by rw [met]; rfl⟩
      · intro found
        rcases found with ⟨⟨here, inside⟩, rfl⟩
        rcases Encounter.exists_at?_iff.mpr here with ⟨encounter, met⟩
        exact ⟨_, ⟨encounter, met, rfl⟩, inside, by rw [met]; rfl⟩

end Material

/-! ## Soundness -/

namespace Ledger

/-- Every record is sound. -/
def Sound (ledger : Ledger α) : Prop :=
  ∀ key record, ledger.get? key = some record → record.Sound

namespace Sound

variable {ledger : Ledger α}

theorem empty : (Ledger.empty : Ledger α).Sound := by
  intro key record present
  rw [get?_empty] at present
  cases present

theorem getOrFresh (sound : ledger.Sound) (key : PairKey) : (ledger.getOrFresh key).Sound := by
  unfold Ledger.getOrFresh
  cases present : ledger.get? key with
  | none => exact .fresh
  | some record => exact sound key record present

theorem insert (sound : ledger.Sound) (key : PairKey) {record : ContactRecord α}
    (recordSound : record.Sound) : (ledger.insert key record).Sound := by
  intro other found present
  rw [get?_insert] at present
  split at present
  · exact Option.some.inj present ▸ recordSound
  · exact sound other found present

theorem retain (sound : ledger.Sound) (listed : List PairKey) : (ledger.retain listed).Sound := by
  intro key kept present
  rw [get?_retain] at present
  split at present
  · exact sound key kept present
  · rcases Option.bind_eq_some_iff.mp present with ⟨record, before, same⟩
    split at same
    · exact Option.some.inj same ▸ (sound key record before).parted
    · cases same

theorem meet (context : PassContext α) {state : PassState α} (sound : state.ledger.Sound)
    (encounter : Encounter α) : (context.meet state encounter).ledger.Sound :=
  sound.insert encounter.key
    ((sound.getOrFresh encounter.key).exit (context.material.evaluate_exit ..))

theorem foldl_meet (context : PassContext α) {state : PassState α} (sound : state.ledger.Sound)
    (encounters : List (Encounter α)) :
    (encounters.foldl context.meet state).ledger.Sound := by
  induction encounters generalizing state with
  | nil => exact sound
  | cons encounter later ih => exact ih (sound.meet context encounter)

theorem firstRecord (material : Material α) (first second distance : α) :
    (material.firstRecord first second distance).Sound := by
  unfold Material.firstRecord
  split
  · exact .bonded _ _
  · exact .fresh

theorem foldl_bond (material : Material α) {state : BondingReport × Ledger α}
    (sound : state.2.Sound) (encounters : List (Encounter α)) :
    (encounters.foldl material.bond state).2.Sound := by
  induction encounters generalizing state with
  | nil => exact sound
  | cons encounter later ih =>
      exact ih (sound.insert encounter.key (firstRecord material ..))

end Sound

/-! ## Succession -/

/-- What a pass leaves of a pair that it does not meet. -/
theorem get?_foldl_meet_of_unlisted (context : PassContext α) {encounters : List (Encounter α)}
    {key : PairKey} (unlisted : ∀ encounter ∈ encounters, encounter.key ≠ key)
    (state : PassState α) :
    (encounters.foldl context.meet state).ledger.get? key = state.ledger.get? key := by
  induction encounters generalizing state with
  | nil => rfl
  | cons encounter later ih =>
      have here := (List.forall_mem_cons.mp unlisted).1
      have rest := (List.forall_mem_cons.mp unlisted).2
      rw [List.foldl_cons, ih rest]
      exact (get?_insert ..).trans (if_neg here)

/-- A pass continues what is known about every pair, however often it meets
it. -/
theorem foldl_meet_succession (context : PassContext α) (encounters : List (Encounter α))
    (state : PassState α) (key : PairKey) :
    ContactRecord.Succession (state.ledger.get? key)
      ((encounters.foldl context.meet state).ledger.get? key) := by
  suffices evolved : (encounters.foldl context.meet state).ledger.get? key =
      state.ledger.get? key ∨
      ∃ record, (encounters.foldl context.meet state).ledger.get? key = some record ∧
        (state.ledger.getOrFresh key).Continues record by
    rcases evolved with same | ⟨record, present, continues⟩
    · exact same ▸ .refl _
    · exact present ▸ .of_continues continues
  induction encounters generalizing state with
  | nil => exact .inl rfl
  | cons encounter later ih =>
      have met : (context.meet state encounter).ledger.get? key = _ :=
        get?_insert state.ledger encounter.key key _
      by_cases here : encounter.key = key
      · -- Whatever later encounters do continues the record of this one.
        right
        have first : (state.ledger.getOrFresh key).Continues
            (encounter.evaluate context (state.ledger.getOrFresh encounter.key)).2 := by
          rw [here]
          exact .exit (context.material.evaluate_exit ..)
        rw [if_pos here] at met
        rcases ih (context.meet state encounter) with same | ⟨record, present, continues⟩
        · exact ⟨_, same.trans met, first⟩
        · rw [getOrFresh_of_get? met] at continues
          exact ⟨record, present, first.trans continues⟩
      · rw [if_neg here] at met
        have fresh : (context.meet state encounter).ledger.getOrFresh key =
            state.ledger.getOrFresh key := by
          rw [getOrFresh, met, getOrFresh]
        rcases ih (context.meet state encounter) with same | ⟨record, present, continues⟩
        · exact .inl (same.trans met)
        · exact .inr ⟨record, present, fresh ▸ continues⟩

/-- What pruning leaves of a pair that is not listed: its bond, and nothing
without one. -/
theorem retain_succession (ledger : Ledger α) {listed : List PairKey} {key : PairKey}
    (unlisted : key ∉ listed) :
    ContactRecord.Succession (ledger.get? key) ((ledger.retain listed).get? key) := by
  rw [get?_retain, if_neg unlisted]
  cases ledger.get? key with
  | none => exact .absent
  | some record =>
      cases cohesive : record.isCohesive with
      | true => simpa [cohesive] using .kept (.parted record)
      | false => simpa [cohesive] using .forgotten record cohesive

end Ledger

end GranularBonds

import GranularBonds.Proofs.Contact.Touch

/-!
# Counting broken bonds

The break totals of a ledger are sums over the records that it holds.  In a
sound ledger they are the numbers of records whose bond is broken in the one
way or the other.  Main statements: a pass adds to these numbers what its
report counts, and pruning takes away the broken records that it removes, and
no more.
-/

namespace GranularBonds

variable {α : Type} [Scalar α]

/-! ## Sound records -/

namespace ContactRecord

omit [Scalar α] in
/-- Whether the bond is in a state, as a number. -/
def isIn (state : BondState) (record : ContactRecord α) : Nat :=
  (decide (record.bond = state)).toNat

omit [Scalar α] in
/-- Number of breaks of a kind that a record counts. -/
def breaks (record : ContactRecord α) : BondState → Nat
  | .brokenTensile => record.tensileBreaks
  | .brokenShear => record.shearBreaks
  | .neverBonded | .bonded => 0

omit [Scalar α] in
/-- A bond that never broke is in no broken state. -/
theorem isIn_eq_zero {state : BondState} (broke : state.isBroken = true)
    {record : ContactRecord α} (whole : record.bond = .neverBonded ∨ record.bond = .bonded) :
    record.isIn state = 0 := by
  rw [isIn]
  rcases whole with bond | bond <;> rw [bond] <;> cases state <;> first | rfl | cases broke

/-- A sound record counts the break of its bond. -/
theorem Sound.breaks_eq {record : ContactRecord α} (sound : record.Sound) {state : BondState}
    (broke : state.isBroken = true) : record.breaks state = record.isIn state := by
  cases bond : record.bond with
  | neverBonded =>
      rw [isIn_eq_zero broke (.inl bond)]
      cases state <;> simp [breaks, sound.unbroken (.inl bond)]
  | bonded =>
      rw [isIn_eq_zero broke (.inr bond)]
      cases state <;> simp [breaks, sound.unbroken (.inr bond)]
  | brokenTensile =>
      cases state with
      | neverBonded | bonded => cases broke
      | brokenTensile | brokenShear => simp [breaks, isIn, bond, sound.torn bond]
  | brokenShear =>
      cases state with
      | neverBonded | bonded => cases broke
      | brokenTensile | brokenShear => simp [breaks, isIn, bond, sound.sheared bond]

/-- An evaluation puts a bond into a broken state when it breaks it so. -/
theorem Exit.isIn_eq {record after : ContactRecord α} {outcome : Outcome α}
    (exit : record.Exit outcome after) {state : BondState} (broke : state.isBroken = true) :
    after.isIn state = record.isIn state + (decide (outcome.break? = some state)).toNat := by
  cases breaks : outcome.break? with
  | none => rw [isIn, exit.bond_eq, breaks]; simp [isIn]
  | some broken =>
      rw [isIn_eq_zero broke (.inr (exit.bonded_of_break? breaks)), isIn, exit.bond_eq, breaks]
      simp

end ContactRecord

namespace Ledger

/-! ## Records in a state -/

omit [Scalar α] in
/-- Number of pairs whose bond is in a state. -/
def inState (state : BondState) (ledger : Ledger α) : Nat :=
  ledger.total (ContactRecord.isIn state)

omit [Scalar α] in
/-- Number of pairs whose bond was in a state and of which nothing is
remembered afterwards. -/
def removed (state : BondState) (before after : Ledger α) : Nat :=
  before.entries.countP fun entry =>
    decide (entry.2.bond = state) && (after.get? entry.1).isNone

omit [Scalar α] in
theorem total_congr {ledger : Ledger α} {left right : ContactRecord α → Nat}
    (same : ∀ key record, ledger.get? key = some record → left record = right record) :
    ledger.total left = ledger.total right := by
  rw [total, total]
  congr 1
  apply List.map_congr_left
  intro entry member
  exact same entry.1 entry.2 ((ledger.mem_entries_iff ..).mp member)

omit [Scalar α] in
/-- The break total of a kind. -/
def breaks (ledger : Ledger α) : BondState → Nat
  | .brokenTensile => ledger.tensileBreaks
  | .brokenShear => ledger.shearBreaks
  | .neverBonded | .bonded => 0

/-- The break total of a sound ledger is the number of the bonds so broken that
it remembers. -/
theorem Sound.breaks_eq {ledger : Ledger α} (sound : ledger.Sound) {state : BondState}
    (broke : state.isBroken = true) : ledger.breaks state = ledger.inState state := by
  have sum : ledger.breaks state = ledger.total fun record => record.breaks state := by
    cases state with
    | neverBonded | bonded => cases broke
    | brokenTensile | brokenShear =>
        rw [total, List.sum_eq_foldr, List.foldr_map]
        rfl
  rw [sum]
  exact total_congr fun key record present => (sound key record present).breaks_eq broke

omit [Scalar α] in
/-- Nothing is removed when all pairs in the state are remembered. -/
theorem removed_eq_zero {state : BondState} {before after : Ledger α}
    (kept : ∀ key record, before.get? key = some record → record.bond = state →
      (after.get? key).isSome = true) : before.removed state after = 0 := by
  rw [removed, List.countP_eq_zero]
  intro entry member
  have present := (before.mem_entries_iff entry.1 entry.2).mp member
  by_cases bond : entry.2.bond = state
  · simp [bond, Option.isSome_iff_ne_none.mp (kept entry.1 entry.2 present bond)]
  · simp [bond]

omit [Scalar α] in
theorem removed_self (state : BondState) (ledger : Ledger α) : ledger.removed state ledger = 0 :=
  removed_eq_zero fun key record present _ => by rw [present]; rfl

omit [Scalar α] in
/-- What is removed depends on what is remembered afterwards of the pairs that
were remembered before. -/
theorem removed_congr (state : BondState) {before left right : Ledger α}
    (same : ∀ key, (before.get? key).isSome = true →
      (left.get? key).isSome = (right.get? key).isSome) :
    before.removed state left = before.removed state right := by
  apply List.countP_congr
  intro entry member
  have present := (before.mem_entries_iff entry.1 entry.2).mp member
  simp only [← Option.not_isSome, same entry.1 (by rw [present]; rfl)]

/-- Pruning takes away what it removes. -/
theorem inState_retain (ledger : Ledger α) (listed : List PairKey) (state : BondState) :
    (ledger.retain listed).inState state + ledger.removed state (ledger.retain listed) =
      ledger.inState state := by
  have gone : ledger.removed state (ledger.retain listed) = ledger.entries.countP fun entry =>
      decide (entry.2.bond = state) && (retained? listed entry).isNone := by
    apply List.countP_congr
    intro entry member
    have present := (ledger.mem_entries_iff entry.1 entry.2).mp member
    simp only [get?_retain, present, retained?, List.contains_iff_mem, Option.bind_some]
    split
    · rfl
    · cases entry.2.isCohesive <;> rfl
  rw [gone]
  simp only [inState, total, retain]
  induction ledger.entries with
  | nil => rfl
  | cons entry later ih =>
      -- What is left of a record is in the same state.
      have here : ((retained? listed entry).map fun kept => kept.2.isIn state).getD 0 +
          (decide (entry.2.bond = state) && (retained? listed entry).isNone).toNat =
            entry.2.isIn state := by
        unfold retained?
        split
        · simp [ContactRecord.isIn]
        · split <;> simp [ContactRecord.isIn, ContactRecord.apart]
      rw [List.filterMap_cons, List.countP_cons, List.map_cons, List.sum_cons, ← ih, ← here]
      cases retained? listed entry with
      | none =>
          by_cases bond : entry.2.bond = state
          · simp [bond]
            omega
          · simp [bond]
      | some kept => simp [Nat.add_assoc]

end Ledger

/-! ## Passes and bonding -/

namespace PassContext

variable (context : PassContext α)

/-- A pass adds the breaks that it counts. -/
theorem inState_foldl_meet (encounters : List (Encounter α)) (state : PassState α)
    {broken : BondState} (broke : broken.isBroken = true) :
    (encounters.foldl context.meet state).ledger.inState broken + state.report.broken broken =
      state.ledger.inState broken +
        (encounters.foldl context.meet state).report.broken broken := by
  induction encounters generalizing state with
  | nil => rfl
  | cons encounter later ih =>
      let result := encounter.evaluate context (state.ledger.getOrFresh encounter.key)
      have counted : (context.meet state encounter).report.broken broken =
          state.report.broken broken + (decide (result.1.break? = some broken)).toNat :=
        PassReport.broken_counting ..
      have record : result.2.isIn broken = (state.ledger.getOrFresh encounter.key).isIn broken +
          (decide (result.1.break? = some broken)).toNat :=
        (context.meet_exit state encounter).isIn_eq broke
      have written : (context.meet state encounter).ledger.inState broken +
          (state.ledger.getOrFresh encounter.key).isIn broken =
            state.ledger.inState broken + result.2.isIn broken :=
        Ledger.total_insert (ContactRecord.isIn_eq_zero broke (.inl rfl)) ..
      have rest := ih (context.meet state encounter)
      rw [List.foldl_cons]
      omega

end PassContext

/-- Bonding breaks no bond. -/
theorem Material.inState_foldl_bond (material : Material α) (encounters : List (Encounter α))
    (state : BondingReport × Ledger α) {broken : BondState} (broke : broken.isBroken = true) :
    (encounters.foldl material.bond state).2.inState broken ≤ state.2.inState broken := by
  induction encounters generalizing state with
  | nil => exact le_rfl
  | cons encounter later ih =>
      have written : (material.bond state encounter).2.inState broken +
          (state.2.getOrFresh encounter.key).isIn broken =
            state.2.inState broken + (encounter.firstRecord material).isIn broken :=
        Ledger.total_insert (ContactRecord.isIn_eq_zero broke (.inl rfl)) ..
      have whole : (encounter.firstRecord material).isIn broken = 0 := by
        apply ContactRecord.isIn_eq_zero broke
        rw [Encounter.firstRecord, firstRecord]
        split
        · exact .inr rfl
        · exact .inl rfl
      have rest := ih (material.bond state encounter)
      rw [List.foldl_cons]
      omega

end GranularBonds

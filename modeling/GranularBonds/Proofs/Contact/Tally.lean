import Mathlib
import GranularBonds.Proofs.Bonding

/-!
# Counting bonds

Three counts speak of bonds: the report of the bonding, the reports of the
steps, and the live count over the ledger.  An operation on a ledger changes a
sum over it by what it does to single records.  Main statements: bonding and
passes keep the three counts in balance, pruning changes none of them, and the
failures that a pass counts are the pairs whose bond it breaks, each once,
however often it meets them.
-/

namespace GranularBonds

variable {α : Type} [Scalar α]

/-- Exactly so many pairs have a property. -/
def Exactly (count : Nat) (holds : PairKey → Prop) : Prop :=
  ∃ keys : List PairKey, keys.Nodup ∧ keys.length = count ∧ ∀ key, key ∈ keys ↔ holds key

namespace Exactly

variable {count : Nat} {holds : PairKey → Prop}

theorem zero (none : ∀ key, ¬holds key) : Exactly 0 holds :=
  ⟨[], List.nodup_nil, rfl, fun key => iff_of_false (List.not_mem_nil) (none key)⟩

theorem congr {other : PairKey → Prop} (exactly : Exactly count holds)
    (same : ∀ key, other key ↔ holds key) : Exactly count other := by
  rcases exactly with ⟨keys, nodup, length, members⟩
  exact ⟨keys, nodup, length, fun key => (members key).trans (same key).symm⟩

/-- One more pair. -/
theorem succ (exactly : Exactly count holds) {key : PairKey} (new : ¬holds key) :
    Exactly (count + 1) fun other => key = other ∨ holds other := by
  rcases exactly with ⟨keys, nodup, length, members⟩
  refine ⟨key :: keys, List.nodup_cons.mpr ⟨fun member => new ((members key).mp member), nodup⟩,
    congrArg (· + 1) length, fun other => ?_⟩
  rw [List.mem_cons, members, eq_comm]

/-- The pairs with one or the other of two properties that no pair has both. -/
theorem or {other : Nat} {holdsToo : PairKey → Prop} (exactly : Exactly count holds)
    (exactlyToo : Exactly other holdsToo) (apart : ∀ key, holds key → ¬holdsToo key) :
    Exactly (count + other) fun key => holds key ∨ holdsToo key := by
  rcases exactly with ⟨keys, nodup, rfl, members⟩
  rcases exactlyToo with ⟨others, othersNodup, rfl, otherMembers⟩
  refine ⟨keys ++ others, List.nodup_append.mpr ⟨nodup, othersNodup, ?_⟩, List.length_append,
    fun key => ?_⟩
  · intro key member other otherMember same
    exact apart key ((members key).mp member) ((otherMembers key).mp (same ▸ otherMember))
  · rw [List.mem_append, members, otherMembers]

end Exactly

/-! ## Sums over a ledger -/

namespace Ledger

omit [Scalar α] in
/-- Sum of a quantity over all records. -/
def total (weight : ContactRecord α → Nat) (ledger : Ledger α) : Nat :=
  (ledger.entries.map fun entry => weight entry.2).sum

omit [Scalar α] in
/-- The entries of all other pairs. -/
def others (ledger : Ledger α) (key : PairKey) : List (PairKey × ContactRecord α) :=
  ledger.entries.filter fun entry => entry.1 ≠ key

omit [Scalar α] in
theorem mem_others_iff (ledger : Ledger α) (key other : PairKey) (record : ContactRecord α) :
    (other, record) ∈ ledger.others key ↔ ledger.get? other = some record ∧ other ≠ key := by
  simp [others, mem_entries_iff]

omit [Scalar α] in
/-- A ledger is the record of one pair and those of all others. -/
theorem perm_others (ledger : Ledger α) (key : PairKey) :
    ledger.entries.Perm
      ((ledger.get? key).toList.map (fun record => (key, record)) ++ ledger.others key) := by
  have nodup : ((ledger.get? key).toList.map (fun record => (key, record)) ++
      ledger.others key).Nodup := by
    have rest : (ledger.others key).Nodup := ledger.nodup_entries.filter _
    cases ledger.get? key with
    | none => exact rest
    | some record =>
        refine List.nodup_cons.mpr ⟨fun member => ?_, rest⟩
        exact ((ledger.mem_others_iff key key record).mp member).2 rfl
  rw [List.perm_ext_iff_of_nodup ledger.nodup_entries nodup]
  intro entry
  rcases entry with ⟨other, record⟩
  rw [mem_entries_iff, List.mem_append, mem_others_iff]
  by_cases same : other = key
  · subst same
    cases ledger.get? other <;> simp [eq_comm]
  · cases ledger.get? key <;> simp [same]

omit [Scalar α] in
/-- Putting a record under a key leaves the other pairs alone. -/
theorem perm_others_insert (ledger : Ledger α) (key : PairKey) (record : ContactRecord α) :
    ((ledger.insert key record).others key).Perm (ledger.others key) := by
  have before : (ledger.others key).Nodup := ledger.nodup_entries.filter _
  have after : ((ledger.insert key record).others key).Nodup :=
    (ledger.insert key record).nodup_entries.filter _
  rw [List.perm_ext_iff_of_nodup after before]
  intro entry
  rcases entry with ⟨other, found⟩
  simp only [mem_others_iff, get?_insert]
  constructor
  · intro member
    rcases member with ⟨present, different⟩
    exact ⟨by rwa [if_neg (Ne.symm different)] at present, different⟩
  · intro member
    rcases member with ⟨present, different⟩
    exact ⟨by rwa [if_neg (Ne.symm different)], different⟩

omit [Scalar α] in
theorem total_eq_add (weight : ContactRecord α → Nat) (ledger : Ledger α) (key : PairKey) :
    ledger.total weight = ((ledger.get? key).map weight).getD 0 +
      ((ledger.others key).map fun entry => weight entry.2).sum := by
  rw [total, ((ledger.perm_others key).map _).sum_nat]
  cases ledger.get? key <;> simp

/-- A sum changes with the record that is replaced.  A pair without a past
counts with a fresh record, which must not add to the sum. -/
theorem total_insert {weight : ContactRecord α → Nat} (fresh : weight .fresh = 0)
    (ledger : Ledger α) (key : PairKey) (record : ContactRecord α) :
    (ledger.insert key record).total weight + weight (ledger.getOrFresh key) =
      ledger.total weight + weight record := by
  have known : ((ledger.get? key).map weight).getD 0 = weight (ledger.getOrFresh key) := by
    unfold getOrFresh
    cases ledger.get? key with
    | none => exact fresh.symm
    | some record => rfl
  rw [total_eq_add weight (ledger.insert key record) key, total_eq_add weight ledger key, known,
    get?_insert, if_pos rfl, ((ledger.perm_others_insert key record).map _).sum_nat]
  simp only [Option.map_some, Option.getD_some]
  omega

/-- Pruning keeps a sum that depends on bonds alone and to which only pairs
with a bond add. -/
theorem total_retain {weight : ContactRecord α → Nat}
    (parted : ∀ record : ContactRecord α, weight record.apart = weight record)
    (free : ∀ record : ContactRecord α, record.isCohesive = false → weight record = 0)
    (ledger : Ledger α) (listed : List PairKey) :
    (ledger.retain listed).total weight = ledger.total weight := by
  simp only [total, retain]
  induction ledger.entries with
  | nil => rfl
  | cons entry later ih =>
      rw [List.filterMap_cons, List.map_cons, List.sum_cons, ← ih, retained?]
      split
      case h_1 forgotten =>
        split at forgotten
        · cases forgotten
        · cases cohesive : entry.2.isCohesive with
          | true => simp [cohesive] at forgotten
          | false => rw [free entry.2 cohesive, Nat.zero_add]
      case h_2 kept same =>
        split at same
        · rw [← Option.some.inj same, List.map_cons, List.sum_cons]
        · split at same
          · rw [← Option.some.inj same, List.map_cons, List.sum_cons, parted]
          · cases same

omit [Scalar α] in
theorem bondedCount_eq_total (ledger : Ledger α) :
    ledger.bondedCount = ledger.total fun record => record.isCohesive.toNat := by
  simp only [bondedCount, total]
  induction ledger.entries with
  | nil => rfl
  | cons entry later ih =>
      rw [List.countP_cons, ih, List.map_cons, List.sum_cons, Nat.add_comm]
      cases entry.2.isCohesive <;> rfl

/-- The live count changes with the bond that is replaced. -/
theorem bondedCount_insert (ledger : Ledger α) (key : PairKey) (record : ContactRecord α) :
    (ledger.insert key record).bondedCount + (ledger.getOrFresh key).isCohesive.toNat =
      ledger.bondedCount + record.isCohesive.toNat := by
  simp only [bondedCount_eq_total]
  exact total_insert rfl ledger key record

/-- Pruning loses no bond. -/
theorem bondedCount_retain (ledger : Ledger α) (listed : List PairKey) :
    (ledger.retain listed).bondedCount = ledger.bondedCount := by
  simp only [bondedCount_eq_total]
  apply total_retain
  · intro record
    rfl
  · intro record free
    rw [free]
    rfl

/-! ## Bonds by pair -/

/-- What became of the bond of a pair.  A pair without a record never had
one. -/
def bondAt (ledger : Ledger α) (key : PairKey) : BondState := (ledger.getOrFresh key).bond

theorem bondAt_insert (ledger : Ledger α) (key other : PairKey) (record : ContactRecord α) :
    (ledger.insert key record).bondAt other =
      if key = other then record.bond else ledger.bondAt other := by
  simp only [bondAt, getOrFresh, get?_insert]
  split <;> rfl

/-- The bonds that hold are the same before and after pruning. -/
theorem bondAt_retain_eq_bonded_iff (ledger : Ledger α) (listed : List PairKey) (key : PairKey) :
    (ledger.retain listed).bondAt key = .bonded ↔ ledger.bondAt key = .bonded := by
  simp only [bondAt, getOrFresh, get?_retain]
  split
  case isTrue => rfl
  case isFalse unlisted =>
    cases ledger.get? key with
    | none => rfl
    | some record =>
        cases cohesive : record.isCohesive with
        | true => simp [cohesive, ContactRecord.apart]
        | false =>
            have free : record.bond ≠ .bonded := by
              intro bonded
              rw [record.isCohesive_iff.mpr bonded] at cohesive
              cases cohesive
            simp [cohesive, ContactRecord.fresh, free]

end Ledger

/-! ## Breaks in a pass -/

namespace Outcome

omit [Scalar α] in
/-- How the bond of the pair broke, if it did. -/
def break? : Outcome α → Option BondState
  | torn _ => some .brokenTensile
  | contact force => if force.sheared then some .brokenShear else none
  | separated | coincident => none

omit [Scalar α] in
theorem ne_bonded_of_break? {outcome : Outcome α} {state : BondState}
    (breaks : outcome.break? = some state) : state ≠ .bonded := by
  cases outcome with
  | separated | coincident => cases breaks
  | torn overlap =>
      cases breaks
      exact nofun
  | contact force =>
      cases sheared : force.sheared with
      | false => simp [break?, sheared] at breaks
      | true =>
          simp only [break?, sheared, if_true, Option.some.injEq] at breaks
          rw [← breaks]
          exact nofun

end Outcome

namespace ContactRecord.Exit

variable {record after : ContactRecord α} {outcome : Outcome α}

/-- Only a bond that holds can break. -/
theorem bonded_of_break? (exit : record.Exit outcome after) {state : BondState}
    (breaks : outcome.break? = some state) : record.bond = .bonded := by
  rw [← isCohesive_iff]
  cases exit with
  | separated | coincident => cases breaks
  | torn overlap cohesive => exact cohesive
  | held force shear whole => simp [Outcome.break?, whole] at breaks
  | sheared force shear cohesive => exact cohesive
  | severed force shear cohesive => exact cohesive

/-- The record afterwards says how the bond broke, and otherwise says what it
said before. -/
theorem bond_eq (exit : record.Exit outcome after) :
    after.bond = outcome.break?.getD record.bond := by
  cases exit with
  | separated | coincident => rfl
  | torn overlap cohesive =>
      have parted : record.apart.isCohesive = true := cohesive
      rw [ContactRecord.torn, if_pos parted]
      rfl
  | held force shear whole => simp [Outcome.break?, whole, displaced]
  | sheared force shear cohesive broken =>
      have kept : (record.displaced shear).isCohesive = true := cohesive
      rw [ContactRecord.sheared, if_pos kept]
      simp [Outcome.break?, broken, released]
  | severed force shear cohesive broken =>
      have kept : (record.displaced shear).isCohesive = true := cohesive
      rw [ContactRecord.sheared, if_pos kept]
      simp [Outcome.break?, broken, released, apart]

/-- A bond that holds is there afterwards or counted as broken. -/
theorem isCohesive_balance (exit : record.Exit outcome after) :
    after.isCohesive.toNat + outcome.break?.isSome.toNat = record.isCohesive.toNat := by
  have kept := exit.bond_eq
  cases exit with
  | separated | coincident => rfl
  | held force shear whole => simp [Outcome.break?, whole, displaced, isCohesive]
  | torn overlap cohesive =>
      rw [cohesive, isCohesive, kept]
      rfl
  | sheared force shear cohesive broken =>
      rw [cohesive, isCohesive, kept]
      simp [Outcome.break?, broken, BondState.isCohesive]
  | severed force shear cohesive broken =>
      rw [cohesive, isCohesive, kept]
      simp [Outcome.break?, broken, BondState.isCohesive]

end ContactRecord.Exit

namespace PassReport

/-- Number of bonds that broke in a given way. -/
def broken (report : PassReport) : BondState → Nat
  | .brokenTensile => report.torn
  | .brokenShear => report.sheared
  | .neverBonded | .bonded => 0

/-- Number of bonds that broke. -/
def failures (report : PassReport) : Nat := report.torn + report.sheared

omit [Scalar α] in
theorem broken_counting (report : PassReport) (outcome : Outcome α) (state : BondState) :
    (report.counting outcome).broken state =
      report.broken state + (decide (outcome.break? = some state)).toNat := by
  cases outcome with
  | separated | torn | coincident => cases state <;> rfl
  | contact force =>
      cases sheared : force.sheared <;> cases state <;>
        simp [counting, broken, Outcome.break?, sheared]

omit [Scalar α] in
theorem failures_counting (report : PassReport) (outcome : Outcome α) :
    (report.counting outcome).failures = report.failures + outcome.break?.isSome.toNat := by
  cases outcome with
  | separated | coincident => rfl
  | torn overlap =>
      simp only [counting, failures, Outcome.break?, Option.isSome_some, Bool.toNat_true]
      omega
  | contact force =>
      cases sheared : force.sheared <;>
        simp [counting, failures, Outcome.break?, sheared, Nat.add_assoc]

end PassReport

namespace PassContext

variable (context : PassContext α)

/-- The exit of the force law that an encounter takes. -/
theorem meet_exit (state : PassState α) (encounter : Encounter α) :
    (state.ledger.getOrFresh encounter.key).Exit
      (encounter.evaluate context (state.ledger.getOrFresh encounter.key)).1
      (encounter.evaluate context (state.ledger.getOrFresh encounter.key)).2 :=
  context.material.evaluate_exit ..

/-- An encounter leaves a bond in the ledger or in the report. -/
theorem bonds_meet (state : PassState α) (encounter : Encounter α) :
    (context.meet state encounter).ledger.bondedCount +
        (context.meet state encounter).report.failures =
      state.ledger.bondedCount + state.report.failures := by
  have record := (context.meet_exit state encounter).isCohesive_balance
  have ledger := state.ledger.bondedCount_insert encounter.key
    (encounter.evaluate context (state.ledger.getOrFresh encounter.key)).2
  simp only [meet, PassReport.failures_counting]
  omega

/-- A pass loses no bond, and counts none twice. -/
theorem bonds_foldl_meet (encounters : List (Encounter α)) (state : PassState α) :
    (encounters.foldl context.meet state).ledger.bondedCount +
        (encounters.foldl context.meet state).report.failures =
      state.ledger.bondedCount + state.report.failures := by
  induction encounters generalizing state with
  | nil => rfl
  | cons encounter later ih =>
      rw [List.foldl_cons, ih]
      exact context.bonds_meet state encounter

/-- What an encounter does to the bonds. -/
theorem bondAt_meet (state : PassState α) (encounter : Encounter α) (key : PairKey) :
    (context.meet state encounter).ledger.bondAt key =
      if encounter.key = key then
        (encounter.evaluate context (state.ledger.getOrFresh encounter.key)).1.break?.getD
          (state.ledger.bondAt key)
      else state.ledger.bondAt key := by
  rw [meet, Ledger.bondAt_insert]
  split
  case isTrue same =>
    subst same
    exact (context.meet_exit state encounter).bond_eq
  case isFalse => rfl

/-- A bond that does not hold stays in the state in which it is. -/
theorem bondAt_foldl_meet_of_ne (encounters : List (Encounter α)) {state : PassState α}
    {key : PairKey} (free : state.ledger.bondAt key ≠ .bonded) :
    (encounters.foldl context.meet state).ledger.bondAt key = state.ledger.bondAt key := by
  induction encounters generalizing state with
  | nil => rfl
  | cons encounter later ih =>
      have kept : (context.meet state encounter).ledger.bondAt key = state.ledger.bondAt key := by
        rw [bondAt_meet]
        split
        case isFalse => rfl
        case isTrue same =>
          cases breaks : (encounter.evaluate context
              (state.ledger.getOrFresh encounter.key)).1.break? with
          | none => rfl
          | some broken =>
              have held := (context.meet_exit state encounter).bonded_of_break? breaks
              rw [same] at held
              exact absurd held free
      rw [List.foldl_cons, ih (kept ▸ free), kept]

/-- The pairs whose bond a pass breaks in a given way are the pair of its first
encounter, if this breaks it so, and those of the later ones. -/
theorem breaks_cons_iff (encounter : Encounter α) (later : List (Encounter α))
    (state : PassState α) (key : PairKey) (broken : BondState) :
    state.ledger.bondAt key = .bonded ∧
        ((encounter :: later).foldl context.meet state).ledger.bondAt key = broken ↔
      (encounter.evaluate context (state.ledger.getOrFresh encounter.key)).1.break? =
          some broken ∧ encounter.key = key ∨
      (context.meet state encounter).ledger.bondAt key = .bonded ∧
        (later.foldl context.meet (context.meet state encounter)).ledger.bondAt key = broken := by
  rw [List.foldl_cons]
  by_cases same : encounter.key = key
  · subst same
    have next := context.bondAt_meet state encounter encounter.key
    rw [if_pos rfl] at next
    cases breaks : (encounter.evaluate context
        (state.ledger.getOrFresh encounter.key)).1.break? with
    | none =>
        rw [breaks] at next
        simp [next]
    | some found =>
        -- What is broken stays so, whatever encounters of the pair follow.
        rw [breaks, Option.getD_some] at next
        have held : state.ledger.bondAt encounter.key = .bonded :=
          (context.meet_exit state encounter).bonded_of_break? breaks
        have free : (context.meet state encounter).ledger.bondAt encounter.key ≠ .bonded :=
          next ▸ Outcome.ne_bonded_of_break? breaks
        simp [context.bondAt_foldl_meet_of_ne later free, held, next,
          Outcome.ne_bonded_of_break? breaks]
  · have next : (context.meet state encounter).ledger.bondAt key = state.ledger.bondAt key := by
      rw [bondAt_meet, if_neg same]
    simp [next, same]

/-- The failures of one kind that a pass counts are the pairs whose bond held
before it and is broken in this way after it. -/
theorem broken_foldl_meet {broken : BondState} (unbound : broken ≠ .bonded)
    (encounters : List (Encounter α)) (state : PassState α) :
    ∃ count, (encounters.foldl context.meet state).report.broken broken =
        state.report.broken broken + count ∧
      Exactly count fun key => state.ledger.bondAt key = .bonded ∧
        (encounters.foldl context.meet state).ledger.bondAt key = broken := by
  induction encounters generalizing state with
  | nil =>
      refine ⟨0, rfl, .zero fun key both => ?_⟩
      exact unbound (both.2.symm.trans both.1)
  | cons encounter later ih =>
      have counted : (context.meet state encounter).report.broken broken = _ :=
        PassReport.broken_counting state.report _ broken
      have cons := fun key => context.breaks_cons_iff encounter later state key broken
      rcases ih (context.meet state encounter) with ⟨count, report, exactly⟩
      by_cases here : (encounter.evaluate context
          (state.ledger.getOrFresh encounter.key)).1.break? = some broken
      · have brokenNow : (context.meet state encounter).ledger.bondAt encounter.key = broken := by
          rw [bondAt_meet, if_pos rfl, here, Option.getD_some]
        have more := exactly.succ (fun both => unbound (brokenNow.symm.trans both.1))
        refine ⟨count + 1, ?_, more.congr fun key => ?_⟩
        · rw [List.foldl_cons, report, counted, decide_eq_true here, Bool.toNat_true]
          omega
        · rw [cons, and_iff_right here]
      · refine ⟨count, ?_, exactly.congr fun key => ?_⟩
        · rw [List.foldl_cons, report, counted, decide_eq_false here, Bool.toNat_false,
            Nat.add_zero]
        · rw [cons, or_iff_right (fun both => here both.1)]

/-- The failures that a pass counts are the pairs whose bond held before it and
is broken after it. -/
theorem failures_foldl_meet (encounters : List (Encounter α)) (state : PassState α) :
    ∃ count, (encounters.foldl context.meet state).report.failures =
        state.report.failures + count ∧
      Exactly count fun key => state.ledger.bondAt key = .bonded ∧
        ((encounters.foldl context.meet state).ledger.bondAt key).isBroken = true := by
  have byTension : BondState.brokenTensile ≠ .bonded := nofun
  have byShear : BondState.brokenShear ≠ .bonded := nofun
  rcases context.broken_foldl_meet byTension encounters state with
    ⟨torn, tornReport, tornExactly⟩
  rcases context.broken_foldl_meet byShear encounters state with
    ⟨sheared, shearedReport, shearedExactly⟩
  refine ⟨torn + sheared, ?_, (tornExactly.or shearedExactly ?_).congr fun key => ?_⟩
  · simp only [PassReport.broken] at tornReport shearedReport
    simp only [PassReport.failures]
    omega
  · intro key tears shears
    rw [tears.2] at shears
    cases shears.2
  · rw [← and_or_left, BondState.isBroken, Bool.or_eq_true, beq_iff_eq, beq_iff_eq]

end PassContext

/-! ## Bonding -/

namespace Material

/-- Bonding on a list that names no pair twice and no pair with a record counts
the bonds that it puts into the ledger. -/
theorem bonded_foldl_bond (material : Material α) {encounters : List (Encounter α)}
    (once : (encounters.map Encounter.key).Nodup) (state : BondingReport × Ledger α)
    (absent : ∀ encounter ∈ encounters, state.2.get? encounter.key = none) :
    (encounters.foldl material.bond state).1.bonded + state.2.bondedCount =
      (encounters.foldl material.bond state).2.bondedCount + state.1.bonded := by
  induction encounters generalizing state with
  | nil => exact Nat.add_comm ..
  | cons encounter later ih =>
      rw [List.map_cons, List.nodup_cons] at once
      have new := (List.forall_mem_cons.mp absent).1
      have rest := (List.forall_mem_cons.mp absent).2
      have later := ih once.2 (material.bond state encounter) (by
        intro other member
        have different : encounter.key ≠ other.key := by
          intro same
          exact once.1 (same ▸ List.mem_map_of_mem member)
        simp only [bond]
        rw [Ledger.get?_insert, if_neg different]
        exact rest other member)
      have ledger := state.2.bondedCount_insert encounter.key (encounter.firstRecord material)
      have fresh : (state.2.getOrFresh encounter.key).isCohesive = false := by
        rw [Ledger.getOrFresh, new]
        rfl
      have report : (material.bond state encounter).1.bonded =
          state.1.bonded + (encounter.firstRecord material).isCohesive.toNat := by
        simp only [bond, BondingReport.counting]
        cases (encounter.firstRecord material).isCohesive <;> rfl
      have live : (material.bond state encounter).2.bondedCount = state.2.bondedCount +
          (encounter.firstRecord material).isCohesive.toNat := by
        rw [fresh] at ledger
        exact ledger
      rw [List.foldl_cons]
      omega

end Material

end GranularBonds

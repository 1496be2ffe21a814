import GranularBonds.Proofs.Contact.Tally

/-!
# Counting contacts

The report of a pass counts pairs by what they did, and the ledger says which
pairs touch.  Main statements: of the pairs that a list names, each once, those
touch after a pass that the report counts in contact, less those that came
apart in it; the counts of a report fit together; and a pass remembers the
pairs that it meets and those that were remembered before.
-/

namespace GranularBonds

/-- There is only one number of pairs that have a property. -/
theorem Exactly.unique {left right : Nat} {holds : PairKey → Prop} (first : Exactly left holds)
    (second : Exactly right holds) : left = right := by
  rcases first with ⟨keys, once, rfl, members⟩
  rcases second with ⟨others, othersOnce, rfl, otherMembers⟩
  apply List.Perm.length_eq
  rw [List.perm_ext_iff_of_nodup once othersOnce]
  intro key
  rw [members, otherMembers]

/-! ## Touching pairs -/

namespace Ledger

variable {α : Type}

/-- Whether a pair touches, as far as is remembered. -/
def touchingAt (ledger : Ledger α) (key : PairKey) : Bool :=
  (ledger.get? key).any ContactRecord.touching

theorem nodup_keys (ledger : Ledger α) : (ledger.entries.map Prod.fst).Nodup := by
  rw [List.Nodup, List.pairwise_map]
  apply ledger.ordered.imp
  intro earlier later before same
  exact PairKey.lt_irrefl later.1 (same ▸ before)

/-- A count over the records of a ledger is one of pairs. -/
theorem exactly_countP (ledger : Ledger α) (counts : ContactRecord α → Bool) :
    Exactly (ledger.entries.countP fun entry => counts entry.2) fun key =>
      (ledger.get? key).any counts = true := by
  let counted := ledger.entries.filter fun entry => counts entry.2
  refine ⟨counted.map Prod.fst, ?_, ?_, fun key => ?_⟩
  · exact ledger.nodup_keys.sublist (List.filter_sublist.map _)
  · rw [List.length_map, List.countP_eq_length_filter]
  · simp only [counted, List.mem_map, List.mem_filter, Option.any_eq_true]
    constructor
    · intro found
      rcases found with ⟨⟨other, record⟩, ⟨member, counts⟩, rfl⟩
      exact ⟨record, (ledger.mem_entries_iff other record).mp member, counts⟩
    · intro found
      rcases found with ⟨record, present, counts⟩
      exact ⟨(key, record), ⟨(ledger.mem_entries_iff key record).mpr present, counts⟩, rfl⟩

/-- The touching count is the number of the pairs that touch. -/
theorem exactly_touchingCount (ledger : Ledger α) :
    Exactly ledger.touchingCount fun key => ledger.touchingAt key = true :=
  ledger.exactly_countP ContactRecord.touching

/-- The bonded count is the number of the pairs whose bond holds. -/
theorem exactly_bondedCount (ledger : Ledger α) :
    Exactly ledger.bondedCount fun key =>
      (ledger.get? key).any ContactRecord.isCohesive = true :=
  ledger.exactly_countP ContactRecord.isCohesive

variable [Scalar α]

/-- Pruning leaves the listed pairs as they are, and all others apart. -/
theorem touchingAt_retain (ledger : Ledger α) (listed : List PairKey) (key : PairKey) :
    (ledger.retain listed).touchingAt key = true ↔
      key ∈ listed ∧ ledger.touchingAt key = true := by
  simp only [touchingAt, get?_retain]
  by_cases named : key ∈ listed
  · simp [named]
  · cases ledger.get? key with
    | none => simp [named]
    | some record =>
        cases cohesive : record.isCohesive <;> simp [named, cohesive, ContactRecord.apart]

/-- What pruning leaves of a pair that is not listed is bonded. -/
theorem bondAt_retain_of_unlisted {ledger : Ledger α} {listed : List PairKey} {key : PairKey}
    (unlisted : key ∉ listed) (present : ((ledger.retain listed).get? key).isSome = true) :
    (ledger.retain listed).bondAt key = .bonded := by
  rw [bondAt_retain_eq_bonded_iff, bondAt, getOrFresh]
  rw [get?_retain, if_neg unlisted] at present
  cases known : ledger.get? key with
  | none =>
      rw [known] at present
      cases present
  | some record =>
      rw [known] at present
      cases free : record.isCohesive with
      | true => exact record.isCohesive_iff.mp free
      | false => simp [free] at present

/-- A pair with a bond, broken or not, is remembered. -/
theorem isSome_get?_of_bondAt_ne {ledger : Ledger α} {key : PairKey}
    (known : ledger.bondAt key ≠ .neverBonded) : (ledger.get? key).isSome = true := by
  cases present : ledger.get? key with
  | some record => rfl
  | none =>
      rw [bondAt, getOrFresh, present] at known
      exact absurd rfl known

end Ledger

variable {α : Type} [Scalar α]

/-! ## What a pair did -/

namespace Outcome

omit [Scalar α] in
/-- Whether the pair is in touch afterwards. -/
def isTouching : Outcome α → Bool
  | contact force => !(force.sheared && force.separated)
  | coincident => true
  | separated | torn _ => false

end Outcome

/-- The record says after an evaluation whether the pair touches. -/
theorem ContactRecord.Exit.touching_eq {record after : ContactRecord α} {outcome : Outcome α}
    (exit : record.Exit outcome after) : after.touching = outcome.isTouching := by
  cases exit with
  | separated | coincident => rfl
  | torn overlap cohesive =>
      have parted : record.apart.isCohesive = true := cohesive
      rw [ContactRecord.torn, if_pos parted]
      rfl
  | held force shear whole => simp [Outcome.isTouching, whole, displaced]
  | sheared force shear cohesive broken left =>
      have kept : (record.displaced shear).isCohesive = true := cohesive
      rw [ContactRecord.sheared, if_pos kept]
      simp [Outcome.isTouching, left, released, displaced]
  | severed force shear cohesive broken left =>
      simp [Outcome.isTouching, broken, left, apart]

namespace PassReport

/-- The counts fit together: no pair is counted in two ways, and what came
apart was sheared off in a contact. -/
structure Consistent (report : PassReport) : Prop where
  visited : report.active + report.torn + report.coincident ≤ report.visited
  sheared : report.sheared ≤ report.active
  separated : report.separated ≤ report.sheared

/-- Number of pairs that are left in touch. -/
def touching (report : PassReport) : Nat := report.active - report.separated + report.coincident

theorem Consistent.none : none.Consistent := ⟨le_rfl, le_rfl, le_rfl⟩

omit [Scalar α] in
theorem Consistent.counting {report : PassReport} (consistent : report.Consistent)
    (outcome : Outcome α) : (report.counting outcome).Consistent := by
  rcases consistent with ⟨visited, sheared, separated⟩
  cases outcome with
  | separated | torn | coincident =>
      constructor <;> simp only [PassReport.counting] <;> omega
  | contact force =>
      cases broken : force.sheared <;> cases left : force.separated <;>
        constructor <;> simp [PassReport.counting, broken, left] <;> omega

omit [Scalar α] in
theorem touching_counting {report : PassReport} (consistent : report.Consistent)
    (outcome : Outcome α) :
    (report.counting outcome).touching = report.touching + outcome.isTouching.toNat := by
  rcases consistent with ⟨-, sheared, separated⟩
  cases outcome with
  | separated | torn => rfl
  | coincident => exact (Nat.add_assoc ..).symm
  | contact force =>
      cases broken : force.sheared <;> cases left : force.separated <;>
        simp [counting, touching, Outcome.isTouching, broken, left] <;> omega

omit [Scalar α] in
theorem visited_counting (report : PassReport) (outcome : Outcome α) :
    (report.counting outcome).visited = report.visited + 1 := by
  cases outcome <;> rfl

end PassReport

/-! ## Passes -/

namespace PassContext

variable (context : PassContext α)

theorem consistent_foldl_meet (encounters : List (Encounter α)) {state : PassState α}
    (consistent : state.report.Consistent) :
    (encounters.foldl context.meet state).report.Consistent := by
  induction encounters generalizing state with
  | nil => exact consistent
  | cons encounter later ih =>
      have next : (context.meet state encounter).report.Consistent := consistent.counting _
      exact ih next

/-- A pass counts every encounter. -/
theorem visited_foldl_meet (encounters : List (Encounter α)) (state : PassState α) :
    (encounters.foldl context.meet state).report.visited =
      state.report.visited + encounters.length := by
  induction encounters generalizing state with
  | nil => rfl
  | cons encounter later ih =>
      have here : (context.meet state encounter).report.visited = state.report.visited + 1 :=
        PassReport.visited_counting ..
      rw [List.foldl_cons, ih, here, List.length_cons, Nat.add_assoc, Nat.add_comm 1]

/-- A pass remembers the pairs that it meets. -/
theorem isSome_get?_foldl_meet (encounters : List (Encounter α)) (state : PassState α)
    (key : PairKey) :
    ((encounters.foldl context.meet state).ledger.get? key).isSome = true ↔
      key ∈ encounters.map Encounter.key ∨ (state.ledger.get? key).isSome = true := by
  induction encounters generalizing state with
  | nil => simp
  | cons encounter later ih =>
      have here : (context.meet state encounter).ledger.get? key = _ :=
        Ledger.get?_insert state.ledger encounter.key key _
      rw [List.foldl_cons, ih, here, List.map_cons, List.mem_cons]
      by_cases same : encounter.key = key
      · simp [same]
      · simp [same, Ne.symm same]

/-- What is remembered of a pair that a pass does not meet is as before. -/
theorem get?_foldl_meet_of_not_mem {encounters : List (Encounter α)} {key : PairKey}
    (unlisted : key ∉ encounters.map Encounter.key) (state : PassState α) :
    (encounters.foldl context.meet state).ledger.get? key = state.ledger.get? key := by
  apply Ledger.get?_foldl_meet_of_unlisted
  intro encounter member same
  exact unlisted (same ▸ List.mem_map_of_mem member)

theorem getOrFresh_foldl_meet_of_not_mem {encounters : List (Encounter α)} {key : PairKey}
    (unlisted : key ∉ encounters.map Encounter.key) (state : PassState α) :
    (encounters.foldl context.meet state).ledger.getOrFresh key = state.ledger.getOrFresh key := by
  rw [Ledger.getOrFresh, context.get?_foldl_meet_of_not_mem unlisted, Ledger.getOrFresh]

/-- The report of a pass that meets no pair twice counts the pairs that are
left in touch. -/
theorem touching_foldl_meet {encounters : List (Encounter α)}
    (once : (encounters.map Encounter.key).Nodup) {state : PassState α}
    (consistent : state.report.Consistent) :
    ∃ count, (encounters.foldl context.meet state).report.touching =
        state.report.touching + count ∧
      Exactly count fun key => key ∈ encounters.map Encounter.key ∧
        (encounters.foldl context.meet state).ledger.touchingAt key = true := by
  induction encounters generalizing state with
  | nil => exact ⟨0, rfl, .zero fun key both => List.not_mem_nil both.1⟩
  | cons encounter later ih =>
      rw [List.map_cons, List.nodup_cons] at once
      let result := encounter.evaluate context (state.ledger.getOrFresh encounter.key)
      have counted : (context.meet state encounter).report.touching =
          state.report.touching + result.1.isTouching.toNat :=
        PassReport.touching_counting consistent result.1
      -- The pair is not met again, so it is left as this encounter leaves it.
      have last : (later.foldl context.meet (context.meet state encounter)).ledger.touchingAt
          encounter.key = result.1.isTouching := by
        rw [Ledger.touchingAt, context.get?_foldl_meet_of_not_mem once.1, meet, Ledger.get?_insert,
          if_pos rfl]
        exact (context.meet_exit state encounter).touching_eq
      have next : (context.meet state encounter).report.Consistent := consistent.counting _
      rcases ih once.2 next with ⟨count, report, exactly⟩
      rw [List.foldl_cons, report, counted]
      cases touches : result.1.isTouching with
      | false =>
          rw [touches] at last
          refine ⟨count, rfl, exactly.congr fun key => ?_⟩
          rw [List.map_cons, List.mem_cons, or_and_right, or_iff_right]
          intro both
          rw [both.1, last] at both
          cases both.2
      | true =>
          rw [touches] at last
          refine ⟨count + 1, Nat.add_right_comm .., ?_⟩
          refine (exactly.succ fun both => once.1 both.1).congr fun key => ?_
          rw [List.map_cons, List.mem_cons, or_and_right, eq_comm]
          refine or_congr_left (and_iff_left_of_imp fun same => ?_)
          rw [← same, last]

end PassContext

/-! ## Bonding -/

/-- Bonding brings no pair into touch. -/
theorem Material.touchingAt_foldl_bond (material : Material α) (encounters : List (Encounter α))
    (state : BondingReport × Ledger α) {key : PairKey}
    (touches : (encounters.foldl material.bond state).2.touchingAt key = true) :
    state.2.touchingAt key = true := by
  induction encounters generalizing state with
  | nil => exact touches
  | cons encounter later ih =>
      have next : (material.bond state encounter).2.touchingAt key = true := ih _ touches
      have here : (material.bond state encounter).2.get? key = _ :=
        Ledger.get?_insert state.2 encounter.key key (encounter.firstRecord material)
      rw [Ledger.touchingAt, here] at next
      split at next
      case isTrue =>
        have apart : (encounter.firstRecord material).touching = false := by
          rw [Encounter.firstRecord, firstRecord]
          split <;> rfl
        simp [apart] at next
      case isFalse => exact next

end GranularBonds

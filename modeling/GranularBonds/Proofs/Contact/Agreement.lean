import GranularBonds.Proofs.Contact.Past
import GranularBonds.Proofs.Contact.Tally
import GranularBonds.Proofs.Neighbors

/-!
# Ledgers that no pass tells apart

A ledger can lose the record of a pair without a bond that is out of contact,
and bonding, pruning and passes go on as if nothing had happened: the record
that is made anew is alike to the one that is gone.
-/

namespace GranularBonds

variable {α : Type} [Scalar α]

namespace ContactRecord

/-- Two records that no visit tells apart: the same, or alike. -/
def Indistinct (left right : ContactRecord α) : Prop := left = right ∨ left.Alike right

namespace Indistinct

variable {left right : ContactRecord α}

omit [Scalar α] in
theorem refl (record : ContactRecord α) : record.Indistinct record := .inl rfl

omit [Scalar α] in
theorem isCohesive_eq (same : left.Indistinct right) : left.isCohesive = right.isCohesive := by
  rcases same with rfl | alike
  · rfl
  · rw [alike.leftFree, alike.rightFree]

theorem apart (same : left.Indistinct right) : left.apart.Indistinct right.apart := by
  rcases same with rfl | alike
  · exact .refl _
  · exact .inr alike.apart

/-- A visit does the same to both, and leaves records that are indistinct
again. -/
theorem visit (same : left.Indistinct right) (material : Material α) (visit : Visit α) :
    (visit.evaluate material left).1 = (visit.evaluate material right).1 ∧
      (visit.evaluate material left).2.Indistinct (visit.evaluate material right).2 := by
  rcases same with rfl | alike
  · exact ⟨rfl, .refl _⟩
  · obtain ⟨outcome, after, -⟩ := alike.evaluate material visit
    exact ⟨outcome, .inr after⟩

theorem encounter (same : left.Indistinct right) (context : PassContext α)
    (encounter : Encounter α) :
    (encounter.evaluate context left).1 = (encounter.evaluate context right).1 ∧
      (encounter.evaluate context left).2.Indistinct (encounter.evaluate context right).2 :=
  same.visit context.material
    ⟨encounter.kinematics context.bodies, encounter.flipped, context.timestep⟩

end Indistinct

end ContactRecord

/-! ## Ledgers -/

namespace Ledger

theorem getOrFresh_insert (ledger : Ledger α) (key other : PairKey) (record : ContactRecord α) :
    (ledger.insert key record).getOrFresh other =
      if key = other then record else ledger.getOrFresh other := by
  simp only [getOrFresh, get?_insert]
  split <;> rfl

/-- What a pair is taken for after pruning. -/
theorem getOrFresh_retain (ledger : Ledger α) (listed : List PairKey) (key : PairKey) :
    (ledger.retain listed).getOrFresh key =
      if key ∈ listed then ledger.getOrFresh key
      else if (ledger.getOrFresh key).isCohesive then (ledger.getOrFresh key).apart
      else .fresh := by
  cases known : ledger.get? key with
  | none =>
      simp only [getOrFresh, get?_retain, known]
      split <;> rfl
  | some record =>
      simp only [getOrFresh, get?_retain, known, Option.bind_some, Option.getD_some]
      split
      · rfl
      · split <;> rfl

/-- Two ledgers that take every pair for indistinct records. -/
def Agrees (left right : Ledger α) : Prop :=
  ∀ key, (left.getOrFresh key).Indistinct (right.getOrFresh key)

namespace Agrees

variable {left right : Ledger α}

theorem insert (agrees : left.Agrees right) (key : PairKey) {record other : ContactRecord α}
    (same : record.Indistinct other) :
    (left.insert key record).Agrees (right.insert key other) := by
  intro found
  rw [getOrFresh_insert, getOrFresh_insert]
  split
  · exact same
  · exact agrees found

theorem retain (agrees : left.Agrees right) (listed : List PairKey) :
    (left.retain listed).Agrees (right.retain listed) := by
  intro key
  rw [getOrFresh_retain, getOrFresh_retain, (agrees key).isCohesive_eq]
  split
  · exact agrees key
  · split
    · exact (agrees key).apart
    · exact .refl _

/-- Bonding reads no record, and puts the same records into both. -/
theorem foldl_bond (agrees : left.Agrees right) (material : Material α) (report : BondingReport)
    (encounters : List (Encounter α)) :
    (encounters.foldl material.bond (report, left)).1 =
        (encounters.foldl material.bond (report, right)).1 ∧
      (encounters.foldl material.bond (report, left)).2.Agrees
        (encounters.foldl material.bond (report, right)).2 := by
  induction encounters generalizing left right report with
  | nil => exact ⟨rfl, agrees⟩
  | cons encounter later ih => exact ih (agrees.insert encounter.key (.refl _)) _

end Agrees

omit [Scalar α] in
/-- The ledger without the record of one pair. -/
def without (ledger : Ledger α) (key : PairKey) : Ledger α :=
  ⟨ledger.others key, ledger.ordered.filter _⟩

omit [Scalar α] in
theorem get?_without (ledger : Ledger α) (key other : PairKey) :
    (ledger.without key).get? other = if other = key then none else ledger.get? other := by
  ext record
  rw [← mem_entries_iff]
  refine (ledger.mem_others_iff key other record).trans ?_
  by_cases same : other = key <;> simp [same]

/-- A record that is alike to a fresh one can be taken out of a ledger. -/
theorem agrees_without {ledger : Ledger α} {key : PairKey}
    (alike : (ledger.getOrFresh key).Alike .fresh) : ledger.Agrees (ledger.without key) := by
  intro other
  have found : (ledger.without key).getOrFresh other =
      if other = key then .fresh else ledger.getOrFresh other := by
    simp only [getOrFresh, get?_without]
    split <;> rfl
  rw [found]
  split
  case isTrue same => exact .inr (same ▸ alike)
  case isFalse => exact .refl _

end Ledger

/-! ## Passes -/

/-- Two states of a pass that differ at most in records that no visit tells
apart. -/
structure PassState.Agrees (left right : PassState α) : Prop where
  assembly : left.assembly = right.assembly
  report : left.report = right.report
  ledger : left.ledger.Agrees right.ledger

/-- Two passes begin in agreement when their ledgers agree. -/
theorem PassState.Agrees.start {left right : Ledger α} (assembly : Assembly α)
    (agrees : left.Agrees right) :
    PassState.Agrees ⟨assembly, left, .none⟩ ⟨assembly, right, .none⟩ :=
  ⟨rfl, rfl, agrees⟩

namespace PassContext

/-- What the pairs of a pass do, one after the other. -/
def outcomes (context : PassContext α) (state : PassState α) :
    List (Encounter α) → List (Outcome α)
  | [] => []
  | encounter :: later =>
      (encounter.evaluate context (state.ledger.getOrFresh encounter.key)).1 ::
        context.outcomes (context.meet state encounter) later

variable {context : PassContext α} {left right : PassState α}

theorem meet_agrees (agrees : left.Agrees right) (encounter : Encounter α) :
    (context.meet left encounter).Agrees (context.meet right encounter) := by
  obtain ⟨outcome, record⟩ := (agrees.ledger encounter.key).encounter context encounter
  refine ⟨?_, ?_, agrees.ledger.insert encounter.key record⟩
  · simp only [meet, agrees.assembly, outcome]
  · simp only [meet, agrees.report, outcome]

theorem foldl_meet_agrees (agrees : left.Agrees right) (encounters : List (Encounter α)) :
    (encounters.foldl context.meet left).Agrees (encounters.foldl context.meet right) := by
  induction encounters generalizing left right with
  | nil => exact agrees
  | cons encounter later ih => exact ih (meet_agrees agrees encounter)

theorem outcomes_eq_of_agrees (agrees : left.Agrees right) (encounters : List (Encounter α)) :
    context.outcomes left encounters = context.outcomes right encounters := by
  induction encounters generalizing left right with
  | nil => rfl
  | cons encounter later ih =>
      have here := ((agrees.ledger encounter.key).encounter context encounter).1
      simp only [outcomes, here, ih (meet_agrees agrees encounter)]

end PassContext

end GranularBonds

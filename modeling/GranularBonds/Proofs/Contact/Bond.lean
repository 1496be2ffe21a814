import GranularBonds.Contact.ForceLaw

/-!
# The life of a bond

What an evaluation can do to the record of a pair, for numbers of any kind,
undefined ones included.  An evaluation leaves the force law by one of six
exits; each of them keeps the fields of a record consistent with the state of
its bond, and none forms a bond or changes one that holds, except that the
bond may break.
-/

namespace GranularBonds

variable {α : Type} [Scalar α]

/-! ## Exits of the force law -/

/-- The record of a pair that stays in contact under a new displacement. -/
def ContactRecord.displaced (record : ContactRecord α) (shear : Vec3 α) : ContactRecord α :=
  { record with shear, touching := true }

/-- The ways in which an evaluation can end for a pair with a given record:
what the pair did, and the record afterwards. -/
inductive ContactRecord.Exit (record : ContactRecord α) : Outcome α → ContactRecord α → Prop where
  /-- A pair without a bond came apart. -/
  | separated : record.isCohesive = false → Exit record .separated record.apart
  /-- A bond was pulled too far. -/
  | torn (overlap : α) : record.isCohesive = true →
      Exit record (.torn overlap) record.apart.torn
  /-- The centers coincide, and the record waits. -/
  | coincident : Exit record .coincident record.touched
  /-- A contact that leaves the state of the bond as it is. -/
  | held (force : ContactForce α) (shear : Vec3 α) :
      force.sheared = false → force.separated = false →
      Exit record (.contact force) (record.displaced shear)
  /-- A bond was sheared off and a frictional contact is left. -/
  | sheared (force : ContactForce α) (shear : Vec3 α) : record.isCohesive = true →
      force.sheared = true → force.separated = false →
      Exit record (.contact force) (record.displaced shear).sheared
  /-- A bond was sheared off and nothing is left of the contact. -/
  | severed (force : ContactForce α) (shear : Vec3 α) : record.isCohesive = true →
      force.sheared = true → force.separated = true →
      Exit record (.contact force) (record.displaced shear).sheared.apart

namespace Kinematics

variable (pair : Kinematics α) (record : ContactRecord α)

theorem isCohesive_of_standing_separated (standing : pair.standing record = .separated) :
    record.isCohesive = false := by
  cases cohesive : record.isCohesive with
  | false => rfl
  | true =>
      simp only [Kinematics.standing, cohesive, Bool.not_true, Bool.false_and,
        Bool.false_eq_true, and_false, if_false] at standing
      split at standing
      · cases standing
      · split at standing <;> cases standing

theorem isCohesive_of_standing_overstretched {overlap : α}
    (standing : pair.standing record = .overstretched overlap) : record.isCohesive = true := by
  cases cohesive : record.isCohesive with
  | true => rfl
  | false =>
      simp only [Kinematics.standing, cohesive, Bool.not_false, Bool.true_and, and_true]
        at standing
      split at standing
      · cases standing
      · split at standing
        case isTrue => cases standing
        case isFalse notNegative =>
          rw [if_neg (fun both => notNegative both.1)] at standing
          split at standing <;> cases standing

end Kinematics

namespace Material

variable (material : Material α) (pair : Kinematics α) (record : ContactRecord α)

theorem engage_exit (flipped : Bool) (timestep overlap : α) :
    record.Exit (.contact (material.engage pair record flipped timestep overlap).1)
      (material.engage pair record flipped timestep overlap).2 := by
  simp only [engage]
  generalize material.tangential pair _ _ = plane
  cases sheared : plane.sliding && record.isCohesive with
  | false => apply ContactRecord.Exit.held <;> simp
  | true =>
      have cohesive : record.isCohesive = true := (Bool.and_eq_true_iff.mp sheared).2
      cases decide (pair.radiusSum * pair.radiusSum < pair.distanceSquared) with
      | false => apply ContactRecord.Exit.sheared _ _ cohesive <;> simp
      | true => apply ContactRecord.Exit.severed _ _ cohesive <;> simp

/-- Every evaluation ends by one of the exits. -/
theorem evaluate_exit (flipped : Bool) (timestep : α) :
    record.Exit (material.evaluate pair record flipped timestep).1
      (material.evaluate pair record flipped timestep).2 := by
  simp only [evaluate]
  cases standing : pair.standing record with
  | separated => exact .separated (pair.isCohesive_of_standing_separated record standing)
  | overstretched overlap =>
      exact .torn overlap (pair.isCohesive_of_standing_overstretched record standing)
  | coincident => exact .coincident
  | engaged overlap => exact material.engage_exit pair record flipped timestep overlap

end Material

/-! ## Consistency of a record -/

namespace TensileLimit

/-- A limit that is zero or above zero. -/
def IsNonnegative : TensileLimit α → Prop
  | bounded distance => distance = 0 ∨ 0 < distance
  | unbounded => True

theorem isNonnegative_nonnegative (limit : TensileLimit α) : limit.nonnegative.IsNonnegative := by
  cases limit with
  | unbounded => trivial
  | bounded distance =>
      simp only [nonnegative, Scalar.nonnegativePart]
      split
      case isTrue positive => exact .inr positive
      case isFalse => exact .inl rfl

end TensileLimit

namespace ContactRecord

/-- The fields of a record agree with the state of its bond: a break is
counted exactly once and in its own counter, only a bond that holds has a gap
and a limit, and a pair that is apart has no displacement. -/
structure Sound (record : ContactRecord α) : Prop where
  unbroken : record.bond = .neverBonded ∨ record.bond = .bonded →
    record.shearBreaks = 0 ∧ record.tensileBreaks = 0
  torn : record.bond = .brokenTensile → record.tensileBreaks = 1 ∧ record.shearBreaks = 0
  sheared : record.bond = .brokenShear → record.shearBreaks = 1 ∧ record.tensileBreaks = 0
  released : record.bond ≠ .bonded → record.initialGap = 0 ∧ record.tensileLimit = .bounded 0
  limit : record.tensileLimit.IsNonnegative
  apart : record.touching = false → record.shear = 0

omit [Scalar α] in
theorem isCohesive_iff (record : ContactRecord α) :
    record.isCohesive = true ↔ record.bond = .bonded := by
  simp [isCohesive, BondState.isCohesive]

namespace Sound

theorem fresh : (fresh : ContactRecord α).Sound where
  unbroken := fun _ => ⟨rfl, rfl⟩
  torn := fun broken => by cases broken
  sheared := fun broken => by cases broken
  released := fun _ => ⟨rfl, rfl⟩
  limit := .inl rfl
  apart := fun _ => rfl

theorem bonded (initialGap : α) (limit : TensileLimit α) :
    (bonded initialGap limit).Sound where
  unbroken := fun _ => ⟨rfl, rfl⟩
  torn := fun broken => by cases broken
  sheared := fun broken => by cases broken
  released := fun free => absurd rfl free
  limit := limit.isNonnegative_nonnegative
  apart := fun _ => rfl

variable {record : ContactRecord α}

/-- Losing contact clears the displacement, and touches nothing else. -/
theorem parted (sound : record.Sound) : record.apart.Sound where
  unbroken := sound.unbroken
  torn := sound.torn
  sheared := sound.sheared
  released := sound.released
  limit := sound.limit
  apart := fun _ => rfl

/-- A pair in contact may have any displacement. -/
theorem displaced (sound : record.Sound) (shear : Vec3 α) : (record.displaced shear).Sound where
  unbroken := sound.unbroken
  torn := sound.torn
  sheared := sound.sheared
  released := sound.released
  limit := sound.limit
  apart := fun free => by cases free

/-- The break of a bond is its first one. -/
theorem tearing (sound : record.Sound) (cohesive : record.isCohesive = true) :
    record.torn.Sound := by
  have counts := sound.unbroken (.inr (record.isCohesive_iff.mp cohesive))
  rw [ContactRecord.torn, if_pos cohesive]
  exact {
    unbroken := fun state => by rcases state with state | state <;> cases state
    torn := fun _ => ⟨congrArg (· + 1) counts.2, counts.1⟩
    sheared := fun state => by cases state
    released := fun _ => ⟨rfl, rfl⟩
    limit := .inl rfl
    apart := sound.apart }

theorem shearing (sound : record.Sound) (cohesive : record.isCohesive = true) :
    record.sheared.Sound := by
  have counts := sound.unbroken (.inr (record.isCohesive_iff.mp cohesive))
  rw [ContactRecord.sheared, if_pos cohesive]
  exact {
    unbroken := fun state => by rcases state with state | state <;> cases state
    torn := fun state => by cases state
    sheared := fun _ => ⟨congrArg (· + 1) counts.1, counts.2⟩
    released := fun _ => ⟨rfl, rfl⟩
    limit := .inl rfl
    apart := sound.apart }

/-- Every exit of the force law restores the consistency of the record. -/
theorem exit {outcome : Outcome α} {after : ContactRecord α} (sound : record.Sound)
    (exit : record.Exit outcome after) : after.Sound := by
  cases exit with
  | separated => exact sound.parted
  | torn overlap cohesive => exact sound.parted.tearing cohesive
  | coincident => exact sound.displaced record.shear
  | held force shear => exact sound.displaced shear
  | sheared force shear cohesive => exact (sound.displaced shear).shearing cohesive
  | severed force shear cohesive => exact ((sound.displaced shear).shearing cohesive).parted

end Sound

/-! ## Continuation of a bond -/

/-- The bond stays as it is, with its gap and its limit. -/
def KeepsBond (before after : ContactRecord α) : Prop :=
  after.bond = before.bond ∧ after.initialGap = before.initialGap ∧
    after.tensileLimit = before.tensileLimit

/-- What a bond can become: it stays as it is, or it held and is broken.  In
particular no bond is formed. -/
def Continues (before after : ContactRecord α) : Prop :=
  before.KeepsBond after ∨ (before.bond = .bonded ∧ after.bond.isBroken = true)

namespace Continues

variable {before between after : ContactRecord α}

omit [Scalar α] in
theorem refl (record : ContactRecord α) : record.Continues record := .inl ⟨rfl, rfl, rfl⟩

omit [Scalar α] in
theorem trans (first : before.Continues between) (second : between.Continues after) :
    before.Continues after := by
  rcases first with ⟨bond, gap, limit⟩ | ⟨held, broken⟩
  · rcases second with ⟨laterBond, laterGap, laterLimit⟩ | ⟨held, broken⟩
    · exact .inl ⟨laterBond.trans bond, laterGap.trans gap, laterLimit.trans limit⟩
    · exact .inr ⟨bond ▸ held, broken⟩
  · rcases second with ⟨bond, -, -⟩ | ⟨holds, -⟩
    · exact .inr ⟨held, bond ▸ broken⟩
    · rw [holds] at broken
      cases broken

omit [Scalar α] in
/-- A bond that holds afterwards held before, with the same gap and limit. -/
theorem of_isCohesive (step : before.Continues after) (cohesive : after.isCohesive = true) :
    before.isCohesive = true ∧ after.initialGap = before.initialGap ∧
      after.tensileLimit = before.tensileLimit := by
  rw [isCohesive_iff] at cohesive ⊢
  rcases step with ⟨bond, gap, limit⟩ | ⟨-, broken⟩
  · exact ⟨bond ▸ cohesive, gap, limit⟩
  · rw [cohesive] at broken
    cases broken

theorem tearing (cohesive : before.isCohesive = true) : before.Continues before.torn := by
  rw [ContactRecord.torn, if_pos cohesive]
  exact .inr ⟨before.isCohesive_iff.mp cohesive, rfl⟩

theorem shearing (cohesive : before.isCohesive = true) : before.Continues before.sheared := by
  rw [ContactRecord.sheared, if_pos cohesive]
  exact .inr ⟨before.isCohesive_iff.mp cohesive, rfl⟩

/-- Contact and displacement are no part of a bond. -/
theorem parted (record : ContactRecord α) : record.Continues record.apart := .inl ⟨rfl, rfl, rfl⟩

omit [Scalar α] in
theorem displaced (record : ContactRecord α) (shear : Vec3 α) :
    record.Continues (record.displaced shear) :=
  .inl ⟨rfl, rfl, rfl⟩

/-- By every exit of the force law a bond goes on or breaks. -/
theorem exit {outcome : Outcome α} (exit : before.Exit outcome after) :
    before.Continues after := by
  cases exit with
  | separated => exact parted before
  | torn overlap cohesive => exact (parted before).trans (tearing cohesive)
  | coincident => exact displaced before before.shear
  | held force shear => exact displaced before shear
  | sheared force shear cohesive => exact (displaced before shear).trans (shearing cohesive)
  | severed force shear cohesive =>
      exact ((displaced before shear).trans (shearing cohesive)).trans (parted _)

end Continues

/-- What can become, in one call, of what is known about a pair. -/
inductive Succession : Option (ContactRecord α) → Option (ContactRecord α) → Prop where
  | absent : Succession none none
  /-- A pair gets its first record, without a bond. -/
  | created (record : ContactRecord α) : record.bond = .neverBonded →
      Succession none (some record)
  /-- Only a record without a bond is forgotten. -/
  | forgotten (record : ContactRecord α) : record.isCohesive = false →
      Succession (some record) none
  | kept {before after : ContactRecord α} : before.Continues after →
      Succession (some before) (some after)

namespace Succession

omit [Scalar α] in
theorem refl (known : Option (ContactRecord α)) : Succession known known := by
  cases known with
  | none => exact .absent
  | some record => exact .kept (.refl record)

/-- A pair that is evaluated has a record afterwards, which continues the one
it had or a fresh one. -/
theorem of_continues {known : Option (ContactRecord α)} {after : ContactRecord α}
    (step : (known.getD fresh).Continues after) : Succession known (some after) := by
  cases known with
  | some record => exact .kept step
  | none =>
      apply Succession.created
      rcases step with ⟨bond, -, -⟩ | ⟨held, -⟩
      · exact bond
      · cases held

omit [Scalar α] in
/-- A bond that holds afterwards held before, with the same gap and limit. -/
theorem of_isCohesive {known : Option (ContactRecord α)} {after : ContactRecord α}
    (step : Succession known (some after)) (cohesive : after.isCohesive = true) :
    ∃ before, known = some before ∧ before.isCohesive = true ∧
      after.initialGap = before.initialGap ∧ after.tensileLimit = before.tensileLimit := by
  cases step with
  | created record bond =>
      rw [isCohesive_iff, bond] at cohesive
      cases cohesive
  | kept continues => exact ⟨_, rfl, continues.of_isCohesive cohesive⟩

end Succession

end ContactRecord

end GranularBonds

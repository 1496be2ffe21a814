import GranularBonds.Contact.Preview
import GranularBonds.Proofs.Contact.Bond
import GranularBonds.Proofs.Contact.Reversal

/-!
# What the past of a pair tells

A bond that holds is the only thing in the past of a pair, besides its
displacement, that the force law reads.  Whether there was a bond that broke,
how it broke and whether the pair touched before makes no difference: two
records without a bond and with the same gap and displacement are told apart by
no list of visits, for numbers of any kind.
-/

namespace GranularBonds

variable {α : Type} [Scalar α]

/-! ## Records after visits -/

/-- What the pair does in a visit, and its record afterwards. -/
def Visit.evaluate (material : Material α) (visit : Visit α) (record : ContactRecord α) :
    Outcome α × ContactRecord α :=
  material.evaluate visit.pair record visit.flipped visit.timestep

namespace Material

/-- The record of a pair after a list of visits. -/
def recordAfter (material : Material α) (record : ContactRecord α) (visits : List (Visit α)) :
    ContactRecord α :=
  visits.foldl (fun record visit => (visit.evaluate material record).2) record

variable (material : Material α)

@[simp] theorem recordAfter_nil (record : ContactRecord α) :
    material.recordAfter record [] = record := rfl

@[simp] theorem recordAfter_cons (record : ContactRecord α) (visit : Visit α)
    (later : List (Visit α)) :
    material.recordAfter record (visit :: later) =
      material.recordAfter (visit.evaluate material record).2 later := rfl

/-- Visits can only break a bond. -/
theorem continues_recordAfter (record : ContactRecord α) (visits : List (Visit α)) :
    record.Continues (material.recordAfter record visits) := by
  induction visits generalizing record with
  | nil => exact .refl record
  | cons visit later ih =>
      have here : record.Continues (visit.evaluate material record).2 :=
        .exit (material.evaluate_exit ..)
      exact here.trans (ih _)

end Material

/-! ## Records that visits do not tell apart -/

namespace ContactRecord

/-- Two records without a bond that agree in gap and displacement, whatever
else they tell of the past. -/
structure Alike (left right : ContactRecord α) : Prop where
  leftFree : left.isCohesive = false
  rightFree : right.isCohesive = false
  gap : left.initialGap = right.initialGap
  shear : left.shear = right.shear

namespace Alike

variable {left right : ContactRecord α}

/-- Pairs with alike records are found alike. -/
theorem standing_eq (alike : left.Alike right) (pair : Kinematics α) :
    pair.standing left = pair.standing right := by
  simp only [Kinematics.standing, alike.leftFree, alike.rightFree, alike.gap, Bool.not_false,
    Bool.true_and, and_true]
  -- The limits may differ, but a pair without a bond never comes to be compared with its limit.
  by_cases negative : pair.overlap right.initialGap < 0
  · simp only [negative, if_true]
  · simp only [negative, false_and, if_false]

theorem apart (alike : left.Alike right) : left.apart.Alike right.apart :=
  ⟨alike.leftFree, alike.rightFree, alike.gap, rfl⟩

omit [Scalar α] in
theorem touched (alike : left.Alike right) : left.touched.Alike right.touched :=
  ⟨alike.leftFree, alike.rightFree, alike.gap, alike.shear⟩

theorem withShear (alike : left.Alike right) (flipped : Bool) (shear : Vec3 α) :
    (left.withShear flipped shear).Alike (right.withShear flipped shear) :=
  ⟨alike.leftFree, alike.rightFree, alike.gap, rfl⟩

/-- Without a bond to be sheared off, a contact leaves the record with another
displacement. -/
theorem engage_eq (alike : left.Alike right) (material : Material α) (pair : Kinematics α)
    (flipped : Bool) (timestep overlap : α) :
    ∃ force shear,
      material.engage pair left flipped timestep overlap =
          (force, (left.withShear flipped shear).touched) ∧
        material.engage pair right flipped timestep overlap =
          (force, (right.withShear flipped shear).touched) := by
  have seen : left.shearFor flipped = right.shearFor flipped :=
    congrArg (turned flipped) alike.shear
  simp only [Material.engage, alike.leftFree, alike.rightFree, seen, Bool.and_false,
    Bool.false_and, Bool.false_eq_true, if_false]
  exact ⟨_, _, rfl, rfl⟩

/-- A visit does the same to pairs with alike records, and leaves alike records
that agree in whether the pair touches. -/
theorem evaluate (alike : left.Alike right) (material : Material α) (visit : Visit α) :
    (visit.evaluate material left).1 = (visit.evaluate material right).1 ∧
      (visit.evaluate material left).2.Alike (visit.evaluate material right).2 ∧
      (visit.evaluate material left).2.touching = (visit.evaluate material right).2.touching := by
  simp only [Visit.evaluate, Material.evaluate, alike.standing_eq]
  cases standing : visit.pair.standing right with
  | separated => exact ⟨rfl, alike.apart, rfl⟩
  | overstretched overlap =>
      have bonded := visit.pair.isCohesive_of_standing_overstretched right standing
      rw [alike.rightFree] at bonded
      cases bonded
  | coincident => exact ⟨rfl, alike.touched, rfl⟩
  | engaged overlap =>
      rcases alike.engage_eq material visit.pair visit.flipped visit.timestep overlap with
        ⟨force, shear, leftEngaged, rightEngaged⟩
      simp only [leftEngaged, rightEngaged]
      exact ⟨trivial, (alike.withShear visit.flipped shear).touched, rfl⟩

/-- No list of visits tells alike records apart. -/
theorem recordAfter (alike : left.Alike right) (material : Material α)
    (visits : List (Visit α)) :
    (material.recordAfter left visits).Alike (material.recordAfter right visits) := by
  induction visits generalizing left right with
  | nil => exact alike
  | cons visit later ih => exact ih (alike.evaluate material visit).2.1

end Alike

end ContactRecord

end GranularBonds

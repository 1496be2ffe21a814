import Mathlib
import GranularBonds.Binary64

/-!
# Comparison of binary64 numbers

The force law knows of its numbers only that they can be compared.  For
binary64 numbers the two tests that it builds from this have the meaning one
expects, infinite and undefined numbers included.
-/

namespace GranularBonds.Scalar

open Float.Model (UnpackedFloat)

/-- A usable number is a finite one above zero. -/
theorem isUsable_iff {value : Float} :
    isUsable value = true ↔ value.isFinite = true ∧ 0 < value := by
  have finite : value.isFinite = value.toModel.unpack.isFinite := rfl
  have below : value ≤ 0 ↔ value.toModel.unpack.le (.zero .positive) = true :=
    ⟨of_decide_eq_true, decide_eq_true⟩
  have above : 0 < value ↔ (UnpackedFloat.zero .positive).lt value.toModel.unpack = true :=
    ⟨of_decide_eq_true, decide_eq_true⟩
  have usable : isUsable value = true ↔ value.isFinite = true ∧ ¬value ≤ 0 := by
    simp [isUsable, Scalar.isFinite]
  rw [usable, finite, below, above]
  cases value.toModel.unpack with
  | notANumber => simp [UnpackedFloat.isFinite]
  | infinity sign => simp [UnpackedFloat.isFinite]
  | zero sign => decide +revert
  | finite sign mantissa exponent positive =>
      cases sign <;>
        simp [UnpackedFloat.isFinite, UnpackedFloat.le, UnpackedFloat.lt, UnpackedFloat.compare]

/-- Comparing the other way round gives the opposite order. -/
theorem compare_swap (left right : UnpackedFloat) :
    right.compare left = (left.compare right).map Ordering.swap := by
  rcases left with sign | _ | sign | ⟨sign, mantissa, exponent, positive⟩ <;>
    rcases right with other | _ | other | ⟨other, digits, scale, above⟩ <;>
    try cases sign
  all_goals try cases other
  all_goals try rfl
  -- Two finite numbers of one sign are left.
  all_goals
    simp only [UnpackedFloat.compare, Option.map_some, Ordering.swap_then,
      ← Std.OrientedCmp.eq_swap]

/-- Two numbers are the same when they compare equal. -/
theorem same_iff_beq {value other : Float} : Same value other ↔ (value == other) = true := by
  have lower : value ≤ other ↔ value.toModel.unpack.le other.toModel.unpack = true :=
    ⟨of_decide_eq_true, decide_eq_true⟩
  have upper : other ≤ value ↔ other.toModel.unpack.le value.toModel.unpack = true :=
    ⟨of_decide_eq_true, decide_eq_true⟩
  have equal : (value == other) = value.toModel.unpack.beq other.toModel.unpack := rfl
  have same : Same value other ↔ value ≤ other ∧ other ≤ value := Iff.rfl
  rw [same, lower, upper, equal, UnpackedFloat.le, UnpackedFloat.le, UnpackedFloat.beq,
    compare_swap value.toModel.unpack other.toModel.unpack]
  cases value.toModel.unpack.compare other.toModel.unpack with
  | none => simp
  | some order => cases order <;> simp

end GranularBonds.Scalar

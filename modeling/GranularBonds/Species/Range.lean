import GranularBonds.Fault
import GranularBonds.Text.Count

/-!
# Ranges of kinds

A range of particle kinds in text: one number, or an asterisk with a number on
either side, on one, or on none.
-/

namespace GranularBonds

/-- Kinds from one number to another, both included. -/
structure KindRange where
  low : Nat
  high : Nat
  deriving DecidableEq, Repr

namespace KindRange

/-- The bound that one side of the asterisk writes. -/
def bound? (characters : List Char) (absent : Nat) : Option Nat :=
  if characters.isEmpty then some absent else Text.count? characters

/-- The two bounds in a text, not compared yet.  Only the first asterisk
divides. -/
def bounds? (characters : List Char) (kinds : Nat) : Option KindRange :=
  match characters.span (· != '*') with
  | (_, []) => (bound? characters 0).map fun kind => ⟨kind, kind⟩
  | (low, _ :: high) => do
      let low ← bound? low 1
      let high ← bound? high kinds
      return ⟨low, high⟩

/-- A range that is not empty and lies within the kinds from one on. -/
def Within (range : KindRange) (kinds : Nat) : Prop :=
  1 ≤ range.low ∧ range.high ≤ kinds ∧ range.low ≤ range.high

instance (range : KindRange) (kinds : Nat) : Decidable (range.Within kinds) :=
  inferInstanceAs (Decidable (_ ∧ _ ∧ _))

/-- The range that a text writes for a run with the given number of kinds. -/
def ofText {α : Type} (text : String) (kinds : Nat) : Except (Fault α) KindRange :=
  match bounds? text.toList kinds with
  | some range =>
      if range.Within kinds then .ok range else .error (.kindRange text kinds)
  | none => .error (.kindRange text kinds)

end KindRange

end GranularBonds

/-!
# Particle tags

The identity of a particle.  Positions in a worker's list change when
particles move between workers; tags do not, so whatever outlives a step is
kept under tags.
-/

namespace GranularBonds

/-- The number by which every worker knows a particle. -/
structure Tag where
  number : Nat
  deriving DecidableEq, Repr

namespace Tag

instance : LE Tag := ⟨fun left right => left.number ≤ right.number⟩

instance : LT Tag := ⟨fun left right => left.number < right.number⟩

instance (left right : Tag) : Decidable (left ≤ right) :=
  inferInstanceAs (Decidable (left.number ≤ right.number))

instance (left right : Tag) : Decidable (left < right) :=
  inferInstanceAs (Decidable (left.number < right.number))

@[simp] theorem le_iff (left right : Tag) : left ≤ right ↔ left.number ≤ right.number :=
  Iff.rfl

@[simp] theorem lt_iff (left right : Tag) : left < right ↔ left.number < right.number :=
  Iff.rfl

/-- The name of the particle in messages. -/
def text (tag : Tag) : String := s!"Particle({tag.number})"

end Tag

end GranularBonds

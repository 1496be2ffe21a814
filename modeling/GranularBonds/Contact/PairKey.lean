import GranularBonds.Tag

/-!
# Keys of pairs

A pair of particles is known by its two tags, the lower one first.  Main
statement: the two orders in which a pair can be visited give the same key,
and exactly one of them counts as flipped when the tags differ.
-/

namespace GranularBonds

/-- Tags of a pair. -/
@[ext] structure PairKey where
  low : Tag
  high : Tag
  deriving DecidableEq, Repr

namespace PairKey

/-- The key of a pair, and whether it is visited against the order of the
key. -/
def oriented (first second : Tag) : PairKey × Bool :=
  if first ≤ second then (⟨first, second⟩, false) else (⟨second, first⟩, true)

/-- The key of a pair. -/
def ofTags (first second : Tag) : PairKey := (oriented first second).1

theorem ofTags_comm (first second : Tag) : ofTags first second = ofTags second first := by
  obtain ⟨a⟩ := first
  obtain ⟨b⟩ := second
  simp only [ofTags, oriented, Tag.le_iff]
  split <;> split
  · have same : a = b := by omega
    rw [same]
  · rfl
  · rfl
  · omega

/-- Two different tags are seen in one order by one visit and in the other by
the visit from the other side. -/
theorem oriented_swap_snd {first second : Tag} (different : first ≠ second) :
    (oriented second first).2 = !(oriented first second).2 := by
  obtain ⟨a⟩ := first
  obtain ⟨b⟩ := second
  have apart : a ≠ b := fun same => different (congrArg Tag.mk same)
  simp only [oriented, Tag.le_iff]
  split <;> split <;> first | rfl | omega

/-- Keys are in order of their lower tag, then of their higher one. -/
instance : LT PairKey :=
  ⟨fun left right => left.low < right.low ∨ (left.low = right.low ∧ left.high < right.high)⟩

instance (left right : PairKey) : Decidable (left < right) :=
  inferInstanceAs (Decidable (_ ∨ _))

theorem lt_iff (left right : PairKey) :
    left < right ↔ left.low.number < right.low.number ∨
      (left.low.number = right.low.number ∧ left.high.number < right.high.number) := by
  obtain ⟨⟨a⟩, ⟨b⟩⟩ := left
  obtain ⟨⟨c⟩, ⟨d⟩⟩ := right
  change (a < c ∨ ((⟨a⟩ : Tag) = ⟨c⟩ ∧ b < d)) ↔ _
  simp

theorem eq_iff (left right : PairKey) :
    left = right ↔ left.low.number = right.low.number ∧
      left.high.number = right.high.number := by
  obtain ⟨⟨a⟩, ⟨b⟩⟩ := left
  obtain ⟨⟨c⟩, ⟨d⟩⟩ := right
  simp

theorem lt_irrefl (key : PairKey) : ¬key < key := by
  rw [lt_iff]; omega

theorem lt_trans {first second third : PairKey} (before : first < second)
    (after : second < third) : first < third := by
  rw [lt_iff] at *; omega

theorem lt_of_not_lt_of_ne {left right : PairKey} (notBefore : ¬left < right)
    (different : left ≠ right) : right < left := by
  rw [lt_iff] at *
  rw [ne_eq, eq_iff] at different
  omega

/-- A pair in messages. -/
def text (key : PairKey) : String := s!"({key.low.number}, {key.high.number})"

end PairKey

end GranularBonds

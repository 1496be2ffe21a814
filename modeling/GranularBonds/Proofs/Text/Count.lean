import Mathlib
import GranularBonds.Text.Count

/-!
# The grammar of counts

A count is written in decimal digits, with or without a plus sign in front of
them.  The grammar puts a row of digits together from the left, one digit at a
time, and does not mention how a text is read.  Main statement: reading accepts
exactly the texts that the grammar makes, and answers the number that they
write.
-/

namespace GranularBonds.Text

/-- One or more decimal digits that write a number. -/
inductive IsDigits : List Char → Nat → Prop where
  | one {digit : Nat} : digit < 10 → IsDigits [Nat.digitChar digit] digit
  | more {characters : List Char} {value digit : Nat} : IsDigits characters value → digit < 10 →
      IsDigits (characters ++ [Nat.digitChar digit]) (10 * value + digit)

/-- A text that writes a number of 64 bits. -/
inductive IsCount : List Char → Nat → Prop where
  | unsigned {characters : List Char} {value : Nat} : IsDigits characters value →
      value < 2 ^ 64 → IsCount characters value
  | signed {characters : List Char} {value : Nat} : IsDigits characters value →
      value < 2 ^ 64 → IsCount ('+' :: characters) value

/-! ## Digits -/

/-- Every decimal digit is that of its distance from zero. -/
theorem exists_digitChar {character : Char} (digit : character.isDigit = true) :
    ∃ value < 10, character = Nat.digitChar value := by
  have bounds : 48 ≤ character.toNat ∧ character.toNat ≤ 57 := by
    simpa [Char.isDigit, UInt32.le_iff_toNat_le] using digit
  have small : character.toNat - 48 < 10 := by omega
  refine ⟨character.toNat - 48, small, Char.toNat_inj.mp ?_⟩
  rw [Nat.toNat_digitChar_of_lt_ten small]
  omega

theorem digitsValue_append (left right : List Char) :
    Numeral.digitsValue (left ++ right) =
      10 ^ right.length * Numeral.digitsValue left + Numeral.digitsValue right := by
  induction right using List.reverseRecOn with
  | nil => simp [Numeral.digitsValue]
  | append_singleton right last ih =>
      simp only [Numeral.digitsValue] at ih ⊢
      rw [← List.append_assoc, List.foldl_concat, ih, List.foldl_concat, List.length_append,
        List.length_singleton, pow_succ]
      ring

theorem digitsValue_digitChar {digit : Nat} (small : digit < 10) :
    Numeral.digitsValue [Nat.digitChar digit] = digit := by
  revert digit
  decide

/-- Digits are told by their characters, and what they write by its places. -/
theorem isDigits_iff {characters : List Char} {value : Nat} :
    IsDigits characters value ↔
      characters ≠ [] ∧ (∀ character ∈ characters, character.isDigit = true) ∧
        Numeral.digitsValue characters = value := by
  have digit {value : Nat} (small : value < 10) : (Nat.digitChar value).isDigit = true := by
    rw [Nat.isDigit_digitChar, decide_eq_true small]
  constructor
  · intro digits
    induction digits with
    | one small =>
        exact ⟨List.cons_ne_nil _ _, by simpa using digit small, digitsValue_digitChar small⟩
    | more digits small ih =>
        rcases ih with ⟨-, each, written⟩
        refine ⟨List.append_ne_nil_of_right_ne_nil _ (List.cons_ne_nil _ _), ?_, ?_⟩
        · rw [List.forall_mem_append]
          exact ⟨each, by simpa using digit small⟩
        · rw [digitsValue_append, written, digitsValue_digitChar small]
          rfl
  · intro told
    rcases told with ⟨some, each, written⟩
    induction characters using List.reverseRecOn generalizing value with
    | nil => exact absurd rfl some
    | append_singleton front last ih =>
        rw [List.forall_mem_append] at each
        rcases exists_digitChar (each.2 last (List.mem_singleton_self last)) with
          ⟨digit, small, rfl⟩
        rw [digitsValue_append, digitsValue_digitChar small] at written
        rw [← written]
        cases front with
        | nil => simpa [Numeral.digitsValue] using IsDigits.one small
        | cons head rest => exact .more (ih (List.cons_ne_nil _ _) each.1 rfl) small

/-- Digits among others write no more than all of them. -/
theorem IsDigits.le_of_infix {characters before after : List Char} {value whole : Nat}
    (part : IsDigits characters value) (all : IsDigits (before ++ characters ++ after) whole) :
    value ≤ whole := by
  rw [← (isDigits_iff.mp part).2.2, ← (isDigits_iff.mp all).2.2, digitsValue_append,
    digitsValue_append]
  have shifted : Numeral.digitsValue characters ≤
      10 ^ after.length * Numeral.digitsValue characters :=
    Nat.le_mul_of_pos_left _ (by positivity)
  rw [Nat.mul_add]
  omega

/-- The digits of a number write it. -/
theorem isDigits_toDigits (value : Nat) : IsDigits (Nat.toDigits 10 value) value := by
  refine isDigits_iff.mpr ⟨Nat.toDigits_ne_nil, ?_, ?_⟩
  · exact fun _ member => Nat.isDigit_of_mem_toDigits (by decide) (by decide) member
  · rw [Numeral.digitsValue, ← Nat.ofDigitChars_eq_foldl]
    exact Nat.ofDigitChars_ten_toDigits

/-- Digits are read as the number that they write. -/
theorem digits?_eq_some_iff {characters : List Char} {value : Nat} :
    digits? characters = some value ↔ IsDigits characters value := by
  simp [digits?, isDigits_iff, and_assoc]

/-! ## Counts -/

namespace IsCount

variable {characters : List Char} {value : Nat}

/-- A count is made of digits and at most one sign, in front of them. -/
theorem exists_isDigits (count : IsCount characters value) :
    value < 2 ^ 64 ∧
      ∃ digits, IsDigits digits value ∧ (characters = digits ∨ characters = '+' :: digits) := by
  cases count with
  | unsigned digits small => exact ⟨small, _, digits, .inl rfl⟩
  | signed digits small => exact ⟨small, _, digits, .inr rfl⟩

theorem mem (count : IsCount characters value) {character : Char}
    (member : character ∈ characters) : character.isDigit = true ∨ character = '+' := by
  rcases count.exists_isDigits with ⟨-, digits, written, rfl | rfl⟩
  · exact .inl ((isDigits_iff.mp written).2.1 character member)
  · rcases List.mem_cons.mp member with sign | later
    · exact .inr sign
    · exact .inl ((isDigits_iff.mp written).2.1 character later)

/-- The sign stands in front. -/
theorem sign_first {before after : List Char}
    (count : IsCount (before ++ '+' :: after) value) : before = [] := by
  have sign : Char.isDigit '+' ≠ true := by decide
  rcases count.exists_isDigits with ⟨-, digits, written, same | same⟩
  · refine absurd ((isDigits_iff.mp written).2.1 '+' ?_) sign
    simp [← same]
  · cases before with
    | nil => rfl
    | cons first rest =>
        refine absurd ((isDigits_iff.mp written).2.1 '+' ?_) sign
        simp [← (List.cons.inj same).2]

/-- Digits inside a count write no more than it does. -/
theorem le_of_infix {digits before after : List Char} {part : Nat} (inside : IsDigits digits part)
    (count : IsCount (before ++ digits ++ after) value) : part ≤ value := by
  rcases count.exists_isDigits with ⟨-, row, written, same | same⟩
  · exact inside.le_of_infix (same ▸ written)
  · cases before with
    | cons first rest =>
        have behind : rest ++ digits ++ after = row := (List.cons.inj same).2
        exact inside.le_of_infix (behind ▸ written)
    | nil =>
        -- The sign is no digit, so the digits cannot begin with it.
        cases digits with
        | nil => exact absurd rfl (isDigits_iff.mp inside).1
        | cons first rest =>
            have digit := (isDigits_iff.mp inside).2.1 first List.mem_cons_self
            rw [(List.cons.inj same).1] at digit
            cases digit

end IsCount

/-- The digits of a number of 64 bits are a count. -/
theorem isCount_toDigits {value : Nat} (small : value < 2 ^ 64) :
    IsCount (Nat.toDigits 10 value) value :=
  .unsigned (isDigits_toDigits value) small

/-- Reading a count accepts exactly what the grammar makes. -/
theorem count?_eq_some_iff {characters : List Char} {value : Nat} :
    count? characters = some value ↔ IsCount characters value := by
  have sign : Char.isDigit '+' ≠ true := by decide
  simp only [count?, Option.filter_eq_some_iff, digits?_eq_some_iff, decide_eq_true_eq]
  split
  case h_1 rest =>
      constructor
      · intro read
        exact .signed read.1 read.2
      · intro count
        cases count with
        | unsigned digits small =>
            exact absurd ((isDigits_iff.mp digits).2.1 '+' List.mem_cons_self) sign
        | signed digits small => exact ⟨digits, small⟩
  case h_2 unsigned =>
      constructor
      · intro read
        exact .unsigned read.1 read.2
      · intro count
        cases count with
        | unsigned digits small => exact ⟨digits, small⟩
        | signed digits small => exact absurd rfl (unsigned _)

end GranularBonds.Text

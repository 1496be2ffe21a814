import Mathlib
import GranularBonds.Proofs.Species.PairSet
import GranularBonds.Proofs.Text.Count

/-!
# The grammar of ranges of kinds

A range of kinds is written as one count, or as an asterisk between two sides,
each of which is a count or nothing.  Reading divides a text at its first
asterisk only, and a second one is then part of a side that is no count.  Main
statement: a text is read as a range exactly when the grammar writes the range
and the range lies within the kinds, and every other text is refused under its
own name.
-/

namespace GranularBonds.KindRange

/-- One side of the asterisk: a count, or nothing, which stands for a number
that is given. -/
inductive IsSide (absent : Nat) : List Char → Nat → Prop where
  | nothing : IsSide absent [] absent
  | count {characters : List Char} {value : Nat} : Text.IsCount characters value →
      IsSide absent characters value

/-- The texts of a range: a count alone, or two sides of one asterisk, from the
first kind and to the last one if they are left out. -/
inductive IsText (kinds : Nat) : List Char → KindRange → Prop where
  | single {characters : List Char} {kind : Nat} : Text.IsCount characters kind →
      IsText kinds characters ⟨kind, kind⟩
  | between {left right : List Char} {low high : Nat} : IsSide 1 left low →
      IsSide kinds right high → IsText kinds (left ++ '*' :: right) ⟨low, high⟩

/-- A text is refused, by a fault that names it. -/
def Refuses (α : Type) (kinds : Nat) (text : String) : Prop :=
  ofText text kinds = (.error (.kindRange text kinds) : Except (Fault α) KindRange)

/-! ## Sides -/

theorem asterisk_not_mem_of_isCount {characters : List Char} {value : Nat}
    (count : Text.IsCount characters value) : '*' ∉ characters := by
  intro member
  rcases count.mem member with digit | sign
  · cases digit
  · cases sign

theorem IsSide.asterisk_not_mem {absent value : Nat} {characters : List Char}
    (side : IsSide absent characters value) : '*' ∉ characters := by
  cases side with
  | nothing => exact List.not_mem_nil
  | count count => exact asterisk_not_mem_of_isCount count

/-- A side that is something is a count. -/
theorem IsSide.isCount {absent value : Nat} {characters : List Char}
    (side : IsSide absent characters value) (some : characters ≠ []) :
    Text.IsCount characters value := by
  cases side with
  | nothing => exact absurd rfl some
  | count count => exact count

theorem bound?_eq_some_iff {characters : List Char} {absent value : Nat} :
    bound? characters absent = some value ↔ IsSide absent characters value := by
  cases characters with
  | nil =>
      constructor
      · intro read
        rw [← Option.some.inj read]
        exact .nothing
      · intro side
        cases side with
        | nothing => rfl
        | count count => cases Text.count?_eq_some_iff.mpr count
  | cons head rest =>
      have read : bound? (head :: rest) absent = Text.count? (head :: rest) := rfl
      rw [read, Text.count?_eq_some_iff]
      exact ⟨.count, fun side => side.isCount (List.cons_ne_nil _ _)⟩

/-! ## Texts -/

/-- A text has one division at its first asterisk. -/
theorem first_division {left right front back : List Char} (first : '*' ∉ left)
    (other : '*' ∉ front) (whole : left ++ '*' :: right = front ++ '*' :: back) :
    left = front ∧ right = back := by
  induction left generalizing front with
  | nil =>
      cases front with
      | nil => exact ⟨rfl, (List.cons.inj whole).2⟩
      | cons head rest =>
          rw [← (List.cons.inj whole).1] at other
          exact absurd List.mem_cons_self other
  | cons head rest ih =>
      cases front with
      | nil =>
          rw [(List.cons.inj whole).1] at first
          exact absurd List.mem_cons_self first
      | cons character tail =>
          rcases List.cons.inj whole with ⟨rfl, behind⟩
          rcases ih (List.not_mem_of_not_mem_cons first) (List.not_mem_of_not_mem_cons other)
            behind with ⟨rfl, rfl⟩
          exact ⟨rfl, rfl⟩

theorem bounds?_of_not_mem {characters : List Char} (alone : '*' ∉ characters) (kinds : Nat) :
    bounds? characters kinds = (bound? characters 0).map fun kind => ⟨kind, kind⟩ := by
  have each : ∀ character ∈ characters, (character != '*') = true := by
    intro character member
    exact bne_iff_ne.mpr fun same => alone (same ▸ member)
  rw [bounds?, List.span_eq_takeWhile_dropWhile, List.dropWhile_eq_nil_iff.mpr each]

theorem bounds?_append {left : List Char} (first : '*' ∉ left) (right : List Char) (kinds : Nat) :
    bounds? (left ++ '*' :: right) kinds = (do
      let low ← bound? left 1
      let high ← bound? right kinds
      return ⟨low, high⟩) := by
  have each : ∀ character ∈ left, (character != '*') = true := by
    intro character member
    exact bne_iff_ne.mpr fun same => first (same ▸ member)
  have taken : (left ++ '*' :: right).takeWhile (· != '*') = left := by
    rw [List.takeWhile_append_of_pos each]
    exact List.append_nil left
  have dropped : (left ++ '*' :: right).dropWhile (· != '*') = '*' :: right :=
    List.dropWhile_append_of_pos each
  rw [bounds?, List.span_eq_takeWhile_dropWhile, taken, dropped]

/-- Two bounds are read exactly from what the grammar writes, but that nothing
at all is read as a range from zero to zero. -/
theorem bounds?_eq_some_iff {characters : List Char} {kinds : Nat} {range : KindRange} :
    bounds? characters kinds = some range ↔
      IsText kinds characters range ∨ characters = [] ∧ range = ⟨0, 0⟩ := by
  by_cases divided : '*' ∈ characters
  · rcases List.eq_append_cons_of_mem divided with ⟨left, right, rfl, first⟩
    simp only [bounds?_append first, Option.bind_eq_bind, Option.bind_eq_some_iff,
      bound?_eq_some_iff, pure, Option.some.injEq]
    constructor
    · intro read
      rcases read with ⟨low, below, high, above, rfl⟩
      exact .inl (.between below above)
    · intro written
      rcases written with text | ⟨empty, -⟩
      · generalize whole : left ++ '*' :: right = characters at text
        cases text with
        | single count =>
            exact absurd (whole ▸ divided) (asterisk_not_mem_of_isCount count)
        | between below above =>
            -- Neither left part holds an asterisk, so both divisions are at the first one.
            rcases first_division first below.asterisk_not_mem whole with ⟨rfl, rfl⟩
            exact ⟨_, below, _, above, rfl⟩
      · exact absurd empty (List.append_ne_nil_of_right_ne_nil _ (List.cons_ne_nil _ _))
  · rw [bounds?_of_not_mem divided, Option.map_eq_some_iff]
    simp only [bound?_eq_some_iff]
    constructor
    · intro read
      rcases read with ⟨kind, side, rfl⟩
      cases side with
      | nothing => exact .inr ⟨rfl, rfl⟩
      | count count => exact .inl (.single count)
    · intro written
      rcases written with text | ⟨rfl, rfl⟩
      · cases text with
        | single count => exact ⟨_, .count count, rfl⟩
        | between => exact absurd (List.mem_append_right _ List.mem_cons_self) divided
      · exact ⟨0, .nothing, rfl⟩

theorem ofText_eq_ok_iff {α : Type} {text : String} {kinds : Nat} {range : KindRange} :
    ofText text kinds = (.ok range : Except (Fault α) KindRange) ↔
      IsText kinds text.toList range ∧ range.Within kinds := by
  have read : ofText text kinds = (.ok range : Except (Fault α) KindRange) ↔
      bounds? text.toList kinds = some range ∧ range.Within kinds := by
    unfold ofText
    cases bounds? text.toList kinds with
    | none => simp
    | some other =>
        simp only [Option.some.injEq]
        split
        case isTrue within => grind
        case isFalse outside => grind
  rw [read, bounds?_eq_some_iff]
  constructor
  · intro found
    rcases found with ⟨text | ⟨-, rfl⟩, within⟩
    · exact ⟨text, within⟩
    · exact absurd within.1 (by decide)
  · intro found
    exact ⟨.inl found.1, found.2⟩

/-! ## Refused texts -/

theorem refuses_of_not_isText {α : Type} {text : String} {kinds : Nat}
    (absent : ¬∃ range, IsText kinds text.toList range ∧ range.Within kinds) :
    Refuses α kinds text :=
  ofText_of_not_written fun ⟨range, written⟩ => absent ⟨range, ofText_eq_ok_iff.mp written⟩

theorem refuses_of_no_isText {α : Type} {text : String} {kinds : Nat}
    (never : ∀ range, ¬IsText kinds text.toList range) : Refuses α kinds text :=
  refuses_of_not_isText fun ⟨range, written, _⟩ => never range written

/-- Characters in a row, none of them an asterisk, are part of a count. -/
theorem IsText.exists_isCount {kinds : Nat} {range : KindRange} {before part after : List Char}
    (text : IsText kinds (before ++ part ++ after) range) (some : part ≠ [])
    (undivided : '*' ∉ part) :
    ∃ front rest value, Text.IsCount (front ++ part ++ rest) value := by
  have filled (front rest : List Char) : front ++ part ++ rest ≠ [] := by simp [some]
  generalize whole : before ++ part ++ after = characters at text
  cases text with
  | single count => exact ⟨before, after, _, whole ▸ count⟩
  | between below above =>
      rw [List.append_assoc, List.append_eq_append_iff] at whole
      rcases whole with ⟨left, rfl, whole⟩ | ⟨right, rfl, whole⟩
      · rcases List.append_eq_append_iff.mp whole with ⟨rest, rfl, -⟩ | ⟨rest, same, behind⟩
        · rw [← List.append_assoc] at below
          exact ⟨before, rest, _, below.isCount (filled _ _)⟩
        · cases rest with
          | nil =>
              rw [List.append_nil] at same
              subst same
              rw [← List.append_nil (before ++ part)] at below
              exact ⟨before, [], _, below.isCount (filled _ _)⟩
          | cons head rest =>
              rw [same, ← (List.cons.inj behind).1] at undivided
              exact absurd (List.mem_append_right _ List.mem_cons_self) undivided
      · cases right with
        | nil =>
            cases part with
            | nil => exact absurd rfl some
            | cons head rest =>
                rw [← (List.cons.inj whole).1] at undivided
                exact absurd List.mem_cons_self undivided
        | cons head front =>
            have behind : _ = front ++ (part ++ after) := (List.cons.inj whole).2
            rw [← List.append_assoc] at behind
            exact ⟨front, after, _, (behind ▸ above).isCount (filled _ _)⟩

/-- One asterisk divides a range, and no more. -/
theorem IsText.count_asterisk_le {kinds : Nat} {characters : List Char} {range : KindRange}
    (text : IsText kinds characters range) : characters.count '*' ≤ 1 := by
  cases text with
  | single count =>
      rw [List.count_eq_zero_of_not_mem (asterisk_not_mem_of_isCount count)]
      exact Nat.zero_le 1
  | between below above =>
      rw [List.count_append, List.count_cons_self,
        List.count_eq_zero_of_not_mem below.asterisk_not_mem,
        List.count_eq_zero_of_not_mem above.asterisk_not_mem]

section Refusals

variable {α : Type} {kinds : Nat} {text : String}

theorem refuses_of_two_asterisks (two : 2 ≤ text.toList.count '*') : Refuses α kinds text := by
  refine refuses_of_no_isText fun range written => ?_
  exact absurd (two.trans written.count_asterisk_le) (by decide)

/-- A blank, a minus sign and a letter are neither digits nor signs of a count. -/
theorem refuses_of_mem {character : Char} (member : character ∈ text.toList)
    (digit : character.isDigit = false) (sign : character ≠ '+') (asterisk : character ≠ '*') :
    Refuses α kinds text := by
  refine refuses_of_no_isText fun range written => ?_
  rcases List.append_of_mem member with ⟨before, after, divided⟩
  rw [divided, List.append_cons] at written
  rcases written.exists_isCount (List.cons_ne_nil _ _)
    (List.mem_singleton.not.mpr asterisk.symm) with ⟨front, rest, value, count⟩
  have inside : character ∈ front ++ [character] ++ rest := by simp
  rcases count.mem inside with digit' | sign'
  · exact absurd (digit'.symm.trans digit) (by decide)
  · exact sign sign'

/-- A plus sign stands at the beginning of a side. -/
theorem refuses_of_inner_sign {before after : List Char} {character : Char}
    (divided : text.toList = before ++ character :: '+' :: after) (asterisk : character ≠ '*') :
    Refuses α kinds text := by
  refine refuses_of_no_isText fun range written => ?_
  have row : text.toList = before ++ [character, '+'] ++ after := by simp [divided]
  rw [row] at written
  rcases written.exists_isCount (List.cons_ne_nil _ _) (by simp [asterisk.symm]) with
    ⟨front, rest, value, count⟩
  have inner : front ++ [character, '+'] ++ rest = front ++ [character] ++ '+' :: rest := by simp
  exact List.append_ne_nil_of_right_ne_nil _ (List.cons_ne_nil _ _) (inner ▸ count).sign_first

/-- Digits that write a number of more than 64 bits are in no range. -/
theorem refuses_of_overflow {before digits after : List Char} {value : Nat}
    (divided : text.toList = before ++ digits ++ after) (row : Text.IsDigits digits value)
    (large : 2 ^ 64 ≤ value) : Refuses α kinds text := by
  refine refuses_of_no_isText fun range written => ?_
  rcases Text.isDigits_iff.mp row with ⟨some, each, -⟩
  rw [divided] at written
  rcases written.exists_isCount some (fun member => absurd (each '*' member) (by decide)) with
    ⟨front, rest, whole, count⟩
  have bound : whole < 2 ^ 64 := count.exists_isDigits.1
  exact absurd (large.trans (count.le_of_infix row)) bound.not_ge

end Refusals

/-! ## Rendered ranges -/

/-- The decimal form of two kinds and an asterisk between them is read back. -/
theorem ofText_toString {α : Type} {kinds low high : Nat} (small : kinds < 2 ^ 64)
    (first : 1 ≤ low) (order : low ≤ high) (last : high ≤ kinds) :
    ofText (toString low ++ "*" ++ toString high) kinds =
      (.ok ⟨low, high⟩ : Except (Fault α) KindRange) := by
  have row : (toString low ++ "*" ++ toString high).toList =
      Nat.toDigits 10 low ++ '*' :: Nat.toDigits 10 high := by
    simp [toString, Nat.toList_repr]
  refine ofText_eq_ok_iff.mpr ⟨?_, first, last, order⟩
  rw [row]
  exact .between (.count (Text.isCount_toDigits (by omega)))
    (.count (Text.isCount_toDigits (by omega)))

/-- A text is read as a range exactly when the grammar writes the range and the
range lies within the kinds, and every other text is refused under its own
name: one with a second asterisk, with a character other than digits, signs and
the asterisk, with a sign that begins no side, or with a number of more than 64
bits.  The decimal form of a range is read as the range. -/
theorem ofText_grammar {α : Type} (kinds : Nat) :
    (∀ text range, ofText text kinds = (.ok range : Except (Fault α) KindRange) ↔
        IsText kinds text.toList range ∧ range.Within kinds) ∧
      (∀ text : String, (¬∃ range, IsText kinds text.toList range ∧ range.Within kinds) →
        Refuses α kinds text) ∧
      (kinds < 2 ^ 64 → ∀ low high, 1 ≤ low → low ≤ high → high ≤ kinds →
        ofText (toString low ++ "*" ++ toString high) kinds =
          (.ok ⟨low, high⟩ : Except (Fault α) KindRange)) ∧
      (∀ text : String, 2 ≤ text.toList.count '*' → Refuses α kinds text) ∧
      (∀ text : String, ∀ character ∈ text.toList, character.isDigit = false →
        character ≠ '+' → character ≠ '*' → Refuses α kinds text) ∧
      (∀ (text : String) before character after,
        text.toList = before ++ character :: '+' :: after → character ≠ '*' →
          Refuses α kinds text) ∧
      ∀ (text : String) before digits after value, text.toList = before ++ digits ++ after →
        Text.IsDigits digits value → 2 ^ 64 ≤ value → Refuses α kinds text := by
  refine ⟨fun _ _ => ofText_eq_ok_iff, fun _ => refuses_of_not_isText, ?_, ?_, ?_, ?_, ?_⟩
  · exact fun small _ _ => ofText_toString small
  · exact fun _ => refuses_of_two_asterisks
  · exact fun _ _ => refuses_of_mem
  · exact fun _ _ _ _ => refuses_of_inner_sign
  · exact fun _ _ _ _ _ => refuses_of_overflow

theorem ofText_grammar_four :
    ofText "+2*3" 4 = (.ok ⟨2, 3⟩ : Except (Fault ℚ) KindRange) ∧
      ofText "*" 4 = (.ok ⟨1, 4⟩ : Except (Fault ℚ) KindRange) ∧
      ofText (toString 2 ++ "*" ++ toString 3) 4 = (.ok ⟨2, 3⟩ : Except (Fault ℚ) KindRange) ∧
      Refuses ℚ 4 "2**3" ∧ Refuses ℚ 4 " 2" ∧ Refuses ℚ 4 "2+3" ∧
        Refuses ℚ 4 "*18446744073709551616" := by
  rcases ofText_grammar (α := ℚ) 4 with ⟨read, -, rendered, twice, other, sign, overflow⟩
  refine ⟨(read _ _).mpr ⟨?_, by decide⟩, (read _ _).mpr ⟨?_, by decide⟩,
    rendered (by decide) 2 3 (by decide) (by decide) (by decide), twice _ (by decide),
    other _ ' ' (by decide) (by decide) (by decide) (by decide),
    sign _ [] '2' ['3'] rfl (by decide),
    overflow _ ['*'] (Nat.toDigits 10 (2 ^ 64)) [] _ (by decide)
      (Text.isDigits_toDigits _) le_rfl⟩
  · exact .between (.count (.signed (Text.isDigits_toDigits 2) (by decide)))
      (.count (Text.isCount_toDigits (by decide : 3 < 2 ^ 64)))
  · exact .between .nothing .nothing

end GranularBonds.KindRange

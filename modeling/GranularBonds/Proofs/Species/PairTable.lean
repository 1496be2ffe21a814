import GranularBonds.Proofs.Contact.Pass
import GranularBonds.Species.PairTable

/-!
# Growth of pair tables

Giving coefficients only ever adds to a table: its kinds and the number of its
flags stay, and so does every pair that has coefficients.  In a table whose
flags are a square every place that a call asks for is there, so giving
coefficients fails only for ranges that do not parse or select nothing.  A table
without coefficients is such a square as long as the product of its kinds is a
word; the one with more kinds has too few flags.
-/

namespace GranularBonds

variable {α : Type}

namespace KindRange

theorem within_of_ofText {text : String} {kinds : Nat} {range : KindRange}
    (parsed : (ofText text kinds : Except (Fault α) KindRange) = .ok range) :
    range.Within kinds := by
  unfold ofText at parsed
  split at parsed
  · split at parsed
    case isTrue within => exact Except.ok.inj parsed ▸ within
    case isFalse => cases parsed
  · cases parsed

end KindRange

namespace PairTable

/-- There is one flag for each ordered pair of kinds, and their number is a word. -/
structure Square (table : PairTable) : Prop where
  size : table.flags.size = table.kinds * table.kinds
  bound : table.kinds < UInt32.size

/-- The square of a number is a word if the number is half a word, and only then. -/
theorem mul_self_lt_size_iff {count : Nat} : count * count < UInt64.size ↔ count < UInt32.size :=
  Nat.mul_self_lt_mul_self_iff (n := UInt32.size)

/-- The flags of a table are as many as the product of its kinds, taken in words. -/
def WordSquare (table : PairTable) : Prop :=
  table.flags.size = (table.kindWord * table.kindWord).toNat

theorem wordSquare_empty (kinds : UInt64) : (empty kinds).WordSquare := by
  rw [WordSquare, empty, Array.size_replicate]

/-- A product in words is the product if the number of kinds is half a word, and only
then. -/
theorem WordSquare.size_eq_iff {table : PairTable} (words : table.WordSquare) :
    table.flags.size = table.kinds * table.kinds ↔ table.kinds < UInt32.size := by
  have product : table.flags.size = table.kinds * table.kinds % UInt64.size :=
    words.trans (UInt64.toNat_mul ..)
  rw [product, ← mul_self_lt_size_iff]
  constructor
  · intro same
    rw [← same]
    exact Nat.mod_lt _ (by decide)
  · exact Nat.mod_eq_of_lt

theorem WordSquare.square_iff {table : PairTable} (words : table.WordSquare) :
    table.Square ↔ table.kinds < UInt32.size :=
  ⟨Square.bound, fun bound => ⟨words.size_eq_iff.mpr bound, bound⟩⟩

theorem Square.wordSquare {table : PairTable} (square : table.Square) : table.WordSquare := by
  have product : table.kinds * table.kinds < UInt64.size := mul_self_lt_size_iff.mpr square.bound
  rw [WordSquare, UInt64.toNat_mul, square.size]
  exact (Nat.mod_eq_of_lt product).symm

theorem squareSize?_eq_some_iff {table : PairTable} :
    table.squareSize? = some table.flags.size ↔ table.Square := by
  simp only [squareSize?, mul_self_lt_size_iff]
  split
  case isTrue bound =>
    rw [Option.some.injEq]
    exact ⟨fun size => ⟨size.symm, bound⟩, fun square => square.size.symm⟩
  case isFalse many => exact ⟨nofun, fun square => absurd square.bound many⟩

/-- What a check of a table establishes. -/
theorem validate_eq_ok_iff {table : PairTable} :
    (table.validate : Except (Fault α) Unit) = .ok () ↔ 1 ≤ table.kinds ∧ table.Square := by
  unfold validate
  rw [← squareSize?_eq_some_iff]
  split
  case isTrue none =>
    rw [beq_iff_eq] at none
    simp [none]
  case isFalse some =>
    rw [beq_iff_eq] at some
    split
    case isTrue other => exact ⟨nofun, fun valid => absurd valid.2 other⟩
    case isFalse same => exact ⟨fun _ => ⟨by omega, Decidable.of_not_not same⟩, fun _ => rfl⟩

/-- A table with kinds that is not a square is refused for the number of its flags. -/
theorem validate_eq_error {table : PairTable} (some : 1 ≤ table.kinds)
    (flagless : ¬table.Square) : (table.validate : Except (Fault α) Unit) =
      .error (.setup (.tableSize table.kinds table.flags.size)) := by
  have kinds : (table.kinds == 0) = false := by
    rw [beq_eq_false_iff_ne]
    omega
  rw [← squareSize?_eq_some_iff] at flagless
  rw [validate, kinds, if_neg (by decide), if_pos flagless]

theorem offset_lt {kinds low high : Nat} (least : 1 ≤ low) (ordered : low ≤ high)
    (most : high ≤ kinds) : (low - 1) * kinds + (high - 1) < kinds * kinds := by
  have row : (low - 1 + 1) * kinds ≤ kinds * kinds := Nat.mul_le_mul_right _ (by omega)
  rw [Nat.succ_mul] at row
  omega

/-- Where the square of the kinds is a word, the place of a pair does not wrap. -/
theorem place_eq {table : PairTable} (bound : table.kinds < UInt32.size) {low high : Nat}
    (least : 1 ≤ low) (ordered : low ≤ high) (most : high ≤ table.kinds) :
    table.place low high = (low - 1) * table.kinds + (high - 1) :=
  Nat.mod_eq_of_lt
    (Nat.lt_trans (offset_lt least ordered most) (mul_self_lt_size_iff.mpr bound))

/-- In a square table every pair of kinds has its place. -/
theorem place_lt {table : PairTable} (square : table.Square) {low high : Nat} (least : 1 ≤ low)
    (ordered : low ≤ high) (most : high ≤ table.kinds) :
    table.place low high < table.flags.size := by
  rw [place_eq square.bound least ordered most, square.size]
  exact offset_lt least ordered most

/-- Only kinds that there are have coefficients. -/
theorem inside_of_isConfigured {table : PairTable} {first second : Nat}
    (given : table.isConfigured first second = true) :
    (1 ≤ first ∧ first ≤ table.kinds) ∧ 1 ≤ second ∧ second ≤ table.kinds := by
  simp only [isConfigured, Bool.and_eq_true, decide_eq_true_eq] at given
  omega

/-! ## Looks at all selected pairs -/

theorem mem_selection_iff {rows columns : KindRange} {first second : Nat} :
    (first, second) ∈ selection rows columns ↔
      (rows.low ≤ first ∧ first ≤ rows.high) ∧ (columns.low ≤ second ∧ second ≤ columns.high) ∧
        first ≤ second := by
  simp only [selection, List.mem_flatMap, List.mem_map, List.mem_range', Prod.mk.injEq]
  constructor
  · intro found
    rcases found with ⟨_, ⟨row, below, rfl⟩, _, ⟨column, under, rfl⟩, rfl, rfl⟩
    omega
  · intro inside
    exact ⟨first, ⟨first - rows.low, by omega, by omega⟩, second,
      ⟨second - max columns.low first, by omega, by omega⟩, rfl, rfl⟩

theorem allBetween_iff {low high : Nat} {test : Nat → Bool} :
    allBetween low high test = true ↔
      ∀ number, low ≤ number → number ≤ high → test number = true := by
  rw [allBetween, Nat.all_eq_finRange_all]
  simp only [List.all_eq_true, List.mem_finRange, true_implies, Fin.forall_iff]
  constructor
  · intro each number least most
    have found := each (number - low) (by omega)
    rwa [Nat.add_sub_cancel' least] at found
  · intro each offset inside
    exact each (low + offset) (by omega) (by omega)

/-- A look at all pairs of two ranges sees those that they select. -/
theorem allSelected_iff {rows columns : KindRange} {test : Nat → Nat → Bool} :
    allSelected rows columns test = true ↔
      ∀ pair ∈ selection rows columns, test pair.1 pair.2 = true := by
  simp only [allSelected, allBetween_iff, Prod.forall, mem_selection_iff]
  constructor
  · intro each first second inside
    exact each first (by omega) (by omega) second (by omega) (by omega)
  · intro each first least most second above below
    exact each first second (by omega)

/-! ## Complete tables -/

/-- Every pair of kinds has coefficients. -/
def Full (table : PairTable) : Prop :=
  ∀ first second, 1 ≤ first → first ≤ table.kinds → 1 ≤ second → second ≤ table.kinds →
    table.isConfigured first second = true

/-- The look at the upper half of a square decides about all pairs. -/
theorem isComplete_iff {table : PairTable} : table.isComplete = true ↔ table.Full := by
  simp only [isComplete, allSelected_iff, Prod.forall, mem_selection_iff]
  constructor
  · intro upper first second firstLeast firstMost secondLeast secondMost
    rcases Nat.le_total first second with ordered | crossed
    · exact upper first second ⟨⟨firstLeast, firstMost⟩, ⟨secondLeast, secondMost⟩, ordered⟩
    · rw [isConfigured_comm]
      exact upper second first ⟨⟨secondLeast, secondMost⟩, ⟨firstLeast, firstMost⟩, crossed⟩
  · intro full first second inside
    exact full first second inside.1.1 inside.1.2 inside.2.1.1 inside.2.1.2

/-- In a full table exactly the kinds that there are have coefficients. -/
theorem Full.isConfigured_iff {table : PairTable} (full : table.Full) {first second : Nat} :
    table.isConfigured first second = true ↔
      (1 ≤ first ∧ first ≤ table.kinds) ∧ 1 ≤ second ∧ second ≤ table.kinds := by
  constructor
  · exact inside_of_isConfigured
  · intro inside
    exact full first second inside.1.1 inside.1.2 inside.2.1 inside.2.2

/-- In a full table even one more than the number of kinds is a word: with the
largest word of kinds there is a single flag. -/
theorem Full.succ_kinds_lt {table : PairTable} (full : table.Full) (words : table.WordSquare) :
    table.kinds + 1 < UInt64.size := by
  refine Decidable.byContradiction fun most => ?_
  have largest : table.kinds = UInt64.size - 1 := by
    have below : table.kinds < UInt64.size := table.kindWord.toNat_lt
    omega
  have single : table.flags.size = 1 := by
    rw [words, UInt64.toNat_mul]
    change table.kinds * table.kinds % 2 ^ 64 = 1
    rw [largest]
    rfl
  have several : 2 ≤ table.kinds := by
    rw [largest]
    decide
  have given := full 1 2 (by omega) (by omega) (by omega) several
  have beyond : table.flags.size ≤ table.place 1 2 := by simp [single, place, UInt64.size]
  simp [isConfigured, Array.getD_eq_getD_getElem?, Array.getElem?_eq_none beyond] at given

/-! ## Growth -/

/-- A table with the same kinds and flags in which every pair of the other one
has coefficients. -/
structure Grows (before after : PairTable) : Prop where
  kinds : after.kinds = before.kinds
  size : after.flags.size = before.flags.size
  configured : ∀ first second, before.isConfigured first second = true →
    after.isConfigured first second = true

namespace Grows

variable {before between after : PairTable}

theorem refl (table : PairTable) : table.Grows table := ⟨rfl, rfl, fun _ _ given => given⟩

theorem trans (first : before.Grows between) (second : between.Grows after) :
    before.Grows after :=
  ⟨second.kinds.trans first.kinds, second.size.trans first.size,
    fun kind other given => second.configured kind other (first.configured kind other given)⟩

theorem square (grows : before.Grows after) (square : before.Square) : after.Square where
  size := by rw [grows.size, grows.kinds, square.size]
  bound := grows.kinds ▸ square.bound

theorem wordSquare (grows : before.Grows after) (words : before.WordSquare) :
    after.WordSquare := by
  have kinds : after.kindWord = before.kindWord := UInt64.toNat_inj.mp grows.kinds
  rw [WordSquare, grows.size, kinds, words]

theorem full (grows : before.Grows after) (full : before.Full) : after.Full := by
  intro first second
  rw [grows.kinds]
  intro firstLeast firstMost secondLeast secondMost
  exact grows.configured first second
    (full first second firstLeast firstMost secondLeast secondMost)

end Grows

theorem grows_configure (table : PairTable) (pair : Nat × Nat) :
    table.Grows (table.configure pair) where
  kinds := rfl
  size := by simp [configure]
  configured first second given := by
    simp only [isConfigured, configure, kinds, place, Bool.and_eq_true,
      Array.getD_eq_getD_getElem?, Array.getElem?_setIfInBounds] at given ⊢
    refine ⟨given.1, ?_⟩
    have flag := given.2
    split
    · split
      · rfl
      · rename_i outside
        simp_all
    · exact flag

theorem grows_foldl_configure (table : PairTable) (pairs : List (Nat × Nat)) :
    table.Grows (pairs.foldl configure table) := by
  induction pairs generalizing table with
  | nil => exact .refl table
  | cons pair later ih => exact (table.grows_configure pair).trans (ih _)

/-! ## Giving coefficients -/

/-- Two ranges select a pair unless all rows lie above all columns. -/
theorem selection_eq_nil_iff {rows columns : KindRange} {kinds : Nat} (within : rows.Within kinds)
    (other : columns.Within kinds) : selection rows columns = [] ↔ columns.high < rows.low := by
  have rowOrder := within.2.2
  have columnOrder := other.2.2
  rw [List.eq_nil_iff_forall_not_mem]
  constructor
  · intro none
    have absent := none (rows.low, columns.high)
    rw [mem_selection_iff] at absent
    omega
  · intro apart pair member
    rcases pair with ⟨first, second⟩
    rw [mem_selection_iff] at member
    omega

theorem inside_of_mem_selection {rows columns : KindRange} {kinds : Nat}
    (within : rows.Within kinds) (other : columns.Within kinds) {entry : Nat × Nat}
    (listed : entry ∈ selection rows columns) :
    1 ≤ entry.1 ∧ entry.1 ≤ entry.2 ∧ entry.2 ≤ kinds := by
  have bounds := mem_selection_iff.mp listed
  have least := within.1
  have most := other.2.1
  omega

/-- The table has a flag at the place of every pair that two ranges select. -/
def HasFlags (table : PairTable) (rows columns : KindRange) : Prop :=
  ∀ pair ∈ selection rows columns, table.place pair.1 pair.2 < table.flags.size

theorem Square.hasFlags {table : PairTable} (square : table.Square) {rows columns : KindRange}
    (within : rows.Within table.kinds) (other : columns.Within table.kinds) :
    table.HasFlags rows columns := by
  intro pair listed
  have inside := inside_of_mem_selection within other listed
  exact place_lt square inside.1 inside.2.1 inside.2.2

theorem allSelected_place_iff {table : PairTable} {rows columns : KindRange} :
    (allSelected rows columns fun low high => decide (table.place low high < table.flags.size)) =
      true ↔ table.HasFlags rows columns := by
  simp only [allSelected_iff, decide_eq_true_eq, HasFlags]

/-- With a square table, giving coefficients is to mark the selected pairs, and
to refuse afterwards if there were none. -/
theorem assign_eq (table : PairTable) (square : table.Square) (rows columns : String) :
    (table.assign rows columns : Except (Fault α) (Nat × PairTable)) = (do
      let first ← KindRange.ofText rows table.kinds
      let second ← KindRange.ofText columns table.kinds
      let marked := (selection first second).foldl configure table
      if (selection first second).length = 0 then .error (.setup (.noPairs rows columns))
      else .ok ((selection first second).length, marked)) := by
  unfold assign
  cases parsed : (KindRange.ofText rows table.kinds : Except (Fault α) KindRange) with
  | error fault => rfl
  | ok first =>
      cases other : (KindRange.ofText columns table.kinds : Except (Fault α) KindRange) with
      | error fault => rfl
      | ok second =>
          have rowsWithin := KindRange.within_of_ofText parsed
          have columnsWithin := KindRange.within_of_ofText other
          have none := selection_eq_nil_iff rowsWithin columnsWithin
          have flags := allSelected_place_iff.mpr (square.hasFlags rowsWithin columnsWithin)
          simp only [bind, Except.bind, List.length_eq_zero_iff, none, flags, Bool.not_true]
          rfl

/-- Giving coefficients is accepted for two ranges that select a pair, if the
table has the flags of all pairs that they select. -/
theorem assign_accepted_iff {table : PairTable} {rows columns : String} :
    (∃ result, (table.assign rows columns : Except (Fault α) _) = .ok result) ↔
      ∃ first second,
        (KindRange.ofText rows table.kinds : Except (Fault α) KindRange) = .ok first ∧
        (KindRange.ofText columns table.kinds : Except (Fault α) KindRange) = .ok second ∧
        selection first second ≠ [] ∧ table.HasFlags first second := by
  constructor
  · intro accepted
    rcases accepted with ⟨result, accepted⟩
    rcases bind_eq_ok_iff.mp accepted with ⟨first, parsed, rest⟩
    rcases bind_eq_ok_iff.mp rest with ⟨second, other, marked⟩
    have none := selection_eq_nil_iff (KindRange.within_of_ofText parsed)
      (KindRange.within_of_ofText other)
    refine ⟨first, second, parsed, other, ?_⟩
    rw [ne_eq, none, ← allSelected_place_iff]
    split at marked
    case isTrue => cases marked
    case isFalse crossing =>
      split at marked
      case isTrue => cases marked
      case isFalse found => exact ⟨crossing, by simpa using found⟩
  · intro found
    rcases found with ⟨first, second, parsed, other, some, flags⟩
    rw [ne_eq, selection_eq_nil_iff (KindRange.within_of_ofText parsed)
      (KindRange.within_of_ofText other)] at some
    rw [← allSelected_place_iff] at flags
    exact ⟨_, by simp only [assign, parsed, other, bind, Except.bind, if_neg some, flags]; rfl⟩

/-- Coefficients are never taken back. -/
theorem grows_assign {table after : PairTable} {rows columns : String} {count : Nat}
    (accepted : (table.assign rows columns : Except (Fault α) _) = .ok (count, after)) :
    table.Grows after := by
  rcases bind_eq_ok_iff.mp accepted with ⟨first, -, rest⟩
  rcases bind_eq_ok_iff.mp rest with ⟨second, -, marked⟩
  split at marked
  · cases marked
  · split at marked
    · cases marked
    · have result : _ = after := congrArg Prod.snd (Except.ok.inj marked)
      rw [← result]
      exact grows_foldl_configure ..

end PairTable

end GranularBonds

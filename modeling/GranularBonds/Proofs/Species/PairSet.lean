import Mathlib
import GranularBonds.Proofs.Species.PairTable

/-!
# Pair tables as sets

A pair table stands for the set of the unordered pairs of kinds that have
coefficients.  Its flags are read from the upper half of a square in which no two
pairs have the same place, so that to mark a pair is to put it into the set.  Main
statement: in a table that passes its check, giving coefficients adds the pairs
that the two ranges select, each in the order of its kinds, and answers how many
these are.
-/

namespace GranularBonds

/-- The pairs of a kind of one range and a kind of another that is not below
it. -/
def KindRange.pairsWith (rows columns : KindRange) : Finset (Sym2 Nat) :=
  ((Finset.Icc rows.low rows.high ×ˢ Finset.Icc columns.low columns.high).filter
    fun pair => pair.1 ≤ pair.2).image fun pair => s(pair.1, pair.2)

theorem KindRange.mem_pairsWith_iff {rows columns : KindRange} {pair : Sym2 Nat} :
    pair ∈ rows.pairsWith columns ↔
      ∃ first second, (rows.low ≤ first ∧ first ≤ rows.high) ∧
        (columns.low ≤ second ∧ second ≤ columns.high) ∧ first ≤ second ∧
          pair = s(first, second) := by
  simp only [pairsWith, Finset.mem_image, Finset.mem_filter, Finset.mem_product, Finset.mem_Icc,
    Prod.exists]
  constructor
  · intro found
    rcases found with ⟨first, second, ⟨⟨row, column⟩, ordered⟩, rfl⟩
    exact ⟨first, second, row, column, ordered, rfl⟩
  · intro found
    rcases found with ⟨first, second, row, column, ordered, rfl⟩
    exact ⟨first, second, ⟨⟨row, column⟩, ordered⟩, rfl⟩

/-- A text writes a range, in a run with the given number of kinds. -/
def KindRange.WrittenBy (α : Type) (kinds : Nat) (text : String) (range : KindRange) : Prop :=
  ofText text kinds = (.ok range : Except (Fault α) KindRange)

theorem KindRange.WrittenBy.unique {α : Type} {kinds : Nat} {text : String}
    {range other : KindRange} (first : WrittenBy α kinds text range)
    (second : WrittenBy α kinds text other) : range = other :=
  Except.ok.inj (Eq.trans first.symm second)

theorem KindRange.ofText_of_not_written {α : Type} {kinds : Nat} {text : String}
    (absent : ¬∃ range, WrittenBy α kinds text range) :
    ofText text kinds = (.error (.kindRange text kinds) : Except (Fault α) KindRange) := by
  cases parsed : (ofText text kinds : Except (Fault α) KindRange) with
  | ok range => exact absurd ⟨range, parsed⟩ absent
  | error fault =>
      unfold ofText at parsed
      split at parsed
      · split at parsed
        · cases parsed
        · rw [← Except.error.inj parsed]
      · rw [← Except.error.inj parsed]

namespace PairTable

/-! ## The set of a table -/

/-- The pairs of kinds that have coefficients. -/
def pairs (table : PairTable) : Set (Sym2 Nat) :=
  Sym2.fromRel (r := fun first second => table.isConfigured first second = true)
    ⟨fun first second given => by rwa [isConfigured_comm]⟩

@[simp] theorem mem_pairs_iff {table : PairTable} {first second : Nat} :
    s(first, second) ∈ table.pairs ↔ table.isConfigured first second = true :=
  Sym2.fromRel_prop

theorem isConfigured_iff_of_le {table : PairTable} {low high : Nat} (ordered : low ≤ high) :
    table.isConfigured low high = true ↔
      (1 ≤ low ∧ high ≤ table.kinds) ∧ table.flags.getD (table.place low high) false = true := by
  simp only [isConfigured, Nat.min_eq_left ordered, Nat.max_eq_right ordered, Bool.and_eq_true,
    decide_eq_true_eq]

/-- Two pairs with the same place are the same, if there are not too many kinds. -/
theorem eq_of_place_eq {table : PairTable} (bound : table.kinds < UInt32.size)
    {low high other above : Nat} (least : 1 ≤ low) (ordered : low ≤ high)
    (most : high ≤ table.kinds) (otherLeast : 1 ≤ other) (otherOrdered : other ≤ above)
    (otherMost : above ≤ table.kinds) (same : table.place low high = table.place other above) :
    low = other ∧ high = above := by
  have row : ∀ kind later, 1 ≤ kind → kind ≤ later → later ≤ table.kinds →
      table.place kind later / table.kinds = kind - 1 := by
    intro kind later first order last
    rw [place_eq bound first order last, Nat.mul_comm, Nat.mul_add_div (by omega),
      Nat.div_eq_of_lt (by omega), Nat.add_zero]
  have column : ∀ kind later, 1 ≤ kind → kind ≤ later → later ≤ table.kinds →
      table.place kind later % table.kinds = later - 1 := by
    intro kind later first order last
    rw [place_eq bound first order last, Nat.mul_comm, Nat.mul_add_mod,
      Nat.mod_eq_of_lt (by omega)]
  have rows := congrArg (· / table.kinds) same
  have columns := congrArg (· % table.kinds) same
  simp only [row low high least ordered most,
    row other above otherLeast otherOrdered otherMost] at rows
  simp only [column low high least ordered most,
    column other above otherLeast otherOrdered otherMost] at columns
  omega

/-- Marking a pair raises its flag and leaves the others. -/
theorem getD_flags_configure {table : PairTable} {low high : Nat}
    (inside : table.place low high < table.flags.size) (place : Nat) :
    (table.configure (low, high)).flags.getD place false = true ↔
      place = table.place low high ∨ table.flags.getD place false = true := by
  simp only [configure, Array.getD_eq_getD_getElem?, Array.getElem?_setIfInBounds]
  by_cases here : table.place low high = place
  · rw [if_pos here, if_pos inside]
    exact iff_of_true rfl (.inl here.symm)
  · rw [if_neg here, or_iff_right (Ne.symm here)]

/-- In a square table, to mark a pair is to put it into the set. -/
theorem pairs_configure {table : PairTable} (square : table.Square) {low high : Nat}
    (least : 1 ≤ low) (ordered : low ≤ high) (most : high ≤ table.kinds) :
    (table.configure (low, high)).pairs = insert s(low, high) table.pairs := by
  ext pair
  induction pair using Sym2.ind with
  | _ first second =>
  wlog sorted : first ≤ second generalizing first second
  · rw [Sym2.eq_swap]
    exact this second first (by omega)
  have same : s(first, second) = s(low, high) ↔ first = low ∧ second = high := by
    rw [Sym2.eq_iff]
    omega
  have flag := getD_flags_configure (place_lt square least ordered most) (table.place first second)
  rw [Set.mem_insert_iff, mem_pairs_iff, mem_pairs_iff, same, isConfigured_iff_of_le sorted,
    isConfigured_iff_of_le sorted]
  constructor
  · intro found
    rcases found with ⟨inside, raised⟩
    rcases flag.mp raised with here | before
    · exact .inl
        (eq_of_place_eq square.bound inside.1 sorted inside.2 least ordered most here)
    · exact .inr ⟨inside, before⟩
  · intro found
    rcases found with ⟨rfl, rfl⟩ | ⟨inside, before⟩
    · exact ⟨⟨least, most⟩, flag.mpr (.inl rfl)⟩
    · exact ⟨inside, flag.mpr (.inr before)⟩

/-- Marking pairs that have their places in a square table adds them to the set. -/
theorem pairs_foldl_configure {table : PairTable} (square : table.Square)
    {selected : List (Nat × Nat)}
    (inside : ∀ pair ∈ selected, 1 ≤ pair.1 ∧ pair.1 ≤ pair.2 ∧ pair.2 ≤ table.kinds) :
    (selected.foldl configure table).pairs =
      table.pairs ∪ {pair | ∃ entry ∈ selected, pair = s(entry.1, entry.2)} := by
  induction selected generalizing table with
  | nil => simp
  | cons entry later ih =>
      have here := (List.forall_mem_cons.mp inside).1
      have grows := table.grows_configure entry
      have next : ∀ pair ∈ later,
          1 ≤ pair.1 ∧ pair.1 ≤ pair.2 ∧ pair.2 ≤ (table.configure entry).kinds := by
        rw [grows.kinds]
        exact (List.forall_mem_cons.mp inside).2
      rw [List.foldl_cons, ih (grows.square square) next,
        pairs_configure square here.1 here.2.1 here.2.2]
      ext pair
      simp only [Set.mem_union, Set.mem_insert_iff, Set.mem_ofPred_eq, List.exists_mem_cons_iff]
      tauto

/-! ## Giving coefficients -/

theorem nodup_selection (rows columns : KindRange) : (selection rows columns).Nodup := by
  rw [selection, List.nodup_flatMap]
  constructor
  · intro first _
    exact (List.nodup_range' 1).map fun _ _ same => congrArg Prod.snd same
  · refine (List.nodup_range' 1).imp fun different entry here there => different ?_
    rcases List.mem_map.mp here with ⟨_, -, rfl⟩
    rcases List.mem_map.mp there with ⟨_, -, same⟩
    exact (congrArg Prod.fst same).symm

/-- A selection lists the pairs of its ranges. -/
theorem mem_pairsWith_iff_selection {rows columns : KindRange} {pair : Sym2 Nat} :
    pair ∈ rows.pairsWith columns ↔ ∃ entry ∈ selection rows columns, pair = s(entry.1, entry.2) := by
  rw [KindRange.mem_pairsWith_iff]
  constructor
  · intro found
    rcases found with ⟨first, second, row, column, ordered, same⟩
    exact ⟨(first, second), mem_selection_iff.mpr ⟨row, column, ordered⟩, same⟩
  · intro found
    rcases found with ⟨⟨first, second⟩, listed, same⟩
    rcases mem_selection_iff.mp listed with ⟨row, column, ordered⟩
    exact ⟨first, second, row, column, ordered, same⟩

/-- A selection lists every pair once. -/
theorem length_selection (rows columns : KindRange) :
    (selection rows columns).length = (rows.pairsWith columns).card := by
  have once : ((selection rows columns).map fun entry => s(entry.1, entry.2)).Nodup := by
    refine (nodup_selection rows columns).map_on ?_
    rintro ⟨first, second⟩ here ⟨other, above⟩ there same
    have ordered := (mem_selection_iff.mp here).2.2
    have otherOrdered := (mem_selection_iff.mp there).2.2
    rw [Sym2.eq_iff] at same
    rw [Prod.mk.injEq]
    omega
  have all : ((selection rows columns).map fun entry => s(entry.1, entry.2)).toFinset =
      rows.pairsWith columns := by
    ext pair
    rw [List.mem_toFinset, List.mem_map, mem_pairsWith_iff_selection]
    simp only [eq_comm]
  rw [← all, List.toFinset_card_of_nodup once, List.length_map]

/-- In a square table a selection is added to the set. -/
theorem pairs_mark {table : PairTable} (square : table.Square) {first second : KindRange}
    (within : first.Within table.kinds) (other : second.Within table.kinds) :
    ((selection first second).foldl configure table).pairs =
      table.pairs ∪ first.pairsWith second := by
  rw [pairs_foldl_configure square fun entry => inside_of_mem_selection within other]
  ext pair
  rw [Set.mem_union, Set.mem_union, Finset.mem_coe, mem_pairsWith_iff_selection]
  rfl

variable {α : Type}

/-- How coefficients are given to the pairs of two ranges: a call is refused for
the first text that is no range, or for ranges that select no pair, and otherwise
the selected pairs are marked and counted. -/
inductive Assigns (table : PairTable) (rows columns : String) :
    Except (Fault α) (Nat × PairTable) → Prop where
  | noRows : (¬∃ first, KindRange.WrittenBy α table.kinds rows first) →
      Assigns table rows columns (.error (.kindRange rows table.kinds))
  | noColumns : (¬∃ second, KindRange.WrittenBy α table.kinds columns second) →
      Assigns table rows columns (.error (.kindRange columns table.kinds))
  | noPairs (first second : KindRange) : KindRange.WrittenBy α table.kinds rows first →
      KindRange.WrittenBy α table.kinds columns second → first.pairsWith second = ∅ →
      Assigns table rows columns (.error (.setup (.noPairs rows columns)))
  | marked (first second : KindRange) : KindRange.WrittenBy α table.kinds rows first →
      KindRange.WrittenBy α table.kinds columns second → first.pairsWith second ≠ ∅ →
      Assigns table rows columns
        (.ok ((first.pairsWith second).card, (selection first second).foldl configure table))

theorem Square.assigns {table : PairTable} (square : table.Square) (rows columns : String) :
    table.Assigns rows columns (table.assign rows columns : Except (Fault α) _) := by
  rw [table.assign_eq square]
  by_cases parsed : ∃ first, KindRange.WrittenBy α table.kinds rows first
  · rcases parsed with ⟨first, parsed⟩
    by_cases other : ∃ second, KindRange.WrittenBy α table.kinds columns second
    · rcases other with ⟨second, other⟩
      rw [parsed, other]
      simp only [bind, Except.bind, length_selection, Finset.card_eq_zero]
      split
      case isTrue none => exact .noPairs first second parsed other none
      case isFalse some => exact .marked first second parsed other some
    · rw [parsed, KindRange.ofText_of_not_written other]
      exact .noColumns other
  · rw [KindRange.ofText_of_not_written parsed]
    exact .noRows parsed

/-- Giving coefficients to two ranges adds the pairs that they select to the set
of a table, and is refused when there are none. -/
structure AddsSelection (α : Type) (table : PairTable) (rows columns : String) : Prop where
  /-- No flag is asked for that is not there. -/
  inBounds : (table.assign rows columns : Except (Fault α) _) ≠ .error .outOfBounds
  places : ∀ first second, KindRange.WrittenBy α table.kinds rows first →
    KindRange.WrittenBy α table.kinds columns second →
      ∀ entry ∈ selection first second, table.place entry.1 entry.2 < table.flags.size
  accepted : ∀ first second, KindRange.WrittenBy α table.kinds rows first →
    KindRange.WrittenBy α table.kinds columns second → first.pairsWith second ≠ ∅ →
      ∃ after, table.assign rows columns =
          (.ok ((first.pairsWith second).card, after) : Except (Fault α) _) ∧
        after.pairs = table.pairs ∪ first.pairsWith second
  refused_iff : (∃ fault, (table.assign rows columns : Except (Fault α) _) = .error fault) ↔
    (¬∃ first, KindRange.WrittenBy α table.kinds rows first) ∨
    (¬∃ second, KindRange.WrittenBy α table.kinds columns second) ∨
    ∃ first second, KindRange.WrittenBy α table.kinds rows first ∧
      KindRange.WrittenBy α table.kinds columns second ∧ first.pairsWith second = ∅
  /-- A call that is refused for want of a pair has marked none. -/
  unmarked : ∀ first second, first.pairsWith second = ∅ →
    (selection first second).foldl configure table = table

theorem Square.addsSelection {table : PairTable} (square : table.Square) (rows columns : String) :
    table.AddsSelection α rows columns := by
  have assigns : table.Assigns rows columns (table.assign rows columns : Except (Fault α) _) :=
    square.assigns rows columns
  constructor
  case inBounds =>
    intro beyond
    rw [beyond] at assigns
    cases assigns
  case places =>
    intro first second parsed other
    exact square.hasFlags (KindRange.within_of_ofText parsed) (KindRange.within_of_ofText other)
  case accepted =>
    intro first second parsed other some
    generalize (table.assign rows columns : Except (Fault α) _) = answer at assigns ⊢
    cases assigns with
    | noRows absent => exact absurd ⟨first, parsed⟩ absent
    | noColumns absent => exact absurd ⟨second, other⟩ absent
    | noPairs low high parsedLow otherHigh none =>
        rw [parsedLow.unique parsed, otherHigh.unique other] at none
        exact absurd none some
    | marked low high parsedLow otherHigh _ =>
        rw [parsedLow.unique parsed, otherHigh.unique other]
        exact ⟨_, rfl, pairs_mark square (KindRange.within_of_ofText parsed)
          (KindRange.within_of_ofText other)⟩
  case refused_iff =>
    generalize (table.assign rows columns : Except (Fault α) _) = answer at assigns ⊢
    cases assigns with
    | noRows absent => exact iff_of_true ⟨_, rfl⟩ (.inl absent)
    | noColumns absent => exact iff_of_true ⟨_, rfl⟩ (.inr (.inl absent))
    | noPairs first second parsed other none =>
        exact iff_of_true ⟨_, rfl⟩ (.inr (.inr ⟨first, second, parsed, other, none⟩))
    | marked first second parsed other some =>
        refine iff_of_false nofun fun refused => ?_
        rcases refused with absent | absent | ⟨low, high, parsedLow, otherHigh, none⟩
        · exact absent ⟨first, parsed⟩
        · exact absent ⟨second, other⟩
        · rw [parsedLow.unique parsed, otherHigh.unique other] at none
          exact some none
  case unmarked =>
    intro first second none
    have empty : selection first second = [] := by
      rw [← List.length_eq_zero_iff, length_selection, none, Finset.card_empty]
    rw [empty, List.foldl_nil]

/-! ## Runs -/

variable (α) in
/-- The table after a call with the texts of two ranges.  A refused call leaves
it as it is. -/
def assigned (table : PairTable) (call : String × String) : PairTable :=
  match (table.assign call.1 call.2 : Except (Fault α) (Nat × PairTable)) with
  | .ok (_, after) => after
  | .error _ => table

/-- The pairs that two texts select; none if one of them is no range. -/
def selectedBy (α : Type) (kinds : Nat) (call : String × String) : Set (Sym2 Nat) :=
  {pair | ∃ first second, KindRange.WrittenBy α kinds call.1 first ∧
    KindRange.WrittenBy α kinds call.2 second ∧ pair ∈ first.pairsWith second}

theorem selectedBy_of_written {kinds : Nat} {rows columns : String} {first second : KindRange}
    (parsed : KindRange.WrittenBy α kinds rows first)
    (other : KindRange.WrittenBy α kinds columns second) :
    selectedBy α kinds (rows, columns) = first.pairsWith second := by
  ext pair
  constructor
  · intro found
    rcases found with ⟨low, high, parsedLow, otherHigh, member⟩
    rwa [parsedLow.unique parsed, otherHigh.unique other] at member
  · intro member
    exact ⟨first, second, parsed, other, member⟩

theorem selectedBy_eq_empty {kinds : Nat} {call : String × String}
    (absent : ∀ first second, KindRange.WrittenBy α kinds call.1 first →
      ¬KindRange.WrittenBy α kinds call.2 second) : selectedBy α kinds call = ∅ := by
  apply Set.eq_empty_of_forall_notMem
  intro pair found
  rcases found with ⟨first, second, parsed, other, -⟩
  exact absent first second parsed other

theorem grows_assigned (table : PairTable) (call : String × String) :
    table.Grows (table.assigned α call) := by
  unfold assigned
  split
  case h_1 count after accepted => exact grows_assign accepted
  case h_2 => exact .refl table

/-- A call adds to the set what its texts select, be it refused or not. -/
theorem pairs_assigned {table : PairTable} (square : table.Square) (call : String × String) :
    (table.assigned α call).pairs = table.pairs ∪ selectedBy α table.kinds call := by
  have assigns : table.Assigns call.1 call.2 (table.assign call.1 call.2 : Except (Fault α) _) :=
    square.assigns call.1 call.2
  unfold assigned
  generalize (table.assign call.1 call.2 : Except (Fault α) _) = answer at assigns ⊢
  cases assigns with
  | noRows absent =>
      rw [selectedBy_eq_empty fun first _ parsed _ => absent ⟨first, parsed⟩, Set.union_empty]
  | noColumns absent =>
      rw [selectedBy_eq_empty fun _ second _ other => absent ⟨second, other⟩, Set.union_empty]
  | noPairs first second parsed other none =>
      rw [selectedBy_of_written parsed other, none, Finset.coe_empty, Set.union_empty]
  | marked first second parsed other _ =>
      rw [selectedBy_of_written parsed other]
      exact pairs_mark square (KindRange.within_of_ofText parsed) (KindRange.within_of_ofText other)

/-- A list of calls keeps a square table square, and adds to its set what each of
them selects. -/
theorem assigned_run {table : PairTable} (square : table.Square) (calls : List (String × String)) :
    (calls.foldl (assigned α) table).Square ∧
      (calls.foldl (assigned α) table).kinds = table.kinds ∧
      (calls.foldl (assigned α) table).pairs =
        table.pairs ∪ ⋃ call ∈ calls, selectedBy α table.kinds call := by
  induction calls generalizing table with
  | nil => simp [square]
  | cons call later ih =>
      have grows := table.grows_assigned (α := α) call
      obtain ⟨stillSquare, kinds, pairs⟩ := ih (grows.square square)
      rw [grows.kinds] at kinds pairs
      refine ⟨stillSquare, kinds, ?_⟩
      rw [List.foldl_cons, pairs, pairs_assigned square, Set.union_assoc]
      simp

/-- A pair table is a set of unordered pairs of kinds.  Take a table that passes
its check, and calls with any texts.  Afterwards the table passes its check, with
the same kinds and a flag for each of their pairs, and its set is the one at the
beginning with all that the calls selected.  The next call finds every flag that it
raises; it adds the pairs that its ranges select and answers how many they are; and
it is refused, with nothing marked, exactly when a text is no range or no pair is
selected.  The order of two kinds makes no difference, kinds that there are not have
no coefficients, and the table is complete when every two kinds have them. -/
theorem pairs_run {table : PairTable} (valid : (table.validate : Except (Fault α) Unit) = .ok ())
    (calls : List (String × String)) :
    let after := calls.foldl (assigned α) table
    (after.validate : Except (Fault α) Unit) = .ok () ∧ after.kinds = table.kinds ∧
      (∀ low high, 1 ≤ low → low ≤ high → high ≤ table.kinds →
        after.place low high < after.flags.size) ∧
      after.pairs = table.pairs ∪ ⋃ call ∈ calls, selectedBy α table.kinds call ∧
      (∀ rows columns, after.AddsSelection α rows columns) ∧
      (∀ first second, after.isConfigured first second = after.isConfigured second first ∧
        (after.isConfigured first second = true →
          (1 ≤ first ∧ first ≤ table.kinds) ∧ 1 ≤ second ∧ second ≤ table.kinds)) ∧
      (after.isComplete = true ↔ ∀ first second, 1 ≤ first → first ≤ table.kinds →
        1 ≤ second → second ≤ table.kinds → after.isConfigured first second = true) := by
  intro after
  obtain ⟨some, square⟩ := validate_eq_ok_iff.mp valid
  obtain ⟨stillSquare, kinds, pairs⟩ := assigned_run (α := α) square calls
  refine ⟨validate_eq_ok_iff.mpr ⟨?_, stillSquare⟩, kinds, ?_, pairs, stillSquare.addsSelection,
    ?_, ?_⟩
  · rw [kinds]
    exact some
  · intro low high least ordered most
    rw [← kinds] at most
    exact place_lt stillSquare least ordered most
  · intro first second
    refine ⟨after.isConfigured_comm first second, fun given => ?_⟩
    rw [← kinds]
    exact inside_of_isConfigured given
  · rw [← kinds]
    exact isComplete_iff

theorem validate_empty {kinds : UInt64} (some : 1 ≤ kinds.toNat)
    (bound : kinds.toNat < UInt32.size) :
    ((empty kinds).validate : Except (Fault α) Unit) = .ok () :=
  validate_eq_ok_iff.mpr ⟨some, (wordSquare_empty kinds).square_iff.mpr bound⟩

/-- Of two calls the second selects no pair; the table then lacks others, which a
third call adds. -/
theorem pairs_run_threeKinds :
    let table : PairTable := .empty 3
    let after := [("1", "2*3"), ("3", "1*2")].foldl (assigned Float) table
    (table.validate : Except (Fault Float) Unit) = .ok () ∧ s(2, 1) ∈ after.pairs ∧
      after.isComplete = false ∧
      ∃ next, after.assign "*" "*" = (.ok (6, next) : Except (Fault Float) _) := by
  intro table after
  have valid : (table.validate : Except (Fault Float) Unit) = .ok () :=
    validate_empty (by decide) (by decide)
  obtain ⟨-, kinds, -, pairs, adds, -, -⟩ := pairs_run valid [("1", "2*3"), ("3", "1*2")]
  have written : ∀ text range, ((KindRange.ofText text 3 : Except (Fault Float) _).toOption =
      some range) → KindRange.WrittenBy Float 3 text range :=
    fun text range parsed => eq_ok_of_toOption parsed
  have added : s(2, 1) ∈ selectedBy Float 3 ("1", "2*3") := by
    rw [selectedBy_of_written (written "1" ⟨1, 1⟩ (by decide +kernel))
      (written "2*3" ⟨2, 3⟩ (by decide +kernel))]
    decide
  refine ⟨valid, ?_, by decide +kernel, ?_⟩
  · rw [pairs]
    exact .inr (Set.mem_biUnion List.mem_cons_self added)
  · have all : KindRange.WrittenBy Float after.kinds "*" ⟨1, 3⟩ :=
      kinds ▸ written "*" ⟨1, 3⟩ (by decide +kernel)
    rcases (adds "*" "*").accepted _ _ all all (by decide) with ⟨next, accepted, -⟩
    exact ⟨next, accepted⟩

end PairTable

end GranularBonds

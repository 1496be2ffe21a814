import GranularBonds.Species.Range

/-!
# Pair tables

Which pairs of kinds have been given coefficients.  The flags form a square
that is read from its upper half; a table that was read from a checkpoint may
have fewer or more flags than its square.  Numbers and places of flags are words
of 64 bits: from 2 ^ 32 kinds on they wrap.  The check of a table does not.
-/

namespace GranularBonds

/-- Flags of the pairs of kinds. -/
structure PairTable where
  /-- Number of kinds, a word of 64 bits like every count in a checkpoint. -/
  kindWord : UInt64
  flags : Array Bool
  deriving DecidableEq

namespace PairTable

/-- Number of kinds. -/
def kinds (table : PairTable) : Nat := table.kindWord.toNat

/-- A table without coefficients.  Its number of flags is a product of words. -/
def empty (kinds : UInt64) : PairTable :=
  ⟨kinds, Array.replicate (kinds * kinds).toNat false⟩

/-- Place of the flag of a pair, its smaller kind first, as a word. -/
def place (table : PairTable) (low high : Nat) : Nat :=
  ((low - 1) * table.kinds + (high - 1)) % UInt64.size

/-- Whether a pair of kinds, in either order, has coefficients. -/
def isConfigured (table : PairTable) (first second : Nat) : Bool :=
  let low := min first second
  let high := max first second
  decide (1 ≤ low) && decide (high ≤ table.kinds)
    && table.flags.getD (table.place low high) false

theorem isConfigured_comm (table : PairTable) (first second : Nat) :
    table.isConfigured first second = table.isConfigured second first := by
  simp only [isConfigured, Nat.min_comm first second, Nat.max_comm first second]

/-- The pairs of two ranges whose first kind is not above the second. -/
def selection (rows columns : KindRange) : List (Nat × Nat) :=
  (List.range' rows.low (min rows.high columns.high + 1 - rows.low)).flatMap fun first =>
    let start := max columns.low first
    (List.range' start (columns.high + 1 - start)).map fun second => (first, second)

/-- Whether a test holds for all numbers from one to another.  The look ends at the
first that fails. -/
def allBetween (low high : Nat) (test : Nat → Bool) : Bool :=
  Nat.all (high + 1 - low) fun offset _ => test (low + offset)

/-- Whether a test holds for all pairs that two ranges select. -/
def allSelected (rows columns : KindRange) (test : Nat → Nat → Bool) : Bool :=
  allBetween rows.low (min rows.high columns.high) fun first =>
    allBetween (max columns.low first) columns.high (test first)

/-- Set the flag of a pair. -/
def configure (table : PairTable) (pair : Nat × Nat) : PairTable :=
  { table with flags := table.flags.setIfInBounds (table.place pair.1 pair.2) true }

/-- Give coefficients to the pairs of two ranges; the number of pairs goes
with the new table.  The flags of all of them must be there. -/
def assign {α : Type} (table : PairTable) (rows columns : String) :
    Except (Fault α) (Nat × PairTable) := do
  let first ← KindRange.ofText rows table.kinds
  let second ← KindRange.ofText columns table.kinds
  if second.high < first.low then
    .error (.setup (.noPairs rows columns))
  else if !allSelected first second
      fun low high => decide (table.place low high < table.flags.size) then
    .error .outOfBounds
  else
    let pairs := selection first second
    .ok (pairs.length, pairs.foldl configure table)

/-- The number of flags of a square table, if it is a word. -/
def squareSize? (table : PairTable) : Option Nat :=
  if table.kinds * table.kinds < UInt64.size then some (table.kinds * table.kinds) else none

/-- Refuse a table without kinds, or one whose flags are not a square. -/
def validate {α : Type} (table : PairTable) : Except (Fault α) Unit :=
  if table.kinds == 0 then .error (.setup .emptyTable)
  else if table.squareSize? ≠ some table.flags.size then
    .error (.setup (.tableSize table.kinds table.flags.size))
  else
    .ok ()

/-- Whether every pair of kinds has coefficients. -/
def isComplete (table : PairTable) : Bool :=
  allSelected ⟨1, table.kinds⟩ ⟨1, table.kinds⟩ table.isConfigured

end PairTable

end GranularBonds

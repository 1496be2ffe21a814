import GranularBonds.Contact.PairKey
import GranularBonds.Contact.Record

/-!
# Ledgers of contacts

The records of all pairs, in the order of their keys and at most one to a
key.  The order is part of the type, so two ledgers with the same records are
the same ledger.
-/

namespace GranularBonds

/-- Records of pairs by key. -/
structure Ledger (α : Type) where
  entries : List (PairKey × ContactRecord α)
  ordered : entries.Pairwise fun earlier later => earlier.1 < later.1

namespace Ledger

variable {α : Type}

/-- A ledger without records. -/
def empty : Ledger α := ⟨[], .nil⟩

/-- Put a record under its key in an ordered list. -/
def insertEntry (key : PairKey) (record : ContactRecord α) :
    List (PairKey × ContactRecord α) → List (PairKey × ContactRecord α)
  | [] => [(key, record)]
  | entry :: rest =>
      if key < entry.1 then (key, record) :: entry :: rest
      else if key = entry.1 then (key, record) :: rest
      else entry :: insertEntry key record rest

theorem mem_insertEntry {key : PairKey} {record : ContactRecord α}
    {entry : PairKey × ContactRecord α} {entries : List (PairKey × ContactRecord α)}
    (member : entry ∈ insertEntry key record entries) :
    entry = (key, record) ∨ entry ∈ entries := by
  induction entries with
  | nil => simpa [insertEntry] using member
  | cons head rest ih =>
      rw [insertEntry] at member
      split at member
      · simpa using member
      · split at member
        · rcases List.mem_cons.mp member with same | later
          · exact .inl same
          · exact .inr (List.mem_cons_of_mem _ later)
        · rcases List.mem_cons.mp member with same | later
          · exact .inr (same ▸ List.mem_cons_self)
          · exact (ih later).imp_right (List.mem_cons_of_mem _)

theorem ordered_insertEntry (key : PairKey) (record : ContactRecord α)
    {entries : List (PairKey × ContactRecord α)}
    (ordered : entries.Pairwise fun earlier later => earlier.1 < later.1) :
    (insertEntry key record entries).Pairwise fun earlier later => earlier.1 < later.1 := by
  induction entries with
  | nil => simp [insertEntry]
  | cons head rest ih =>
      have ⟨above, tail⟩ := List.pairwise_cons.mp ordered
      rw [insertEntry]
      split
      case isTrue before =>
        refine List.pairwise_cons.mpr ⟨fun entry member => ?_, ordered⟩
        rcases List.mem_cons.mp member with same | later
        · exact same ▸ before
        · exact PairKey.lt_trans before (above entry later)
      case isFalse notBefore =>
        split
        case isTrue same =>
          exact List.pairwise_cons.mpr ⟨fun entry member => same ▸ above entry member, tail⟩
        case isFalse different =>
          refine List.pairwise_cons.mpr ⟨fun entry member => ?_, ih tail⟩
          rcases mem_insertEntry member with same | earlier
          · exact same ▸ PairKey.lt_of_not_lt_of_ne notBefore different
          · exact above entry earlier

/-- Put a record under a key, in place of the one that is there. -/
def insert (ledger : Ledger α) (key : PairKey) (record : ContactRecord α) : Ledger α :=
  ⟨insertEntry key record ledger.entries, ordered_insertEntry key record ledger.ordered⟩

/-- The record under a key. -/
def get? (ledger : Ledger α) (key : PairKey) : Option (ContactRecord α) :=
  (ledger.entries.find? fun entry => entry.1 == key).map Prod.snd

/-- What a ledger holds after a record was put into it. -/
theorem get?_insert (ledger : Ledger α) (key other : PairKey) (record : ContactRecord α) :
    (ledger.insert key record).get? other =
      if key = other then some record else ledger.get? other := by
  obtain ⟨entries, ordered⟩ := ledger
  simp only [get?, insert]
  induction entries with
  | nil => by_cases same : key = other <;> simp [insertEntry, same]
  | cons head rest ih =>
      have ih := ih (List.pairwise_cons.mp ordered).2
      rw [insertEntry]
      split
      · by_cases same : key = other <;> simp [same]
      · split
        case isTrue here => by_cases same : key = other <;> simp [← here, same]
        case isFalse elsewhere =>
          by_cases same : head.1 = other
          · have different : key ≠ other := fun equal => elsewhere (equal.trans same.symm)
            simp [same, different]
          · simpa [same] using ih

@[simp] theorem get?_empty (key : PairKey) : (empty : Ledger α).get? key = none := rfl

/-- Number of records. -/
def size (ledger : Ledger α) : Nat := ledger.entries.length

/-- Whether there is no record. -/
def isEmpty (ledger : Ledger α) : Bool := ledger.entries.isEmpty

/-- Number of pairs whose bond holds. -/
def bondedCount (ledger : Ledger α) : Nat :=
  ledger.entries.countP fun entry => entry.2.isCohesive

/-- Number of pairs in contact. -/
def touchingCount (ledger : Ledger α) : Nat :=
  ledger.entries.countP fun entry => entry.2.touching

/-- Number of bonds that tore, over all pairs. -/
def tensileBreaks (ledger : Ledger α) : Nat :=
  ledger.entries.foldr (fun entry count => entry.2.tensileBreaks + count) 0

/-- Number of bonds that were sheared off, over all pairs. -/
def shearBreaks (ledger : Ledger α) : Nat :=
  ledger.entries.foldr (fun entry count => entry.2.shearBreaks + count) 0

variable [Scalar α]

/-- The record under a key, or that of a pair without a past. -/
def getOrFresh (ledger : Ledger α) (key : PairKey) : ContactRecord α :=
  (ledger.get? key).getD .fresh

/-- What is left of a record when its pair is no longer listed: all of it for
a listed pair, the bond alone for a bonded one, and otherwise nothing. -/
def retained? (listed : List PairKey) (entry : PairKey × ContactRecord α) :
    Option (PairKey × ContactRecord α) :=
  if listed.contains entry.1 then some entry
  else if entry.2.isCohesive then some (entry.1, entry.2.apart)
  else none

theorem key_of_retained? {listed : List PairKey} {entry kept : PairKey × ContactRecord α}
    (same : retained? listed entry = some kept) : kept.1 = entry.1 := by
  unfold retained? at same
  split at same
  · exact (Option.some.inj same) ▸ rfl
  · split at same
    · exact (Option.some.inj same) ▸ rfl
    · nomatch same

/-- Forget the pairs that are not listed, except for their bonds. -/
def retain (ledger : Ledger α) (listed : List PairKey) : Ledger α where
  entries := ledger.entries.filterMap (retained? listed)
  ordered := by
    refine ledger.ordered.filterMap (retained? listed) fun earlier later before => ?_
    intro keptEarlier sameEarlier keptLater sameLater
    rw [key_of_retained? sameEarlier, key_of_retained? sameLater]
    exact before

end Ledger

end GranularBonds

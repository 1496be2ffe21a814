import GranularBonds.Contact.Ledger

/-!
# Views of a ledger

A ledger is known by what it returns for every key.  This module states what
pruning does to that view, and that nothing else tells two ledgers apart.
-/

namespace GranularBonds.Ledger

variable {α : Type}

/-- The entries of a ledger are its keys with what it returns for them. -/
theorem mem_entries_iff (ledger : Ledger α) (key : PairKey) (record : ContactRecord α) :
    (key, record) ∈ ledger.entries ↔ ledger.get? key = some record := by
  rcases ledger with ⟨entries, ordered⟩
  simp only [get?]
  induction entries with
  | nil => simp
  | cons head rest ih =>
      have above := (List.pairwise_cons.mp ordered).1
      have tail := (List.pairwise_cons.mp ordered).2
      by_cases same : head.1 = key
      · have later : (key, record) ∉ rest := by
          intro member
          have before : head.1 < key := above (key, record) member
          exact PairKey.lt_irrefl key (same ▸ before)
        simp only [List.mem_cons, later, or_false, List.find?_cons, same, beq_self_eq_true,
          Option.map_some, Option.some.injEq]
        constructor
        · intro equal
          exact (congrArg Prod.snd equal).symm
        · intro equal
          exact Prod.ext same.symm equal.symm
      · have different : (key, record) ≠ head := by
          intro equal
          apply same
          rw [← equal]
        simpa [different, same] using ih tail

theorem nodup_entries (ledger : Ledger α) : ledger.entries.Nodup := by
  apply ledger.ordered.imp
  intro earlier later before equal
  apply PairKey.lt_irrefl later.1
  rwa [equal] at before

/-- Two ledgers that return the same for every key are the same. -/
theorem ext_get? {left right : Ledger α} (same : ∀ key, left.get? key = right.get? key) :
    left = right := by
  have members : ∀ entry, entry ∈ left.entries ↔ entry ∈ right.entries := by
    intro entry
    rcases entry with ⟨key, record⟩
    rw [mem_entries_iff, mem_entries_iff, same]
  have permuted : left.entries.Perm right.entries :=
    (List.perm_ext_iff_of_nodup left.nodup_entries right.nodup_entries).mpr members
  rcases left with ⟨entries, ordered⟩
  rcases right with ⟨others, otherOrdered⟩
  have equal : entries = others :=
    permuted.eq_of_pairwise
      (fun first second _ _ before after =>
        absurd (PairKey.lt_trans before after) (PairKey.lt_irrefl first.1))
      ordered otherOrdered
  subst equal
  rfl

variable [Scalar α]

/-- What is left of a pair's record after pruning. -/
theorem get?_retain (ledger : Ledger α) (listed : List PairKey) (key : PairKey) :
    (ledger.retain listed).get? key =
      if key ∈ listed then ledger.get? key
      else (ledger.get? key).bind fun record =>
        if record.isCohesive then some record.apart else none := by
  ext kept
  rw [← mem_entries_iff]
  simp only [retain, List.mem_filterMap]
  constructor
  · intro found
    rcases found with ⟨⟨other, record⟩, member, same⟩
    have equal : key = other := key_of_retained? same
    subst equal
    rw [mem_entries_iff] at member
    rw [member]
    simp only [retained?, List.contains_iff_mem] at same
    split at same
    case isTrue listed => simpa [listed] using same
    case isFalse unlisted =>
      split at same
      case isTrue cohesive => simpa [unlisted, cohesive] using same
      case isFalse => cases same
  · intro same
    split at same
    case isTrue listed =>
      exact ⟨(key, kept), (mem_entries_iff ..).mpr same, by simp [retained?, listed]⟩
    case isFalse unlisted =>
      rcases Option.bind_eq_some_iff.mp same with ⟨record, present, same⟩
      refine ⟨(key, record), (mem_entries_iff ..).mpr present, ?_⟩
      simp only [retained?, List.contains_iff_mem, unlisted, if_false]
      split at same
      case isTrue cohesive => simpa [cohesive] using same
      case isFalse => cases same

theorem getOrFresh_of_get? {ledger : Ledger α} {key : PairKey} {record : ContactRecord α}
    (present : ledger.get? key = some record) : ledger.getOrFresh key = record := by
  simp [getOrFresh, present]

end GranularBonds.Ledger

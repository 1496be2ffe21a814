import Mathlib.Data.Sym.Sym2
import GranularBonds.Proofs.Neighbors

/-!
# Neighbor lists as groups of pairs

A neighbor list files each pair that it is given under the pair's first member.
No particle has two entries, so a list is known by the order of its entries and
by the neighbors of each particle, and both follow from the pairs given.  Main
statement: pairs that are added to a list are listed as often as they were given,
the entries stand in the order in which their particles were first seen, each
entry keeps its pairs in the order in which they came, and the keys are the
unordered pairs of tags.
-/

namespace GranularBonds

variable {α : Type}

/-- The key of two tags is the one that is in order and names these two. -/
theorem PairKey.eq_ofTags_iff {key : PairKey} {first second : Tag} :
    key = ofTags first second ↔
      key.low ≤ key.high ∧ s(key.low, key.high) = s(first, second) := by
  rcases key with ⟨⟨low⟩, ⟨high⟩⟩
  rcases first with ⟨a⟩
  rcases second with ⟨b⟩
  simp only [ofTags, oriented, Tag.le_iff, Sym2.eq_iff, Tag.mk.injEq]
  split <;> simp only [PairKey.mk.injEq, Tag.mk.injEq] <;> omega

/-! ## First occurrences -/

section FirstOccurrences

variable {elements : List Nat}

theorem eraseDups_of_nodup (once : elements.Nodup) : elements.eraseDups = elements := by
  induction elements with
  | nil => rfl
  | cons element rest ih =>
      obtain ⟨fresh, later⟩ := List.nodup_cons.mp once
      have kept : rest.filter (fun other => !other == element) = rest := by
        refine List.filter_eq_self.mpr fun other member => ?_
        have different : other ≠ element := fun same => fresh (same ▸ member)
        simpa using different
      rw [List.eraseDups_cons, kept, ih later]

/-- An element that is noted when it is first seen is the first of what comes
after those noted before. -/
theorem eraseDups_note_append (noted later : List Nat) (element : Nat) :
    ((if element ∈ noted then noted else noted ++ [element]) ++ later).eraseDups =
      (noted ++ element :: later).eraseDups := by
  split
  case isTrue known => simp [List.eraseDups_append, List.cons_removeAll, known]
  case isFalse => rw [List.append_assoc, List.singleton_append]

end FirstOccurrences

namespace NeighborList

/-! ## Entries as a table -/

/-- The particles that have an entry, in the order of the entries. -/
def owners (list : NeighborList) : List Nat := list.entries.map Prod.fst

/-- The neighbors in a particle's entry, none if there is no entry. -/
def neighbors (list : NeighborList) (index : Nat) : List Nat :=
  (list.entries.lookup index).getD []

theorem owners_cons (entry : Nat × List Nat) (rest : List (Nat × List Nat)) :
    owners ⟨entry :: rest⟩ = entry.1 :: owners ⟨rest⟩ :=
  rfl

theorem neighbors_cons (entry : Nat × List Nat) (rest : List (Nat × List Nat)) (index : Nat) :
    neighbors ⟨entry :: rest⟩ index =
      if index = entry.1 then entry.2 else neighbors ⟨rest⟩ index := by
  rw [neighbors, List.lookup_cons]
  by_cases here : index = entry.1
  · rw [if_pos here, beq_iff_eq.mpr here, Option.getD_some]
  · rw [if_neg here, beq_false_of_ne here, neighbors]

theorem pairs_cons (entry : Nat × List Nat) (rest : List (Nat × List Nat)) :
    pairs ⟨entry :: rest⟩ = entry.2.map (entry.1, ·) ++ pairs ⟨rest⟩ :=
  List.flatMap_cons

theorem neighbors_of_not_mem {list : NeighborList} {index : Nat} (absent : index ∉ list.owners) :
    list.neighbors index = [] := by
  rcases list with ⟨entries⟩
  induction entries with
  | nil => rfl
  | cons entry rest ih =>
      rw [owners_cons, List.mem_cons, not_or] at absent
      rw [neighbors_cons, if_neg absent.1, ih absent.2]

/-! ## One entry to a particle -/

/-- Where no particle has two entries, the entries are the particles with their
neighbors. -/
theorem entries_eq {list : NeighborList} (distinct : list.owners.Nodup) :
    list.entries = list.owners.map fun index => (index, list.neighbors index) := by
  rcases list with ⟨entries⟩
  induction entries with
  | nil => rfl
  | cons entry rest ih =>
      obtain ⟨fresh, later⟩ := List.nodup_cons.mp distinct
      have elsewhere : ∀ index ∈ owners ⟨rest⟩,
          (index, neighbors ⟨entry :: rest⟩ index) = (index, neighbors ⟨rest⟩ index) := by
        intro index member
        have different : index ≠ entry.1 := fun same => fresh (same ▸ member)
        rw [neighbors_cons, if_neg different]
      rw [owners_cons, List.map_cons, List.map_congr_left elsewhere, ← ih later,
        neighbors_cons, if_pos rfl]

theorem pairs_eq {list : NeighborList} (distinct : list.owners.Nodup) :
    list.pairs = list.owners.flatMap fun index => (list.neighbors index).map (index, ·) := by
  rw [pairs, entries_eq distinct, List.flatMap_map]

/-- Where no particle has two entries, the pairs of a particle are those of its
entry. -/
theorem filter_pairs {list : NeighborList} (distinct : list.owners.Nodup) (index : Nat) :
    list.pairs.filter (fun pair => pair.1 == index) = (list.neighbors index).map (index, ·) := by
  rcases list with ⟨entries⟩
  induction entries with
  | nil => rfl
  | cons entry rest ih =>
      obtain ⟨fresh, later⟩ := List.nodup_cons.mp distinct
      rw [pairs_cons, List.filter_append, ih later, neighbors_cons]
      by_cases here : index = entry.1
      · have all : (entry.2.map (entry.1, ·)).filter (fun pair => pair.1 == index) =
            entry.2.map (entry.1, ·) := List.filter_eq_self.mpr (by simp [here])
        have absent : index ∉ owners ⟨rest⟩ := here ▸ fresh
        rw [all, neighbors_of_not_mem absent, if_pos here, List.map_nil, List.append_nil, here]
      · have none : (entry.2.map (entry.1, ·)).filter (fun pair => pair.1 == index) = [] :=
          List.filter_eq_nil_iff.mpr (by simp [Ne.symm here])
        rw [none, if_neg here, List.nil_append]

/-! ## One more pair -/

/-- A particle gets an entry, behind the others, when its first pair comes. -/
theorem owners_push (list : NeighborList) (first second : Nat) :
    (list.push first second).owners =
      if first ∈ list.owners then list.owners else list.owners ++ [first] := by
  rcases list with ⟨entries⟩
  induction entries with
  | nil => rfl
  | cons entry rest ih =>
      rw [push] at ih ⊢
      rw [pushEntry, owners_cons entry rest]
      by_cases here : entry.1 = first
      · rw [if_pos here, if_pos (here ▸ List.mem_cons_self), owners_cons]
      · rw [if_neg here, owners_cons, ih]
        simp only [List.mem_cons, Ne.symm here, false_or]
        split <;> rfl

/-- No particle gets a second entry. -/
theorem nodup_owners_push {list : NeighborList} (distinct : list.owners.Nodup)
    (first second : Nat) : (list.push first second).owners.Nodup := by
  rw [owners_push]
  split
  case isTrue => exact distinct
  case isFalse absent =>
    rw [← List.concat_eq_append]
    exact distinct.concat absent

/-- The particle that comes first gets the other one as its last neighbor, and
nothing else changes. -/
theorem neighbors_push (list : NeighborList) (first second index : Nat) :
    (list.push first second).neighbors index =
      list.neighbors index ++ if index = first then [second] else [] := by
  rcases list with ⟨entries⟩
  induction entries with
  | nil => exact neighbors_cons (first, [second]) [] index
  | cons entry rest ih =>
      rw [push] at ih ⊢
      rw [pushEntry, neighbors_cons entry rest]
      by_cases here : entry.1 = first
      · rw [if_pos here, neighbors_cons, ← here]
        split
        · rfl
        · exact (List.append_nil _).symm
      · rw [if_neg here, neighbors_cons, ih]
        by_cases own : index = entry.1
        · have other : index ≠ first := own ▸ here
          rw [if_pos own, if_pos own, if_neg other, List.append_nil]
        · rw [if_neg own, if_neg own]

/-- The pairs are those from before and the new one. -/
theorem pairs_push_perm (list : NeighborList) (first second : Nat) :
    (list.push first second).pairs.Perm (list.pairs ++ [(first, second)]) := by
  rcases list with ⟨entries⟩
  induction entries with
  | nil => exact .rfl
  | cons entry rest ih =>
      rw [push] at ih ⊢
      rw [pushEntry, pairs_cons entry rest, List.append_assoc]
      by_cases here : entry.1 = first
      · rw [if_pos here, pairs_cons, List.map_append, List.append_assoc, here]
        exact List.perm_append_comm.append_left _
      · rw [if_neg here, pairs_cons]
        exact ih.append_left _

theorem pairCount_push (list : NeighborList) (first second : Nat) :
    (list.push first second).pairCount = list.pairCount + 1 := by
  rw [← length_pairs, (pairs_push_perm list first second).length_eq, List.length_append,
    length_pairs, List.length_singleton]

/-! ## Any number of pairs -/

/-- The list with more pairs, added one after the other. -/
def pushAll (list : NeighborList) (given : List (Nat × Nat)) : NeighborList :=
  given.foldl (fun list pair => list.push pair.1 pair.2) list

/-- Second members of the pairs with a given first member, in their order. -/
def partners (pairs : List (Nat × Nat)) (index : Nat) : List Nat :=
  (pairs.filter fun pair => pair.1 == index).map Prod.snd

theorem partners_cons (pair : Nat × Nat) (later : List (Nat × Nat)) (index : Nat) :
    partners (pair :: later) index =
      (if index = pair.1 then [pair.2] else []) ++ partners later index := by
  by_cases same : pair.1 = index
  · simp [partners, same]
  · simp [partners, same, Ne.symm same]

/-- The pairs with a given first member are that member with its partners. -/
theorem filter_eq_map_partners (pairs : List (Nat × Nat)) (index : Nat) :
    pairs.filter (fun pair => pair.1 == index) = (partners pairs index).map (index, ·) := by
  induction pairs with
  | nil => rfl
  | cons pair later ih =>
      rw [partners_cons, List.map_append, ← ih]
      by_cases same : pair.1 = index
      · subst same
        simp
      · simp [same, Ne.symm same]

theorem ofPairs_append (earlier given : List (Nat × Nat)) :
    ofPairs (earlier ++ given) = (ofPairs earlier).pushAll given :=
  List.foldl_append

/-- The entries are those from before, and behind them those of the other
particles in the order of their first pairs. -/
theorem owners_pushAll {list : NeighborList} (distinct : list.owners.Nodup)
    (given : List (Nat × Nat)) :
    (list.pushAll given).owners = (list.owners ++ given.map Prod.fst).eraseDups := by
  -- Each pair changes the list that the later ones come to, so that list is any one.
  induction given generalizing list with
  | nil =>
      rw [List.map_nil, List.append_nil, eraseDups_of_nodup distinct]
      rfl
  | cons pair later ih =>
      rw [List.map_cons, ← eraseDups_note_append, ← owners_push list pair.1 pair.2]
      exact ih (nodup_owners_push distinct pair.1 pair.2)

theorem nodup_owners_pushAll {list : NeighborList} (distinct : list.owners.Nodup)
    (given : List (Nat × Nat)) : (list.pushAll given).owners.Nodup := by
  induction given generalizing list with
  | nil => exact distinct
  | cons pair later ih => exact ih (nodup_owners_push distinct pair.1 pair.2)

/-- The neighbors are those from before, and behind them the new ones in the
order in which they came. -/
theorem neighbors_pushAll (list : NeighborList) (given : List (Nat × Nat)) (index : Nat) :
    (list.pushAll given).neighbors index = list.neighbors index ++ partners given index := by
  induction given generalizing list with
  | nil => exact (List.append_nil _).symm
  | cons pair later ih =>
      rw [partners_cons, ← List.append_assoc, ← neighbors_push list pair.1 pair.2]
      exact ih (list.push pair.1 pair.2)

/-- Every pair is listed as often as it was there before and is given. -/
theorem pairs_pushAll_perm (list : NeighborList) (given : List (Nat × Nat)) :
    (list.pushAll given).pairs.Perm (list.pairs ++ given) := by
  induction given generalizing list with
  | nil => exact .of_eq (List.append_nil _).symm
  | cons pair later ih =>
      rw [← List.singleton_append, ← List.append_assoc]
      have first := (pairs_push_perm list pair.1 pair.2).append_right later
      exact (ih (list.push pair.1 pair.2)).trans first

theorem pairCount_pushAll (list : NeighborList) (given : List (Nat × Nat)) :
    (list.pushAll given).pairCount = list.pairCount + given.length := by
  rw [← length_pairs, (pairs_pushAll_perm list given).length_eq, List.length_append, length_pairs]

/-- The pairs are grouped by their first members, and within a group they stand
as they came. -/
theorem pairs_pushAll {list : NeighborList} (distinct : list.owners.Nodup)
    (given : List (Nat × Nat)) :
    (list.pushAll given).pairs =
      (list.pushAll given).owners.flatMap fun index =>
        (list.pairs ++ given).filter fun pair => pair.1 == index := by
  rw [pairs_eq (nodup_owners_pushAll distinct given)]
  congr 1
  funext index
  rw [List.filter_append, filter_pairs distinct, filter_eq_map_partners, neighbors_pushAll,
    List.map_append]

/-! ## Lists that a simulation obtains -/

variable [Scalar α]

theorem owners_near (assembly : Assembly α) (skin : α) :
    (near assembly skin).owners = List.range assembly.owned.length := by
  rw [owners, near]
  apply List.ext_getElem
  · simp
  · intro index inside otherInside
    simp

/-- No particle of a list that a simulation obtains has two entries. -/
theorem Obtained.nodup_owners {list : NeighborList} (obtained : list.Obtained α) :
    list.owners.Nodup := by
  induction obtained with
  | empty => exact .nil
  | ofPairs pairs =>
      have none : NeighborList.empty.owners.Nodup := .nil
      exact nodup_owners_pushAll none pairs
  | near assembly skin => exact owners_near assembly skin ▸ List.nodup_range
  | push first second obtained ih => exact nodup_owners_push ih first second

/-! ## Keys -/

omit [Scalar α] in
theorem exists_of_mapM_eq_ok {ε β γ : Type} {call : β → Except ε γ} {elements : List β}
    {results : List γ} (succeeds : elements.mapM call = .ok results) :
    ∀ element ∈ elements, ∃ result, call element = .ok result := by
  induction elements generalizing results with
  | nil => exact List.forall_mem_nil _
  | cons element later ih =>
      rw [List.mapM_cons] at succeeds
      rcases bind_eq_ok_iff.mp succeeds with ⟨result, here, rest⟩
      rcases bind_eq_ok_iff.mp rest with ⟨others, there, -⟩
      exact List.forall_mem_cons.mpr ⟨⟨result, here⟩, ih there⟩

/-- The keys of a list can be formed where all its pairs are there. -/
theorem exists_keys_iff {list : NeighborList} {assembly : Assembly α} :
    (∃ keys, list.keys assembly = .ok keys) ↔
      ∀ pair ∈ list.pairs, pair.1 < assembly.size ∧ pair.2 < assembly.size := by
  constructor
  · intro named pair listed
    rcases named with ⟨keys, named⟩
    rcases exists_of_mapM_eq_ok named pair listed with ⟨key, formed⟩
    rcases bind_eq_ok_iff.mp formed with ⟨first, firstThere, rest⟩
    rcases bind_eq_ok_iff.mp rest with ⟨second, secondThere, -⟩
    exact ⟨Assembly.lt_of_get? (Assembly.particle_eq_ok_iff.mp firstThere),
      Assembly.lt_of_get? (Assembly.particle_eq_ok_iff.mp secondThere)⟩
  · intro inside
    exact ⟨_, keys_of_check (check_eq_ok_iff.mpr inside)⟩

/-- The keys of a list are the unordered pairs of tags of its pairs. -/
theorem mem_keys_iff {list : NeighborList} {assembly : Assembly α} {keys : List PairKey}
    (named : list.keys assembly = .ok keys) {key : PairKey} :
    key ∈ keys ↔
      ∃ pair ∈ list.pairs, ∃ first second,
        assembly.get? pair.1 = some first ∧ assembly.get? pair.2 = some second ∧
          key.low ≤ key.high ∧ s(key.low, key.high) = s(first.tag, second.tag) := by
  have passes := check_eq_ok_iff.mpr (exists_keys_iff.mp ⟨keys, named⟩)
  rw [keys_of_check passes] at named
  rw [← Except.ok.inj named, List.mem_map]
  constructor
  · intro found
    rcases found with ⟨encounter, listed, rfl⟩
    rcases List.mem_filterMap.mp listed with ⟨pair, member, met⟩
    rcases Encounter.at?_eq_some_iff.mp met with ⟨first, second, here, there, rfl⟩
    exact ⟨pair, member, first, second, here, there, PairKey.eq_ofTags_iff.mp rfl⟩
  · intro found
    rcases found with ⟨pair, member, first, second, here, there, names⟩
    have met := Encounter.at?_eq_some_iff.mpr ⟨first, second, here, there, rfl⟩
    exact ⟨_, List.mem_filterMap.mpr ⟨pair, member, met⟩, (PairKey.eq_ofTags_iff.mpr names).symm⟩

/-! ## The whole list -/

/-- What becomes of pairs that are added to a list.  No particle has two entries,
and the entries stand in the order in which their particles were first seen.  The
neighbors of a particle are those from before and then its new ones as they came.
So the pairs are those from before and the new ones, each as often as it was
given, grouped by first members and otherwise in order; each counts once, and a
list of given pairs goes on as if it had been given all of them.  The keys exist
where all particles do, and they are the unordered pairs of tags. -/
theorem grouped_pushAll {start : NeighborList} (obtained : start.Obtained α)
    (given : List (Nat × Nat)) (assembly : Assembly α) :
    let list := start.pushAll given
    let all := start.pairs ++ given
    list.owners.Nodup ∧ list.owners = (start.owners ++ given.map Prod.fst).eraseDups ∧
      (∀ index, list.neighbors index = start.neighbors index ++ partners given index) ∧
      list.entries = list.owners.map (fun index => (index, list.neighbors index)) ∧
      list.pairs.Perm all ∧
      list.pairs = list.owners.flatMap (fun index => all.filter fun pair => pair.1 == index) ∧
      list.pairCount = start.pairCount + given.length ∧
      (∀ first second, (list.push first second).pairCount = list.pairCount + 1) ∧
      (∀ earlier, start = ofPairs earlier → list = ofPairs (earlier ++ given)) ∧
      ((∃ keys, list.keys assembly = .ok keys) ↔
        ∀ pair ∈ all, pair.1 < assembly.size ∧ pair.2 < assembly.size) ∧
      ∀ keys, list.keys assembly = .ok keys → ∀ key, key ∈ keys ↔
        ∃ pair ∈ all, ∃ first second,
          assembly.get? pair.1 = some first ∧ assembly.get? pair.2 = some second ∧
            key.low ≤ key.high ∧ s(key.low, key.high) = s(first.tag, second.tag) := by
  intro list all
  have distinct := obtained.nodup_owners
  have unique : list.owners.Nodup := nodup_owners_pushAll distinct given
  have same : list.pairs.Perm all := pairs_pushAll_perm start given
  refine ⟨unique, owners_pushAll distinct given, neighbors_pushAll start given, entries_eq unique,
    same, pairs_pushAll distinct given, pairCount_pushAll start given, pairCount_push list, ?_, ?_,
    ?_⟩
  · rintro earlier rfl
    exact (ofPairs_append earlier given).symm
  · simp only [exists_keys_iff, same.mem_iff]
  · intro keys named key
    simp only [mem_keys_iff named, same.mem_iff]

/-- Three spheres in a row, each in touch with the next, and the image of the
last one far away.  The tags are not in the order of the places. -/
def rowWithImage : Assembly Float :=
  .ofGhosts [.atRest ⟨5⟩ 0 1 1, .atRest ⟨3⟩ ⟨1.5, 0, 0⟩ 1 1, .atRest ⟨4⟩ ⟨3, 0, 0⟩ 1 1]
    [.atRest ⟨4⟩ ⟨9, 0, 0⟩ 1 1]

/-- Pairs are added to the near pairs of a row, one of them twice, one under the
particle that had no neighbor, and one under a particle without an entry. -/
theorem grouped_pushAll_rowWithImage :
    let list := (near rowWithImage 0).pushAll [(2, 0), (3, 1), (0, 2), (2, 1), (0, 2)]
    list.entries = [(0, [1, 2, 2]), (1, [2]), (2, [0, 1]), (3, [1])] ∧ list.pairCount = 7 ∧
      ∃ keys, list.keys rowWithImage = .ok keys ∧ ⟨⟨3⟩, ⟨5⟩⟩ ∈ keys ∧ ⟨⟨5⟩, ⟨3⟩⟩ ∉ keys := by
  intro list
  have start : near rowWithImage 0 = ⟨[(0, [1]), (1, [2]), (2, [])]⟩ := by decide +kernel
  rcases grouped_pushAll (.near rowWithImage 0) [(2, 0), (3, 1), (0, 2), (2, 1), (0, 2)]
    rowWithImage with
    ⟨-, owners, neighbors, entries, -, -, counted, -, -, named, different⟩
  have order : list.owners = [0, 1, 2, 3] := owners.trans (by rw [start]; decide)
  have inside : ∀ pair ∈ (near rowWithImage 0).pairs ++
      [(2, 0), (3, 1), (0, 2), (2, 1), (0, 2)],
      pair.1 < rowWithImage.size ∧ pair.2 < rowWithImage.size := by
    rw [start]
    decide
  rcases named.mpr inside with ⟨keys, formed⟩
  refine ⟨?_, ?_, keys, formed, ?_, ?_⟩
  · rw [entries, order]
    simp only [neighbors]
    rw [start]
    rfl
  · rw [counted, start]
    rfl
  · refine (different keys formed _).mpr ⟨(0, 1), ?_, _, _, rfl, rfl, by decide, Sym2.eq_swap⟩
    rw [start]
    decide
  · intro member
    rcases (different keys formed _).mp member with ⟨_, -, _, _, -, -, ordered, -⟩
    exact absurd ordered (by decide)

end NeighborList

end GranularBonds

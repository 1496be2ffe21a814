import GranularBonds.Assembly
import GranularBonds.Contact.PairKey

/-!
# Neighbor lists

For each owned particle the particles whose contact with it is to be
evaluated.  Every pair stands in the list once, under one of its members.
-/

namespace GranularBonds

/-- Neighbors by position, each particle that has an entry with its own. -/
structure NeighborList where
  entries : List (Nat × List Nat)
  deriving DecidableEq, Repr

namespace NeighborList

/-- A list without entries. -/
def empty : NeighborList := ⟨[]⟩

/-- Put a neighbor at the end of a particle's entry, or in a new last entry. -/
def pushEntry (first second : Nat) : List (Nat × List Nat) → List (Nat × List Nat)
  | [] => [(first, [second])]
  | entry :: rest =>
      if entry.1 = first then (entry.1, entry.2 ++ [second]) :: rest
      else entry :: pushEntry first second rest

/-- The list with one more pair. -/
def push (list : NeighborList) (first second : Nat) : NeighborList :=
  ⟨pushEntry first second list.entries⟩

/-- A list of given pairs, grouped by their first members in the order in which
these first appear. -/
def ofPairs (pairs : List (Nat × Nat)) : NeighborList :=
  pairs.foldl (fun list pair => list.push pair.1 pair.2) empty

/-- All pairs, in the order in which they are visited. -/
def pairs (list : NeighborList) : List (Nat × Nat) :=
  list.entries.flatMap fun entry => entry.2.map fun second => (entry.1, second)

/-- Number of pairs. -/
def pairCount (list : NeighborList) : Nat :=
  list.entries.foldr (fun entry count => entry.2.length + count) 0

theorem length_pairs (list : NeighborList) : list.pairs.length = list.pairCount := by
  unfold pairs pairCount
  induction list.entries with
  | nil => rfl
  | cons entry later ih => simp [ih]

/-- Whether there is no pair. -/
def isEmpty (list : NeighborList) : Bool := list.pairCount == 0

variable {α : Type}

/-- Whether two particles come closer than their radii and a skin. -/
def isNear [Scalar α] (skin : α) (first second : Particle α) : Bool :=
  let reach := first.radius + second.radius + skin
  decide ((first.position - second.position).normSquared < reach * reach)

/-- The list of all pairs that are closer than their radii and a skin.  Every
owned particle has an entry, with the neighbors that come after it. -/
def near [Scalar α] (assembly : Assembly α) (skin : α) : NeighborList where
  entries := assembly.owned.mapIdx fun index first =>
    (index, (assembly.particles.zipIdx.drop (index + 1)).filterMap fun (second, position) =>
      if isNear skin first second then some position else none)

/-- The key of the pair at two positions. -/
def keyOf (assembly : Assembly α) (pair : Nat × Nat) : Except (Fault α) PairKey := do
  let first ← assembly.particle pair.1
  let second ← assembly.particle pair.2
  return .ofTags first.tag second.tag

/-- Keys of all pairs, in the order in which they are visited. -/
def keys (list : NeighborList) (assembly : Assembly α) : Except (Fault α) (List PairKey) :=
  list.pairs.mapM (keyOf assembly)

/-- The first position of a pair that lies outside an assembly. -/
def outside? (list : NeighborList) (assembly : Assembly α) : Option Nat :=
  (list.pairs.flatMap fun pair => [pair.1, pair.2]).find? fun index =>
    decide (assembly.size ≤ index)

/-- Refuse a list with a pair outside the assembly. -/
def check (list : NeighborList) (assembly : Assembly α) : Except (Fault α) Unit :=
  match list.outside? assembly with
  | some index => .error (.particleIndex index assembly.size)
  | none => .ok ()

end NeighborList

end GranularBonds

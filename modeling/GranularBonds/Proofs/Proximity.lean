import Mathlib
import GranularBonds.Proofs.Contact.Replica
import GranularBonds.Proofs.Neighbors
import GranularBonds.Proofs.Vec3

/-!
# Near pairs

The list of near pairs looks at every owned particle and at the particles behind
it.  Main statements: it names exactly the pairs of an owned particle and a later
one that are near each other, each once and in the order of their positions, so
that particles with different tags give pairs with different keys; and in exact
arithmetic its comparison of squares is one of distances, so that it is the half
list of the pairs whose surfaces are closer than the skin.
-/

namespace GranularBonds

/-- Two particles at different positions, of which the first is owned. -/
structure Assembly.OwnedPair {α : Type} (assembly : Assembly α) (index other : Nat)
    (first second : Particle α) : Prop where
  owned : assembly.isOwned index = true
  different : index ≠ other
  first : assembly.get? index = some first
  second : assembly.get? other = some second

namespace NeighborList

section Order

variable {α : Type} [Scalar α] (assembly : Assembly α) (skin : α)

/-- Positions behind a given one whose particles are near a given particle. -/
def nearBehind (index : Nat) (first : Particle α) : List Nat :=
  (assembly.particles.zipIdx.drop (index + 1)).filterMap fun (second, position) =>
    if isNear skin first second then some position else none

theorem entries_near :
    (near assembly skin).entries =
      assembly.owned.mapIdx fun index first => (index, nearBehind assembly skin index first) :=
  rfl

variable {assembly skin}

theorem mem_nearBehind_iff {index position : Nat} {first : Particle α} :
    position ∈ nearBehind assembly skin index first ↔
      index < position ∧ ∃ second, assembly.get? position = some second ∧
        isNear skin first second = true := by
  rw [nearBehind, List.mem_filterMap]
  constructor
  · intro found
    rcases found with ⟨⟨second, place⟩, behind, near⟩
    rw [Option.ite_none_right_eq_some] at near
    rcases near with ⟨near, same⟩
    rcases List.mem_drop_iff_getElem.mp behind with ⟨offset, inside, here⟩
    rw [List.getElem_zipIdx, Prod.mk.injEq, Nat.zero_add, Option.some.inj same] at here
    rcases here with ⟨here, rfl⟩
    exact ⟨by omega, second, List.getElem?_eq_some_iff.mpr ⟨_, here⟩, near⟩
  · intro found
    rcases found with ⟨behind, second, here, near⟩
    rcases List.getElem?_eq_some_iff.mp here with ⟨inside, there⟩
    refine ⟨(second, position), List.mem_drop_iff_getElem.mpr ⟨position - (index + 1), ?_, ?_⟩,
      if_pos near⟩
    · rw [List.length_zipIdx]
      omega
    · have place : index + 1 + (position - (index + 1)) = position := by omega
      simp only [List.getElem_zipIdx, place, there, Nat.zero_add]

theorem pairwise_nearBehind (index : Nat) (first : Particle α) :
    (nearBehind assembly skin index first).Pairwise (· < ·) := by
  have increasing : assembly.particles.zipIdx.Pairwise fun left right => left.2 < right.2 := by
    apply List.pairwise_map.mp
    change (assembly.particles.zipIdx.map Prod.snd).Pairwise (· < ·)
    rw [List.zipIdx_map_snd]
    exact List.pairwise_lt_range' 1
  refine (increasing.sublist (List.drop_sublist (index + 1) _)).filterMap _ ?_
  intro left right below position here other there
  rw [Option.ite_none_right_eq_some] at here there
  rwa [← Option.some.inj here.2, ← Option.some.inj there.2]

/-- The pairs listed are those of an owned particle and a particle behind it
that are near each other. -/
theorem mem_pairs_near_iff {pair : Nat × Nat} :
    pair ∈ (near assembly skin).pairs ↔
      assembly.isOwned pair.1 = true ∧ pair.1 < pair.2 ∧
        ∃ first second, assembly.get? pair.1 = some first ∧
          assembly.get? pair.2 = some second ∧ isNear skin first second = true := by
  rw [mem_pairs_iff, entries_near]
  constructor
  · intro found
    rcases found with ⟨entry, listed, same, member⟩
    rcases List.mem_mapIdx.mp listed with ⟨index, inside, rfl⟩
    rcases mem_nearBehind_iff.mp member with ⟨behind, second, there, near⟩
    have here : assembly.owned[index]? = some assembly.owned[index] :=
      List.getElem?_eq_getElem inside
    rw [Assembly.getElem?_owned, Option.ite_none_right_eq_some] at here
    rw [← same]
    exact ⟨here.1, behind, _, second, here.2, there, near⟩
  · intro found
    rcases found with ⟨owned, behind, first, second, here, there, near⟩
    have listed : assembly.owned[pair.1]? = some first := by
      rwa [Assembly.getElem?_owned, if_pos owned]
    rcases List.getElem?_eq_some_iff.mp listed with ⟨inside, same⟩
    refine ⟨_, List.mem_mapIdx.mpr ⟨pair.1, inside, rfl⟩, rfl, ?_⟩
    rw [same]
    exact mem_nearBehind_iff.mpr ⟨behind, second, there, near⟩

variable (assembly skin)

/-- The pairs stand in the order of their first positions, and then of their
second ones. -/
theorem pairwise_pairs_near :
    (near assembly skin).pairs.Pairwise (Prod.Lex (· < ·) (· < ·)) := by
  rw [pairs, List.pairwise_flatMap]
  constructor
  · intro entry listed
    rcases List.mem_mapIdx.mp listed with ⟨index, inside, rfl⟩
    rw [List.pairwise_map]
    exact (pairwise_nearBehind index _).imp fun below => .right _ below
  · have increasing : (near assembly skin).entries.Pairwise fun left right => left.1 < right.1 := by
      rw [entries_near, List.pairwise_iff_getElem]
      intro index other inside otherInside before
      rw [List.getElem_mapIdx, List.getElem_mapIdx]
      exact before
    refine increasing.imp fun before left leftListed right rightListed => ?_
    rcases List.mem_map.mp leftListed with ⟨_, -, rfl⟩
    rcases List.mem_map.mp rightListed with ⟨_, -, rfl⟩
    exact .left _ _ before

/-- No near pair is listed twice. -/
theorem nodup_pairs_near : (near assembly skin).pairs.Nodup := by
  refine (pairwise_pairs_near assembly skin).imp fun before same => ?_
  rw [same, Prod.lex_def] at before
  omega

variable {assembly}

/-- Pairs that are listed once, and in the order of their positions, have
different keys if the tags of the particles are different. -/
theorem nodup_keys_encounters {list : NeighborList}
    (distinct : (assembly.particles.map Particle.tag).Nodup) (once : list.pairs.Nodup)
    (ordered : ∀ pair ∈ list.pairs, pair.1 < pair.2) :
    ((list.encounters assembly).map Encounter.key).Nodup := by
  rw [List.Nodup, List.pairwise_map, encounters, List.pairwise_filterMap]
  refine List.Pairwise.imp_of_mem ?_ once
  intro left right leftListed rightListed different encounter met other otherMet same
  have leftOrder := ordered left leftListed
  have rightOrder := ordered right rightListed
  rcases Encounter.at?_eq_some_iff.mp met with ⟨first, second, firstHere, secondHere, rfl⟩
  rcases Encounter.at?_eq_some_iff.mp otherMet with ⟨third, fourth, thirdHere, fourthHere, rfl⟩
  rcases PairKey.ofTags_eq_ofTags_iff.mp same with ⟨straight, along⟩ | ⟨across, back⟩
  · apply different
    exact Prod.ext (Assembly.eq_of_tag distinct firstHere thirdHere straight)
      (Assembly.eq_of_tag distinct secondHere fourthHere along)
  · have := Assembly.eq_of_tag distinct firstHere fourthHere across
    have := Assembly.eq_of_tag distinct secondHere thirdHere back
    omega

variable (assembly)

/-- Among particles with different tags no two near pairs have the same key. -/
theorem nodup_keys_near (distinct : (assembly.particles.map Particle.tag).Nodup) :
    (((near assembly skin).encounters assembly).map Encounter.key).Nodup :=
  nodup_keys_encounters distinct (nodup_pairs_near assembly skin)
    fun _ listed => (mem_pairs_near_iff.mp listed).2.1

end Order

/-! ## Distances -/

variable {α : Type} [ExactScalar α] {skin : α} {first second : Particle α}

theorem isNear_comm : isNear skin second first = isNear skin first second := by
  have turned : second.position - first.position = -(first.position - second.position) :=
    (neg_sub _ _).symm
  rw [isNear, isNear, turned, Vec3.normSquared_neg, add_comm second.radius]

/-- Particles are near when the distance of their centers is below their radii
and the skin. -/
theorem isNear_iff (nonnegative : 0 ≤ first.radius + second.radius + skin) :
    isNear skin first second = true ↔
      (first.position - second.position).norm < first.radius + second.radius + skin := by
  rw [isNear, decide_eq_true_eq, ← Vec3.norm_mul_self]
  exact (mul_self_lt_mul_self_iff (Vec3.norm_nonneg _) nonnegative).symm

/-- Who meets over the list of near pairs is a near pair. -/
theorem ownedPair_of_mem_near {assembly : Assembly α} {encounter : Encounter α}
    (member : encounter ∈ (near assembly skin).encounters assembly) :
    ∃ first second, assembly.OwnedPair encounter.first encounter.second first second ∧
      isNear skin first second = true ∧ encounter.firstParticle = first.cleared ∧
        encounter.secondParticle = second.cleared := by
  rcases List.mem_filterMap.mp member with ⟨pair, listed, met⟩
  rcases mem_pairs_near_iff.mp listed with ⟨owned, before, first, second, here, there, close⟩
  rcases Encounter.at?_eq_some_iff.mp met with ⟨_, _, alsoHere, alsoThere, rfl⟩
  rw [here] at alsoHere
  rw [there] at alsoThere
  cases alsoHere
  cases alsoThere
  exact ⟨first, second, ⟨owned, before.ne, here, there⟩, close, rfl, rfl⟩

/-- A near pair meets over the list of near pairs, as seen from one side or from
the other. -/
theorem mem_near_of_ownedPair {assembly : Assembly α} {index other : Nat}
    (pair : assembly.OwnedPair index other first second) (close : isNear skin first second = true) :
    let encounter : Encounter α := ⟨index, other, first.cleared, second.cleared⟩
    encounter ∈ (near assembly skin).encounters assembly ∨
      encounter.swapped ∈ (near assembly skin).encounters assembly := by
  intro encounter
  have met : Encounter.at? assembly (index, other) = some encounter :=
    Encounter.at?_eq_some_iff.mpr ⟨first, second, pair.first, pair.second, rfl⟩
  rcases pair.different.lt_or_gt with before | after
  · left
    exact List.mem_filterMap.mpr ⟨(index, other), mem_pairs_near_iff.mpr
      ⟨pair.owned, before, first, second, pair.first, pair.second, close⟩, met⟩
  · right
    -- What stands before an owned particle is owned too.
    have owned : assembly.isOwned other = true :=
      decide_eq_true (after.trans (of_decide_eq_true pair.owned))
    have turned : Encounter.at? assembly (other, index) = some encounter.swapped := by
      rw [← Prod.swap_prod_mk, Encounter.at?_swap, met, Option.map_some]
    exact List.mem_filterMap.mpr ⟨(other, index), mem_pairs_near_iff.mpr
      ⟨owned, after, second, first, pair.second, pair.first, isNear_comm.trans close⟩, turned⟩

/-! ## Half lists -/

section HalfList

variable {assembly : Assembly α}

/-- The pairs listed are those of an owned particle and a particle behind it
whose distance is below their radii and the skin. -/
theorem mem_pairs_near_iff_norm (sized : ∀ particle ∈ assembly.particles, 0 ≤ particle.radius)
    (skinned : 0 ≤ skin) {index other : Nat} :
    (index, other) ∈ (near assembly skin).pairs ↔
      assembly.isOwned index = true ∧ index < other ∧
        ∃ first second, assembly.get? index = some first ∧ assembly.get? other = some second ∧
          (first.position - second.position).norm < first.radius + second.radius + skin := by
  have reach {index other : Nat} {first second : Particle α}
      (here : assembly.get? index = some first) (there : assembly.get? other = some second) :
      0 ≤ first.radius + second.radius + skin :=
    add_nonneg (add_nonneg (sized _ (List.mem_of_getElem? here))
      (sized _ (List.mem_of_getElem? there))) skinned
  rw [mem_pairs_near_iff]
  refine and_congr_right fun _ => and_congr_right fun _ => ?_
  refine exists_congr fun first => exists_congr fun second => ?_
  refine and_congr_right fun here => and_congr_right fun there => ?_
  exact isNear_iff (reach here there)

/-- Of the two orders of a pair one is listed at most, and its first particle is
owned. -/
theorem half_of_mem_near {index other : Nat}
    (listed : (index, other) ∈ (near assembly skin).pairs) :
    assembly.isOwned index = true ∧ index ≠ other ∧
      (other, index) ∉ (near assembly skin).pairs := by
  rcases mem_pairs_near_iff.mp listed with ⟨owned, before, -⟩
  refine ⟨owned, before.ne, fun turned => ?_⟩
  exact absurd (mem_pairs_near_iff.mp turned).2.1 before.not_gt

/-- The list of near pairs is a half list.  It names exactly the pairs of an
owned particle and a particle behind it whose distance is below their radii and
the skin, each once and in the order of their positions; hence no pair in both
orders, no particle with itself, and no two ghosts.  The keys of its pairs exist,
and they are different if the tags of the particles are. -/
theorem half_list_near (sized : ∀ particle ∈ assembly.particles, 0 ≤ particle.radius)
    (skinned : 0 ≤ skin) :
    (∀ index other, (index, other) ∈ (near assembly skin).pairs ↔
        assembly.isOwned index = true ∧ index < other ∧
          ∃ first second, assembly.get? index = some first ∧
            assembly.get? other = some second ∧
              (first.position - second.position).norm < first.radius + second.radius + skin) ∧
      (near assembly skin).pairs.Nodup ∧
      (near assembly skin).pairs.Pairwise (Prod.Lex (· < ·) (· < ·)) ∧
      (∀ index other, (index, other) ∈ (near assembly skin).pairs →
        assembly.isOwned index = true ∧ index ≠ other ∧
          (other, index) ∉ (near assembly skin).pairs) ∧
      (∀ index other, assembly.isOwned index = false → assembly.isOwned other = false →
        (index, other) ∉ (near assembly skin).pairs) ∧
      ∃ keys, (near assembly skin).keys assembly = .ok keys ∧
        keys.length = (near assembly skin).pairCount ∧
          ((assembly.particles.map Particle.tag).Nodup → keys.Nodup) := by
  have fits := (near_fits assembly skin).check
  refine ⟨fun _ _ => mem_pairs_near_iff_norm sized skinned, nodup_pairs_near assembly skin,
    pairwise_pairs_near assembly skin, fun _ _ => half_of_mem_near, ?_, _, keys_of_check fits, ?_,
    nodup_keys_near assembly skin⟩
  · intro index other ghost _ listed
    exact absurd ((half_of_mem_near listed).1.symm.trans ghost) (by decide)
  · rw [List.length_map, length_encounters fits]

end HalfList

/-- A sphere with two ghosts, of which the first touches it and the other one. -/
noncomputable def besideTwoGhosts (place : ℝ) : Assembly ℝ :=
  .ofGhosts [.atRest ⟨1⟩ 0 1 1] [.atRest ⟨2⟩ ⟨1, 0, 0⟩ 1 1, .atRest ⟨3⟩ ⟨place, 0, 0⟩ 1 1]

theorem half_list_near_besideTwoGhosts :
    let assembly := besideTwoGhosts (5 / 2)
    (near assembly 0).pairs.Nodup ∧ (0, 1) ∈ (near assembly 0).pairs ∧
      (1, 0) ∉ (near assembly 0).pairs ∧ (0, 2) ∉ (near assembly 0).pairs ∧
        (1, 2) ∉ (near assembly 0).pairs ∧
          ∃ keys, (near assembly 0).keys assembly = .ok keys ∧ keys.Nodup := by
  intro assembly
  have sized : ∀ particle ∈ assembly.particles, 0 ≤ particle.radius := by
    simp [assembly, besideTwoGhosts, Assembly.ofGhosts, Particle.atRest]
  have distance (place : ℝ) (right : 0 ≤ place) :
      ((0 : Vec3 ℝ) - ⟨place, 0, 0⟩).norm = place := by
    have square : ((0 : Vec3 ℝ) - ⟨place, 0, 0⟩).normSquared = place * place := by
      simp only [Vec3.normSquared, Vec3.dot, Vec3.sub_x, Vec3.sub_y, Vec3.sub_z, Vec3.zero_x,
        Vec3.zero_y, Vec3.zero_z]
      ring
    rw [Vec3.norm, square]
    exact ExactScalar.sqrt_mul_self_eq right
  have distinct : (assembly.particles.map Particle.tag).Nodup := by
    change [(⟨1⟩ : Tag), ⟨2⟩, ⟨3⟩].Nodup
    decide
  rcases half_list_near sized (le_refl (0 : ℝ)) with
    ⟨listed, once, -, halved, ghosts, keys, named, -, different⟩
  have touching : (0, 1) ∈ (near assembly 0).pairs := by
    refine (listed 0 1).mpr ⟨rfl, Nat.zero_lt_one, _, _, rfl, rfl, ?_⟩
    simp only [Particle.atRest, distance 1 zero_le_one]
    norm_num
  refine ⟨once, touching, (halved 0 1 touching).2.2, ?_, ghosts 1 2 rfl rfl, keys, named,
    different distinct⟩
  intro apart
  rcases (listed 0 2).mp apart with ⟨-, -, first, second, here, there, close⟩
  cases here
  cases there
  simp only [Particle.atRest, distance (5 / 2) (by norm_num)] at close
  norm_num at close

end NeighborList

end GranularBonds

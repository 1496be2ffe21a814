import Mathlib
import GranularBonds.Proofs.Contact.PassSum
import GranularBonds.Proofs.Proximity

/-!
# Neighbor lists between rebuilds

The list of near pairs is made with a skin, so that it can serve for some steps
while the particles move.  Main statement: as long as every particle has moved by
less than half the skin, a pair that the list leaves out is still apart and does
nothing unless it is bonded, so that a pass over the list leaves the particles as
a pass over all pairs does.
-/

namespace GranularBonds

variable {α : Type} [ExactScalar α]

/-! ## Particles that move -/

/-- A particle at a later time, when its center has moved by no more than a given
distance. -/
structure Particle.Shifted (shift : α) (earlier later : Particle α) : Prop where
  tag : later.tag = earlier.tag
  radius : later.radius = earlier.radius
  moved : (later.position - earlier.position).norm ≤ shift

/-- The same particles at a later time, when none of them has moved by more than
a given distance. -/
structure Assembly.Shifted (shift : α) (before later : Assembly α) : Prop where
  owned : later.ownedCount = before.ownedCount
  particles : List.Forall₂ (Particle.Shifted shift) before.particles later.particles

namespace Assembly.Shifted

variable {shift : α} {before later : Assembly α} (shifted : before.Shifted shift later)

include shifted

theorem isOwned_eq (index : Nat) : later.isOwned index = before.isOwned index := by
  rw [isOwned, isOwned, shifted.owned]

theorem size_eq : later.size = before.size :=
  shifted.particles.length_eq.symm

theorem tags_eq : later.particles.map Particle.tag = before.particles.map Particle.tag := by
  rw [← List.forall₂_eq_eq_eq, List.forall₂_map_left_iff, List.forall₂_map_right_iff]
  exact shifted.particles.flip.imp fun _ _ particle => particle.tag

/-- Every particle has been there before. -/
theorem exists_get? {index : Nat} {now : Particle α} (here : later.get? index = some now) :
    ∃ earlier, before.get? index = some earlier ∧ earlier.Shifted shift now := by
  rcases List.getElem?_eq_some_iff.mp here with ⟨inside, rfl⟩
  have there : index < before.size := by
    rw [← shifted.size_eq]
    exact inside
  exact ⟨before.particles[index], List.getElem?_eq_getElem there,
    (List.forall₂_iff_get.mp shifted.particles).2 index there inside⟩

end Assembly.Shifted

/-- While two particles move, their centers come closer by no more than the two
ways together. -/
theorem Particle.Shifted.distance_le {shift : α} {first second firstNow secondNow : Particle α}
    (firstShifted : first.Shifted shift firstNow) (secondShifted : second.Shifted shift secondNow) :
    (first.position - second.position).norm ≤
      (firstNow.position - secondNow.position).norm + 2 * shift := by
  have way : (first.position - firstNow.position).norm ≤ shift := by
    rw [← Vec3.norm_neg, neg_sub]
    exact firstShifted.moved
  have path : first.position - second.position =
      (first.position - firstNow.position) +
        ((firstNow.position - secondNow.position) + (secondNow.position - second.position)) := by
    abel
  have detour := Vec3.norm_add_le (first.position - firstNow.position)
    ((firstNow.position - secondNow.position) + (secondNow.position - second.position))
  have rest := Vec3.norm_add_le (firstNow.position - secondNow.position)
    (secondNow.position - second.position)
  rw [path]
  linarith [secondShifted.moved]

/-! ## Pairs that are left out -/

/-- Without a bond, a pair whose surfaces are apart does nothing. -/
theorem Material.evaluate_of_apart (material : Material α) {pair : Kinematics α}
    {record : ContactRecord α} (apart : pair.radiusSum < pair.distance)
    (loose : record.isCohesive = false) (flipped : Bool) (timestep : α) :
    (material.evaluate pair record flipped timestep).1 = .separated := by
  have standing : pair.standing record = .separated := by
    simp only [Kinematics.standing, loose, Bool.not_false, Bool.true_and, apart, decide_true,
      if_true]
  simp only [evaluate, standing]

namespace NeighborList

/-- The surfaces of two particles that are not on the list of near pairs are
apart until one of them has moved by half the skin. -/
theorem apart_of_not_mem_near {before later : Assembly α} {skin shift : α}
    (radii : ∀ particle ∈ before.particles, 0 ≤ particle.radius) (positive : 0 < skin)
    (half : 2 * shift < skin) (shifted : before.Shifted shift later) {index other : Nat}
    {first second : Particle α} (pair : later.OwnedPair index other first second)
    (ordered : index < other) (unlisted : (index, other) ∉ (near before skin).pairs) :
    first.radius + second.radius < (first.position - second.position).norm := by
  rcases shifted.exists_get? pair.first with ⟨firstBefore, firstHere, firstShifted⟩
  rcases shifted.exists_get? pair.second with ⟨secondBefore, secondHere, secondShifted⟩
  have firstRadius := radii firstBefore (List.mem_of_getElem? firstHere)
  have secondRadius := radii secondBefore (List.mem_of_getElem? secondHere)
  have owned : before.isOwned index = true := (shifted.isOwned_eq index).symm.trans pair.owned
  have far : ¬(firstBefore.position - secondBefore.position).norm <
      firstBefore.radius + secondBefore.radius + skin := by
    rw [← isNear_iff (by linarith)]
    intro close
    exact unlisted (mem_pairs_near_iff.mpr
      ⟨owned, ordered, firstBefore, secondBefore, firstHere, secondHere, close⟩)
  have closer := firstShifted.distance_le secondShifted
  rw [firstShifted.radius, secondShifted.radius]
  linarith

/-! ## All pairs -/

omit [ExactScalar α] in
/-- A list of all pairs of an owned particle and a particle behind it, with each
of them once. -/
structure ListsAll (list : NeighborList) (assembly : Assembly α) : Prop where
  fits : list.Fits assembly
  once : list.pairs.Nodup
  all : ∀ {pair}, pair ∈ list.pairs ↔
    assembly.isOwned pair.1 = true ∧ pair.1 < pair.2 ∧ pair.2 < assembly.size

/-- A longer list is a shorter one and the pairs that this leaves out. -/
theorem perm_append_leftOut {full list : NeighborList} (fullOnce : full.pairs.Nodup)
    (once : list.pairs.Nodup) (subset : ∀ pair ∈ list.pairs, pair ∈ full.pairs) :
    full.pairs.Perm (list.pairs ++ full.pairs.filter fun pair => !decide (pair ∈ list.pairs)) := by
  have listed : (full.pairs.filter fun pair => decide (pair ∈ list.pairs)).Perm list.pairs := by
    rw [List.perm_ext_iff_of_nodup (fullOnce.filter _) once]
    intro pair
    rw [List.mem_filter, decide_eq_true_eq, and_iff_right_iff_imp]
    exact subset pair
  exact (List.filter_append_perm _ full.pairs).symm.trans (listed.append_right _)

end NeighborList

namespace PassContext

variable (context : PassContext α)

/-- Pairs that do nothing load no particle. -/
theorem foldl_load_of_separated {encounters : List (Encounter α)}
    {results : Encounter α → Outcome α × ContactRecord α}
    (idle : ∀ encounter ∈ encounters, (results encounter).1 = .separated) (assembly : Assembly α) :
    encounters.foldl (fun assembly encounter =>
      context.load assembly encounter.first encounter.second (results encounter).1) assembly =
        assembly := by
  induction encounters with
  | nil => rfl
  | cons encounter later ih =>
      have here := (List.forall_mem_cons.mp idle).1
      have later := (List.forall_mem_cons.mp idle).2
      rw [List.foldl_cons, here]
      exact ih later

/-- Pairs that do nothing can be left out of a list. -/
theorem assembly_foldl_meet_of_idle {full list : NeighborList} {assembly : Assembly α}
    {ledger : Ledger α} (fullOnce : full.pairs.Nodup) (once : list.pairs.Nodup)
    (distinct : ((full.encounters assembly).map Encounter.key).Nodup)
    (subset : ∀ pair ∈ list.pairs, pair ∈ full.pairs)
    (idle : ∀ encounter ∈ full.encounters assembly,
      (encounter.first, encounter.second) ∉ list.pairs →
        (context.result ledger encounter).1 = .separated) :
    ((full.encounters assembly).foldl context.meet ⟨assembly, ledger, .none⟩).assembly =
      ((list.encounters assembly).foldl context.meet ⟨assembly, ledger, .none⟩).assembly := by
  let others := (full.pairs.filter fun pair => !decide (pair ∈ list.pairs)).filterMap
    (Encounter.at? assembly)
  have parted : (full.encounters assembly).Perm (list.encounters assembly ++ others) := by
    have pairs := (NeighborList.perm_append_leftOut fullOnce once subset).filterMap
      (Encounter.at? assembly)
    rwa [List.filterMap_append] at pairs
  have partedDistinct := (parted.map Encounter.key).nodup distinct
  have listDistinct : ((list.encounters assembly).map Encounter.key).Nodup := by
    rw [List.map_append] at partedDistinct
    exact partedDistinct.of_append_left
  have nothing : ∀ encounter ∈ others, (context.result ledger encounter).1 = .separated := by
    intro encounter member
    rcases List.mem_filterMap.mp member with ⟨pair, kept, met⟩
    rcases List.mem_filter.mp kept with ⟨listed, unlisted⟩
    apply idle encounter (List.mem_filterMap.mpr ⟨pair, listed, met⟩)
    rcases Encounter.at?_eq_some_iff.mp met with ⟨_, _, -, -, rfl⟩
    simpa using unlisted
  rw [← context.foldl_meet_eq_of_perm distinct parted, context.foldl_meet_eq_results partedDistinct,
    context.foldl_meet_eq_results listDistinct, List.foldl_append]
  exact context.foldl_load_of_separated nothing _

end PassContext

/-- The list of near pairs suffices until a particle has moved by half the skin.
Take particles with different tags and radii that are not negative, the list of
their near pairs with a positive skin, and the same particles later, each of them
less than half the skin away from where it was.  Then every pair that the list
leaves out is separated, whatever its motion and its past, as long as it is not
bonded.  If none of the pairs left out is bonded, a pass over the list and a pass
over all pairs both succeed and leave the same loads on the same particles. -/
theorem NeighborList.near_suffices {α : Type} [ExactScalar α] {before later : Assembly α}
    {skin shift : α} (distinct : (before.particles.map Particle.tag).Nodup)
    (radii : ∀ particle ∈ before.particles, 0 ≤ particle.radius) (positive : 0 < skin)
    (half : 2 * shift < skin) (shifted : before.Shifted shift later) :
    (∀ {index other : Nat} {first second : Particle α},
      later.OwnedPair index other first second → index < other →
        (index, other) ∉ (near before skin).pairs →
          ∀ (material : Material α) (velocity firstSpin secondSpin : Vec3 α) (mass timestep : α)
            (flipped : Bool) {record : ContactRecord α}, record.isCohesive = false →
            (material.evaluate ⟨first.position - second.position, velocity, firstSpin, secondSpin,
              first.radius, second.radius, mass⟩ record flipped timestep).1 = .separated) ∧
      ∀ (context : PassContext α) (ledger : Ledger α) {full : NeighborList},
        full.ListsAll later →
          (∀ encounter ∈ full.encounters later,
            (encounter.first, encounter.second) ∉ (near before skin).pairs →
              (ledger.getOrFresh encounter.key).isCohesive = false) →
          ∃ after fullAfter,
            context.run (near before skin) later ledger = .ok after ∧
              context.run full later ledger = .ok fullAfter ∧
                fullAfter.assembly = after.assembly := by
  have apart {index other : Nat} {first second : Particle α}
      (pair : later.OwnedPair index other first second) (ordered : index < other)
      (unlisted : (index, other) ∉ (near before skin).pairs) :
      first.radius + second.radius < (first.position - second.position).norm :=
    apart_of_not_mem_near radii positive half shifted pair ordered unlisted
  constructor
  · intro index other first second pair ordered unlisted material _ _ _ _ timestep flipped _ loose
    refine material.evaluate_of_apart ?_ loose flipped timestep
    exact apart pair ordered unlisted
  · intro context ledger full complete unbonded
    have fits : (near before skin).Fits later := by
      have fitsBefore := near_fits before skin
      simpa only [Fits, shifted.size_eq] using fitsBefore
    have subset : ∀ pair ∈ (near before skin).pairs, pair ∈ full.pairs := by
      intro pair listed
      rcases mem_pairs_near_iff.mp listed with ⟨owned, ordered, _, _, -, there, -⟩
      apply complete.all.mpr
      rw [shifted.isOwned_eq, shifted.size_eq]
      exact ⟨owned, ordered, Assembly.lt_of_get? there⟩
    have keys : ((full.encounters later).map Encounter.key).Nodup := by
      apply nodup_keys_encounters _ complete.once fun pair listed => (complete.all.mp listed).2.1
      rw [shifted.tags_eq]
      exact distinct
    refine ⟨_, _, context.run_eq_ok_iff.mpr ⟨fits, rfl⟩,
      context.run_eq_ok_iff.mpr ⟨complete.fits, rfl⟩,
      context.assembly_foldl_meet_of_idle complete.once (nodup_pairs_near before skin) keys subset ?_⟩
    intro encounter member unlisted
    rcases List.mem_filterMap.mp member with ⟨pair, listed, met⟩
    rcases complete.all.mp listed with ⟨owned, ordered, -⟩
    have loose := unbonded encounter member unlisted
    rcases Encounter.at?_eq_some_iff.mp met with ⟨first, second, firstHere, secondHere, rfl⟩
    have surfaces := apart ⟨owned, ordered.ne, firstHere, secondHere⟩ ordered unlisted
    refine context.material.evaluate_of_apart ?_ loose _ context.timestep
    exact surfaces

namespace NeighborList

/-- Two spheres in contact, and a third one somewhere on the line through
them. -/
noncomputable def threeInLine (place : ℝ) : Assembly ℝ :=
  .ofOwned [.atRest ⟨1⟩ 0 1 1, .atRest ⟨2⟩ ⟨1, 0, 0⟩ 1 1, .atRest ⟨3⟩ ⟨place, 0, 0⟩ 1 1]

theorem shifted_threeInLine : (threeInLine 10).Shifted 2 (threeInLine 8) := by
  have still : ∀ particle : Particle ℝ, particle.Shifted 2 particle := by
    intro particle
    refine ⟨rfl, rfl, ?_⟩
    rw [sub_self, Vec3.norm_zero]
    norm_num
  refine ⟨rfl, .cons (still _) (.cons (still _) (.cons ⟨rfl, rfl, ?_⟩ .nil))⟩
  apply (mul_self_le_mul_self_iff (Vec3.norm_nonneg _) (by norm_num)).mpr
  rw [Vec3.norm_mul_self]
  simp only [Particle.atRest, Vec3.normSquared, Vec3.dot, Vec3.sub_x, Vec3.sub_y, Vec3.sub_z]
  norm_num

theorem listsAll_threeInLine (place : ℝ) :
    (ofPairs [(0, 1), (0, 2), (1, 2)]).ListsAll (threeInLine place) := by
  have size : (threeInLine place).size = 3 := rfl
  have pairs : (ofPairs [(0, 1), (0, 2), (1, 2)]).pairs = [(0, 1), (0, 2), (1, 2)] := rfl
  constructor
  · exact (pushed_ofPairs _).fits_iff.mpr (check_eq_ok_iff.mpr (by rw [pairs, size]; decide))
  · rw [pairs]
    decide
  · intro pair
    have owned : (threeInLine place).isOwned pair.1 = true ↔ pair.1 < 3 := decide_eq_true_iff
    rw [pairs, owned, size]
    simp only [List.mem_cons, List.not_mem_nil, or_false, Prod.ext_iff]
    omega

/-- The list of two spheres in contact leaves out a third one, and still suffices
when this has come closer by two fifths of the skin. -/
theorem near_suffices_threeInLine :
    (1, 2) ∉ (near (threeInLine 10) 5).pairs ∧
      ∃ after fullAfter,
        PassContext.run ⟨.standard, none, 1, true⟩ (near (threeInLine 10) 5)
          (threeInLine 8) .empty = .ok after ∧
        PassContext.run ⟨.standard, none, 1, true⟩ (ofPairs [(0, 1), (0, 2), (1, 2)])
          (threeInLine 8) .empty = .ok fullAfter ∧
        fullAfter.assembly = after.assembly := by
  constructor
  · intro listed
    rcases mem_pairs_near_iff.mp listed with ⟨-, -, first, second, here, there, close⟩
    cases here
    cases there
    revert close
    simp only [isNear, Particle.atRest, Vec3.normSquared, Vec3.dot, Vec3.sub_x, Vec3.sub_y,
      Vec3.sub_z]
    norm_num
  · have distinct : ((threeInLine 10).particles.map Particle.tag).Nodup := by
      change [(⟨1⟩ : Tag), ⟨2⟩, ⟨3⟩].Nodup
      decide
    have radii : ∀ particle ∈ (threeInLine 10).particles, 0 ≤ particle.radius := by
      simp [threeInLine, Assembly.ofOwned, Assembly.ofGhosts, Particle.atRest]
    exact (near_suffices distinct radii (by norm_num) (by norm_num) shifted_threeInLine).2
      ⟨.standard, none, 1, true⟩ .empty (listsAll_threeInLine 8) fun _ _ _ => rfl

end NeighborList

end GranularBonds

import Mathlib
import GranularBonds.Proofs.Contact.Tension
import GranularBonds.Proofs.Contact.Touch
import GranularBonds.Proofs.Proximity
import GranularBonds.Proofs.Session.Decomposition

/-!
# The bonds at the start of a run

Bonding takes the pairs of a list, and the list takes the pairs closer than their
radii and a skin.  The two distances are compared in different ways, one strictly
and by squares, the other not strictly and along a stretch that depends on the
smaller radius.  Main statement: with a skin that is wider than what bonds can
bridge, bonding on the near pairs finds exactly the pairs within bonding
distance, and gives each its own first record.
-/

namespace GranularBonds

variable {α : Type} [ExactScalar α]

/-! ## First records -/

namespace Material

/-- Two particles are within bonding distance. -/
def Reaches (material : Material α) (first second : Particle α) : Prop :=
  (first.position - second.position).norm ≤
    first.radius + second.radius + (material.reach - 1) * min first.radius second.radius

/-- The record of two particles that have just bonded. -/
def newBond (material : Material α) (first second : Particle α) : ContactRecord α where
  touching := false
  shear := 0
  bond := .bonded
  initialGap := first.radius + second.radius - (first.position - second.position).norm
  tensileLimit := material.tensileLimit (min first.radius second.radius)
  shearBreaks := 0
  tensileBreaks := 0

/-- The first record of two particles. -/
def firstOf (material : Material α) (first second : Particle α) : ContactRecord α :=
  material.firstRecord first.radius second.radius (first.position - second.position).norm

variable {material : Material α} {first second : Particle α}

theorem bond_firstOf_iff : (material.firstOf first second).bond = .bonded ↔
    material.Reaches first second := by
  rw [firstOf, firstRecord, bondDistance, Scalar.minimum_eq_min, Reaches]
  split
  case isTrue near => exact iff_of_true rfl near
  case isFalse far =>
      refine iff_of_false (fun bond => ?_) far
      cases bond

/-- Nothing is cut off the limit of a bond between particles of positive
radii. -/
theorem firstOf_of_reaches (valid : material.validate = .ok ()) (firstPositive : 0 < first.radius)
    (secondPositive : 0 < second.radius) (reaches : material.Reaches first second) :
    material.firstOf first second = material.newBond first second := by
  have limit : (material.tensileLimit (Scalar.minimum first.radius second.radius)).nonnegative =
      material.tensileLimit (min first.radius second.radius) := by
    by_cases stiff : 0 < material.normalStiffness
    · rw [nonnegative_tensileLimit valid firstPositive secondPositive stiff, tensileLimit,
        if_pos stiff]
      rfl
    · rw [tensileLimit, tensileLimit, if_neg stiff, if_neg stiff]
      rfl
  have near : (first.position - second.position).norm ≤
      material.bondDistance first.radius second.radius := by
    rw [bondDistance, Scalar.minimum_eq_min]
    exact reaches
  rw [firstOf, firstRecord, if_pos near, ContactRecord.bonded, limit]
  rfl

/-- Particles within bonding distance are near each other when the skin is wider
than what their bond can bridge. -/
theorem Reaches.isNear (reaches : material.Reaches first second)
    (valid : material.validate = .ok ()) (firstPositive : 0 < first.radius)
    (secondPositive : 0 < second.radius) {skin : α}
    (wide : (material.reach - 1) * min first.radius second.radius < skin) :
    NeighborList.isNear skin first second = true := by
  have reach : 0 ≤ material.reach :=
    (validate_eq_ok_iff.mp valid).1 ("enlarge_factor", _) (by simp [named])
  have smaller : 0 < min first.radius second.radius := lt_min firstPositive secondPositive
  have bridged : -min first.radius second.radius ≤
      (material.reach - 1) * min first.radius second.radius := by
    rw [sub_mul, one_mul]
    linarith only [mul_nonneg reach smaller.le]
  have less : min first.radius second.radius ≤ first.radius := min_le_left _ _
  have nonnegative : 0 ≤ first.radius + second.radius + skin := by
    linarith only [bridged, less, wide, secondPositive]
  exact (NeighborList.isNear_iff nonnegative).mpr
    (lt_of_le_of_lt reaches (by linarith only [wide]))

end Material

/-! ## Bonding on the near pairs -/

theorem BondingReport.total_counting (report : BondingReport) (bonded : Bool) :
    (report.counting bonded).total = report.total + 1 := by
  cases bonded with
  | true => exact Nat.add_right_comm ..
  | false => rfl

namespace Material

/-- What bonding on the near pairs makes of an empty ledger. -/
def bondNear (material : Material α) (assembly : Assembly α) (skin : α) :
    BondingReport × Ledger α :=
  ((NeighborList.near assembly skin).encounters assembly).foldl material.bond (⟨0, 0⟩, .empty)

theorem total_foldl_bond (material : Material α) (encounters : List (Encounter α))
    (state : BondingReport × Ledger α) :
    (encounters.foldl material.bond state).1.total = state.1.total + encounters.length := by
  induction encounters generalizing state with
  | nil => rfl
  | cons encounter later ih =>
      have counted : (material.bond state encounter).1.total = state.1.total + 1 :=
        BondingReport.total_counting ..
      rw [List.foldl_cons, ih, counted, List.length_cons]
      omega

/-- The bonding counts every near pair once. -/
theorem total_bondNear (material : Material α) (assembly : Assembly α) (skin : α) :
    (material.bondNear assembly skin).1.total = (NeighborList.near assembly skin).pairCount := by
  have fits := NeighborList.near_fits assembly skin
  rw [bondNear, total_foldl_bond, NeighborList.length_encounters fits.check]
  exact Nat.zero_add _

variable (material : Material α) {assembly : Assembly α} {skin : α} {first second : Particle α}

/-- Bonding writes the first record of every pair that it meets, and nothing
else. -/
theorem get?_bondNear (skin : α) (distinct : (assembly.particles.map Particle.tag).Nodup) :
    (∀ encounter ∈ (NeighborList.near assembly skin).encounters assembly,
      (material.bondNear assembly skin).2.get? encounter.key =
        some (encounter.firstRecord material)) ∧
    ∀ key,
      (∀ encounter ∈ (NeighborList.near assembly skin).encounters assembly, encounter.key ≠ key) →
      (material.bondNear assembly skin).2.get? key = none := by
  rw [bondNear, foldl_bond_snd]
  exact Ledger.get?_foldl_insert .empty (Encounter.firstRecord material)
    (NeighborList.nodup_keys_near assembly skin distinct)

/-- A near pair has its first record after the bonding, from whichever side the
list names it. -/
theorem get?_bondNear_of_near (distinct : (assembly.particles.map Particle.tag).Nodup)
    {index other : Nat} (pair : assembly.OwnedPair index other first second)
    (close : NeighborList.isNear skin first second = true) :
    (material.bondNear assembly skin).2.get? (.ofTags first.tag second.tag) =
      some (material.firstOf first second) := by
  have written := (material.get?_bondNear skin distinct).1
  rcases NeighborList.mem_near_of_ownedPair pair close with straight | turned
  · exact written _ straight
  · have found := written _ turned
    rw [Encounter.key_swapped, Encounter.firstRecord_swapped] at found
    exact found

/-- Every record after the bonding is that of a near pair. -/
theorem exists_of_get?_bondNear (distinct : (assembly.particles.map Particle.tag).Nodup)
    {key : PairKey} {record : ContactRecord α}
    (present : (material.bondNear assembly skin).2.get? key = some record) :
    ∃ index other first second, assembly.OwnedPair index other first second ∧
      PairKey.ofTags first.tag second.tag = key ∧ record = material.firstOf first second := by
  obtain ⟨written, unwritten⟩ := material.get?_bondNear skin distinct
  by_cases met : ∃ encounter ∈ (NeighborList.near assembly skin).encounters assembly,
      encounter.key = key
  · rcases met with ⟨encounter, member, rfl⟩
    rcases NeighborList.ownedPair_of_mem_near member with
      ⟨first, second, pair, -, firstSame, secondSame⟩
    rw [written encounter member, Option.some.injEq] at present
    refine ⟨_, _, first, second, pair, ?_, ?_⟩
    · rw [Encounter.key, firstSame, secondSame]
      rfl
    · rw [← present, Encounter.firstRecord, firstSame, secondSame]
      rfl
  · rw [unwritten key fun encounter member same => met ⟨encounter, member, same⟩] at present
    cases present

/-- The first record does not depend on the side. -/
theorem firstOf_comm (first second : Particle α) :
    material.firstOf second first = material.firstOf first second := by
  rw [firstOf, firstOf, material.firstRecord_comm, ← Vec3.norm_neg, neg_sub]

/-- What is remembered of a pair after the bonding is its first record. -/
theorem eq_firstOf_of_get?_bondNear (distinct : (assembly.particles.map Particle.tag).Nodup)
    {index other : Nat} (pair : assembly.OwnedPair index other first second)
    {record : ContactRecord α}
    (present : (material.bondNear assembly skin).2.get? (.ofTags first.tag second.tag) =
      some record) :
    record = material.firstOf first second := by
  rcases material.exists_of_get?_bondNear distinct present with
    ⟨_, _, third, fourth, found, same, rfl⟩
  have tell := List.inj_on_of_nodup_map distinct
  have firstMember := List.mem_of_getElem? pair.first
  have secondMember := List.mem_of_getElem? pair.second
  have thirdMember := List.mem_of_getElem? found.first
  have fourthMember := List.mem_of_getElem? found.second
  rcases PairKey.ofTags_eq_ofTags_iff.mp same with ⟨straight, along⟩ | ⟨across, back⟩
  · rw [tell thirdMember firstMember straight, tell fourthMember secondMember along]
  · rw [tell thirdMember secondMember across, tell fourthMember firstMember back,
      material.firstOf_comm]

/-- Nothing is remembered of two particles that are not owned. -/
theorem get?_bondNear_of_ghosts (distinct : (assembly.particles.map Particle.tag).Nodup)
    {index other : Nat} (ghost : assembly.isOwned index = false)
    (otherGhost : assembly.isOwned other = false) (here : assembly.get? index = some first)
    (there : assembly.get? other = some second) :
    (material.bondNear assembly skin).2.get? (.ofTags first.tag second.tag) = none := by
  cases present : (material.bondNear assembly skin).2.get? (.ofTags first.tag second.tag) with
  | none => rfl
  | some record =>
      rcases material.exists_of_get?_bondNear distinct present with
        ⟨owner, _, third, fourth, found, same, -⟩
      have owned := found.owned
      have tags := PairKey.ofTags_eq_ofTags_iff.mp same
      have tag : third.tag = first.tag ∨ third.tag = second.tag :=
        tags.imp And.left And.left
      rcases tag with tag | tag
      · rw [Assembly.eq_of_tag distinct found.first here tag, ghost] at owned
        cases owned
      · rw [Assembly.eq_of_tag distinct found.first there tag, otherGhost] at owned
        cases owned

end Material

/-- The bonds of a ledger are those of the pairs within bonding distance that
have an owned particle, as they were formed.  Nothing is known of two
particles that are not owned. -/
structure Ledger.BondsReach (ledger : Ledger α) (material : Material α) (assembly : Assembly α) :
    Prop where
  bonded : ∀ index other first second, assembly.OwnedPair index other first second →
    ((∃ record, ledger.get? (.ofTags first.tag second.tag) = some record ∧
      record.bond = .bonded) ↔ material.Reaches first second)
  formed : ∀ index other first second record, assembly.OwnedPair index other first second →
    ledger.get? (.ofTags first.tag second.tag) = some record → record.bond = .bonded →
      record = material.newBond first second
  ghosts : ∀ index other first second, assembly.isOwned index = false →
    assembly.isOwned other = false → assembly.get? index = some first →
      assembly.get? other = some second → ledger.get? (.ofTags first.tag second.tag) = none

namespace Material

variable {material : Material α} {assembly : Assembly α} {skin : α}

/-- All that bonding needs to find every bond: tags that tell the particles
apart, positive radii, and a skin that is wider than any bond between two of the
particles can bridge. -/
structure Covers (material : Material α) (assembly : Assembly α) (skin : α) : Prop where
  distinct : (assembly.particles.map Particle.tag).Nodup
  positive : ∀ particle ∈ assembly.particles, 0 < particle.radius
  wide : assembly.particles.Pairwise fun first second =>
    (material.reach - 1) * min first.radius second.radius < skin

namespace Covers

variable {index other : Nat} {first second : Particle α}

theorem positive_first (covers : material.Covers assembly skin)
    (pair : assembly.OwnedPair index other first second) : 0 < first.radius :=
  covers.positive first (List.mem_of_getElem? pair.first)

theorem positive_second (covers : material.Covers assembly skin)
    (pair : assembly.OwnedPair index other first second) : 0 < second.radius :=
  covers.positive second (List.mem_of_getElem? pair.second)

theorem wide_pair (covers : material.Covers assembly skin)
    (pair : assembly.OwnedPair index other first second) :
    (material.reach - 1) * min first.radius second.radius < skin := by
  rcases List.getElem?_eq_some_iff.mp pair.first with ⟨inside, here⟩
  rcases List.getElem?_eq_some_iff.mp pair.second with ⟨otherInside, there⟩
  have wide := List.pairwise_iff_getElem.mp covers.wide
  rw [← here, ← there]
  rcases pair.different.lt_or_gt with before | after
  · exact wide index other inside otherInside before
  · rw [min_comm]
    exact wide other index otherInside inside after

/-- Bonding remembers the bond of every pair within bonding distance. -/
theorem get?_bondNear (covers : material.Covers assembly skin) (valid : material.validate = .ok ())
    (pair : assembly.OwnedPair index other first second)
    (reaches : material.Reaches first second) :
    (material.bondNear assembly skin).2.get? (.ofTags first.tag second.tag) =
      some (material.firstOf first second) :=
  material.get?_bondNear_of_near covers.distinct pair
    (reaches.isNear valid (covers.positive_first pair) (covers.positive_second pair)
      (covers.wide_pair pair))

/-- Bonding on the near pairs finds the bonds within reach. -/
theorem bondsReach (covers : material.Covers assembly skin) (valid : material.validate = .ok ()) :
    (material.bondNear assembly skin).2.BondsReach material assembly where
  bonded := by
    intro index other first second pair
    constructor
    · intro found
      rcases found with ⟨record, present, bond⟩
      rw [material.eq_firstOf_of_get?_bondNear covers.distinct pair present] at bond
      exact bond_firstOf_iff.mp bond
    · intro reaches
      exact ⟨_, covers.get?_bondNear valid pair reaches, bond_firstOf_iff.mpr reaches⟩
  formed := by
    intro index other first second record pair present bond
    have same := material.eq_firstOf_of_get?_bondNear covers.distinct pair present
    rw [same] at bond
    rw [same]
    exact firstOf_of_reaches valid (covers.positive_first pair) (covers.positive_second pair)
      (bond_firstOf_iff.mp bond)
  ghosts := by
    intro index other first second ghost otherGhost here there
    exact material.get?_bondNear_of_ghosts covers.distinct ghost otherGhost here there

/-- The bonding counts the bonds within reach. -/
theorem exactly_bonded (covers : material.Covers assembly skin)
    (valid : material.validate = .ok ()) :
    Exactly (material.bondNear assembly skin).1.bonded fun key =>
      ∃ index other first second, assembly.OwnedPair index other first second ∧
        PairKey.ofTags first.tag second.tag = key ∧ material.Reaches first second := by
  have once := NeighborList.nodup_keys_near assembly skin covers.distinct
  have counted : (material.bondNear assembly skin).1.bonded =
      (material.bondNear assembly skin).2.bondedCount :=
    material.bonded_foldl_bond once (⟨0, 0⟩, .empty) fun _ _ => rfl
  rw [counted]
  refine (Ledger.exactly_bondedCount _).congr fun key => ?_
  rw [Option.any_eq_true]
  constructor
  · intro found
    rcases found with ⟨index, other, first, second, pair, rfl, reaches⟩
    exact ⟨_, covers.get?_bondNear valid pair reaches,
      (ContactRecord.isCohesive_iff _).mpr (bond_firstOf_iff.mpr reaches)⟩
  · intro found
    rcases found with ⟨record, present, cohesive⟩
    rcases material.exists_of_get?_bondNear covers.distinct present with
      ⟨index, other, first, second, pair, same, rfl⟩
    exact ⟨index, other, first, second, pair, same,
      bond_firstOf_iff.mp ((ContactRecord.isCohesive_iff _).mp cohesive)⟩

end Covers

end Material

namespace Session

variable {σ : Type}

/-- Bonding finds exactly the pairs within bonding distance.  Take a session that
was set up and driven in whatever way, with a valid material, particles of
different tags and positive radii, and a skin that is wider than any bond between
two of them can bridge.  Once bonds are formed on its near pairs, an owned
particle and any other one have a bond exactly when they are within bonding
distance; a bond is as it was formed, with the gap and the limit of its pair; and
two particles that are not owned have no record.  The report counts these bonds,
and every pair of the list. -/
theorem bonded_within_reach {material : Material α} (valid : material.validate = .ok ())
    (table : PairTable) (assembly : Assembly α) (transport : σ) (actions : List (Action σ α)) :
    let session := Session.run ⟨.start material table, assembly, transport⟩ actions
    ∀ skin report, material.Covers session.assembly skin →
      (session.formBonds (.near session.assembly skin)).1 = .ok report →
      let after := (session.formBonds (.near session.assembly skin)).2
      after.interaction.ledger.BondsReach material session.assembly ∧
        Exactly report.bonded (fun key =>
          ∃ index other first second, session.assembly.OwnedPair index other first second ∧
            PairKey.ofTags first.tag second.tag = key ∧ material.Reaches first second) ∧
        report.bonded + report.unbonded =
          (NeighborList.near session.assembly skin).pairCount := by
  intro session skin report covers accepted after
  rcases session.formBonds_cases (.near session.assembly skin) with
    ⟨fault, refused⟩ | ⟨unbonded, -, formed⟩
  · rw [refused] at accepted
    cases accepted
  · have pristine := pristine_run material table assembly transport actions unbonded
    simp only [session] at formed
    rw [pristine.1, pristine.2.1] at formed
    have ledger : after.interaction.ledger = (material.bondNear session.assembly skin).2 :=
      congrArg (fun result => result.2.interaction.ledger) formed
    have counts : report = (material.bondNear session.assembly skin).1 :=
      Except.ok.inj (accepted.symm.trans (congrArg Prod.fst formed))
    rw [ledger, counts]
    exact ⟨covers.bondsReach valid, covers.exactly_bonded valid,
      Material.total_bondNear material session.assembly skin⟩

/-- Two spheres that overlap, and the replica of a third one at some place. -/
noncomputable def besideReplica (place : ℝ) : Assembly ℝ :=
  .ofGhosts [.atRest ⟨1⟩ 0 1 1, .atRest ⟨2⟩ ⟨1, 0, 0⟩ 1 1] [.atRest ⟨3⟩ ⟨place, 0, 0⟩ 1 1]

theorem covers_besideReplica (place : ℝ) :
    (Material.standard : Material ℝ).Covers (besideReplica place) (1 / 2) where
  distinct := by
    change [(⟨1⟩ : Tag), ⟨2⟩, ⟨3⟩].Nodup
    decide
  positive := by simp [besideReplica, Assembly.ofGhosts, Particle.atRest]
  wide := by
    refine List.pairwise_of_forall fun first second => ?_
    change (1 - 1) * min first.radius second.radius < (1 / 2 : ℝ)
    norm_num

/-- The spheres that overlap bond, and the replica is too far for a bond. -/
theorem bonded_within_reach_besideReplica :
    let session := settled ⟨besideReplica 4, .empty, .serial, ()⟩ false
    let result := session.formBonds (.near session.assembly (1 / 2))
    ∃ report, result.1 = .ok report ∧
      (∃ record, result.2.interaction.ledger.get? (.ofTags ⟨1⟩ ⟨2⟩) = some record ∧
        record.bond = .bonded) ∧
      ¬∃ record, result.2.interaction.ledger.get? (.ofTags ⟨2⟩ ⟨3⟩) = some record ∧
        record.bond = .bonded := by
  intro session result
  have ready := (settled_isReady ⟨besideReplica 4, .empty, .serial, ()⟩ rfl
    (by simp [besideReplica, Assembly.ofGhosts, Assembly.owned, Particle.atRest]) false).1
  have placed : session.assembly = besideReplica 4 := by
    simp only [session, settled, run_cons, run_nil, perform, setUp]
    split <;> rfl
  have fits := NeighborList.near_fits session.assembly (1 / 2)
  have formed := session.formBonds_of_check ready.timestep ready.unbonded fits.check
  have covers : Material.standard.Covers session.assembly (1 / 2) :=
    placed ▸ covers_besideReplica 4
  have bonds := (bonded_within_reach Material.validate_standard ⟨1, #[true]⟩ (besideReplica 4) ()
    [.setUp (.serial : Exchange Unit ℝ) ⟨1, false, true⟩] (1 / 2) _ covers
    (congrArg Prod.fst formed)).1.bonded
  have overlapping : session.assembly.OwnedPair 0 1 (.atRest ⟨1⟩ 0 1 1)
      (.atRest ⟨2⟩ ⟨1, 0, 0⟩ 1 1) := by
    rw [placed]
    exact ⟨rfl, by decide, rfl, rfl⟩
  have apart : session.assembly.OwnedPair 1 2 (.atRest ⟨2⟩ ⟨1, 0, 0⟩ 1 1)
      (.atRest ⟨3⟩ ⟨4, 0, 0⟩ 1 1) := by
    rw [placed]
    exact ⟨rfl, by decide, rfl, rfl⟩
  refine ⟨_, congrArg Prod.fst formed, (bonds 0 1 _ _ overlapping).mpr ?_, fun bond => ?_⟩
  · change Real.sqrt ((0 - 1) * (0 - 1) + (0 - 0) * (0 - 0) + (0 - 0) * (0 - 0)) ≤
      1 + 1 + (1 - 1) * min 1 1
    norm_num
  · have reaches : Real.sqrt ((1 - 4) * (1 - 4) + (0 - 0) * (0 - 0) + (0 - 0) * (0 - 0)) ≤
        1 + 1 + (1 - 1) * min 1 1 :=
      (bonds 1 2 _ _ apart).mp bond
    norm_num at reaches

end Session

end GranularBonds

import Mathlib
import GranularBonds.Proofs.Bonding
import GranularBonds.Proofs.Contact.PassSum

/-!
# Replicas

Two workers can meet the same pair, each with replicas in place of particles
that it does not own, at positions of its own and possibly from opposite
sides.  In exact arithmetic both leave the same record and agree on what the
pair adds to either particle.  A worker that meets exactly the pairs of its own
particles therefore comes to the same records of these pairs, and to the same
loads of these particles, as a worker that meets all pairs.
-/

namespace GranularBonds

namespace PairKey

/-- A key names its two tags without their order. -/
theorem ofTags_eq_ofTags_iff {first second third fourth : Tag} :
    ofTags first second = ofTags third fourth ↔
      first = third ∧ second = fourth ∨ first = fourth ∧ second = third := by
  rcases first with ⟨a⟩
  rcases second with ⟨b⟩
  rcases third with ⟨c⟩
  rcases fourth with ⟨d⟩
  simp only [ofTags, oriented, Tag.le_iff, Tag.mk.injEq]
  split <;> split <;> simp only [PairKey.mk.injEq, Tag.mk.injEq] <;> omega

/-- Whether a pair has a particle that is owned. -/
def involves (owns : Tag → Bool) (key : PairKey) : Bool := owns key.low || owns key.high

theorem involves_ofTags (owns : Tag → Bool) (first second : Tag) :
    (ofTags first second).involves owns = (owns first || owns second) := by
  simp only [ofTags, oriented]
  split
  · rfl
  · exact Bool.or_comm ..

end PairKey

/-- One particle is a replica of another: it has the same tag and is the same
in all that the force law reads. -/
structure Particle.Replicates {α : Type} (replica original : Particle α) : Prop where
  tag : replica.tag = original.tag
  position : replica.position = original.position
  velocity : replica.velocity = original.velocity
  spin : replica.spin = original.spin
  radius : replica.radius = original.radius
  mass : replica.mass = original.mass
  frozen : replica.frozen = original.frozen

namespace Particle.Replicates

variable {α : Type}

theorem refl (particle : Particle α) : particle.Replicates particle :=
  ⟨rfl, rfl, rfl, rfl, rfl, rfl, rfl⟩

/-- Loads are no part of a replica. -/
theorem cleared [Scalar α] {replica original : Particle α}
    (replicates : replica.Replicates original) : replica.cleared.Replicates original.cleared :=
  ⟨replicates.tag, replicates.position, replicates.velocity, replicates.spin,
    replicates.radius, replicates.mass, replicates.frozen⟩

end Particle.Replicates

variable {α : Type} [ExactScalar α]

/-- Two passes follow the same law, without rigid bodies. -/
structure PassContext.Agrees (context other : PassContext α) : Prop where
  material : context.material = other.material
  timestep : context.timestep = other.timestep
  free : context.bodies = none
  otherFree : other.bodies = none

/-! ## One pair met twice -/

namespace Material

variable (material : Material α)

theorem bondDistance_comm (first second : α) :
    material.bondDistance second first = material.bondDistance first second := by
  rw [bondDistance, bondDistance, add_comm second first, Scalar.minimum_comm second first]

/-- Bonding does not depend on the side. -/
theorem firstRecord_comm (first second distance : α) :
    material.firstRecord second first distance = material.firstRecord first second distance := by
  rw [firstRecord, firstRecord, material.bondDistance_comm, add_comm second first,
    Scalar.minimum_comm second first]

end Material

namespace Encounter

omit [ExactScalar α] in
/-- Both particles of an encounter are replicas of those of another one. -/
def Straight (encounter other : Encounter α) : Prop :=
  encounter.firstParticle.Replicates other.firstParticle ∧
    encounter.secondParticle.Replicates other.secondParticle

/-- Two encounters are of the same pair, seen from the same side, or from
opposite ones where sides can be exchanged. -/
def Matches (encounter other : Encounter α) : Prop :=
  encounter.Straight other ∨ encounter.Straight other.swapped ∧ other.Reversible none

/-- What an encounter adds to the force and the torque of the particle with a
given tag. -/
def pull (encounter : Encounter α) (outcome : Outcome α) (tag : Tag) : Vec3 α × Vec3 α :=
  match outcome with
  | .contact force =>
      (if encounter.firstParticle.tag = tag then (force.force, force.firstTorque) else 0) +
        (if encounter.secondParticle.tag = tag then (-force.force, force.secondTorque) else 0)
  | _ => 0

/-- From the other side a pair adds the same to the same particles. -/
theorem pull_swapped (encounter : Encounter α) (outcome : Outcome α) (tag : Tag) :
    encounter.swapped.pull outcome.mirrored tag = encounter.pull outcome tag := by
  cases outcome with
  | separated | torn | coincident => rfl
  | contact force =>
      simp only [pull, swapped, Outcome.mirrored, ContactForce.mirrored, neg_neg]
      exact add_comm _ _

/-- A pair adds nothing to other particles. -/
theorem pull_eq_zero {encounter : Encounter α} {tag : Tag}
    (first : encounter.firstParticle.tag ≠ tag) (second : encounter.secondParticle.tag ≠ tag)
    (outcome : Outcome α) : encounter.pull outcome tag = 0 := by
  cases outcome with
  | separated | torn | coincident => rfl
  | contact force => simp only [pull, if_neg first, if_neg second, add_zero]

namespace Straight

variable {encounter other : Encounter α} {context otherContext : PassContext α}

theorem evaluate (straight : encounter.Straight other) (agrees : context.Agrees otherContext)
    (record : ContactRecord α) :
    encounter.evaluate context record = other.evaluate otherContext record := by
  rcases straight with ⟨first, second⟩
  have kinematics : encounter.kinematics context.bodies =
      other.kinematics otherContext.bodies := by
    simp only [Encounter.kinematics, Kinematics.ofParticles, Particle.contactMass, agrees.free,
      agrees.otherFree, first.position, first.velocity, first.spin, first.radius, first.mass,
      first.frozen, second.position, second.velocity, second.spin, second.radius, second.mass,
      second.frozen, Option.bind_none]
  have flipped : encounter.flipped = other.flipped := by
    simp only [Encounter.flipped, first.tag, second.tag]
  simp only [Encounter.evaluate, agrees.material, agrees.timestep, kinematics, flipped]

theorem pull (straight : encounter.Straight other) (outcome : Outcome α) :
    encounter.pull outcome = other.pull outcome := by
  funext tag
  cases outcome with
  | separated | torn | coincident => rfl
  | contact force => simp only [Encounter.pull, straight.1.tag, straight.2.tag]

theorem firstRecord (straight : encounter.Straight other) (material : Material α) :
    encounter.firstRecord material = other.firstRecord material := by
  rcases straight with ⟨first, second⟩
  simp only [Encounter.firstRecord, first.radius, second.radius, first.position, second.position]

end Straight

theorem firstRecord_swapped (encounter : Encounter α) (material : Material α) :
    encounter.swapped.firstRecord material = encounter.firstRecord material := by
  simp only [firstRecord, swapped]
  rw [material.firstRecord_comm, ← Vec3.norm_neg, neg_sub]

namespace Matches

variable {encounter other : Encounter α} {context otherContext : PassContext α}

/-- Both workers leave the same record of a pair, and agree on what it adds to
its particles. -/
theorem evaluate (same : encounter.Matches other) (agrees : context.Agrees otherContext)
    (record : ContactRecord α) :
    (encounter.evaluate context record).2 = (other.evaluate otherContext record).2 ∧
      encounter.pull (encounter.evaluate context record).1 =
        other.pull (other.evaluate otherContext record).1 := by
  rcases same with straight | ⟨crossed, reversible⟩
  · rw [straight.evaluate agrees, straight.pull]
    exact ⟨rfl, rfl⟩
  · have turned := evaluate_swapped otherContext (agrees.otherFree ▸ reversible) record
    rw [crossed.evaluate agrees, crossed.pull, turned]
    exact ⟨rfl, funext fun tag => other.pull_swapped _ tag⟩

theorem firstRecord (same : encounter.Matches other) (material : Material α) :
    encounter.firstRecord material = other.firstRecord material := by
  rcases same with straight | ⟨crossed, -⟩
  · exact straight.firstRecord material
  · rw [crossed.firstRecord, other.firstRecord_swapped]

end Matches

/-! ## The pairs of a worker -/

/-- Of a list of encounters without repetition another worker has exactly those
with a particle that it owns, in an order of its own and as it sees them. -/
structure PartOf (owns : Tag → Bool) (part whole : List (Encounter α)) : Prop where
  keys : (part.map key).Perm ((whole.map key).filter (PairKey.involves owns))
  distinct : (whole.map key).Nodup
  same : ∀ encounter ∈ part, ∀ other ∈ whole, encounter.key = other.key → encounter.Matches other

omit [ExactScalar α] in
/-- Lists with the same keys have the same images under functions that agree
where the keys do. -/
theorem perm_map_of_keys {β : Type} {part chosen : List (Encounter α)}
    (keys : (part.map key).Perm (chosen.map key)) (image other : Encounter α → β)
    (agree : ∀ encounter ∈ part, ∀ partner ∈ chosen, encounter.key = partner.key →
      image encounter = other partner) :
    (part.map image).Perm (chosen.map other) := by
  induction part generalizing chosen with
  | nil =>
      have empty : chosen = [] := List.map_eq_nil_iff.mp (List.nil_perm.mp keys)
      rw [empty]
      exact .refl _
  | cons encounter later ih =>
      have here := (List.forall_mem_cons.mp agree).1
      have agree := (List.forall_mem_cons.mp agree).2
      have listed : encounter.key ∈ chosen.map key := keys.subset List.mem_cons_self
      rcases List.mem_map.mp listed with ⟨partner, member, same⟩
      rcases List.append_of_mem member with ⟨before, after, rfl⟩
      have middle : (before ++ partner :: after).Perm (partner :: (before ++ after)) :=
        List.perm_middle
      have rest : (later.map key).Perm ((before ++ after).map key) := by
        have both := keys.trans (middle.map key)
        rw [List.map_cons, List.map_cons, same] at both
        exact both.cons_inv
      refine List.Perm.trans ?_ (middle.map other).symm
      rw [List.map_cons, List.map_cons, here partner member same.symm]
      apply List.Perm.cons
      apply ih rest
      intro found foundMember candidate candidateMember
      exact agree found foundMember candidate
        (middle.symm.subset (List.mem_cons_of_mem _ candidateMember))

namespace PartOf

variable {owns : Tag → Bool} {part whole : List (Encounter α)}

theorem distinct_part (parts : PartOf owns part whole) : (part.map key).Nodup :=
  parts.keys.nodup_iff.mpr (parts.distinct.filter _)

theorem mem_keys_iff (parts : PartOf owns part whole) {key : PairKey}
    (involved : key.involves owns = true) :
    key ∈ part.map Encounter.key ↔ key ∈ whole.map Encounter.key := by
  rw [parts.keys.mem_iff, List.mem_filter]
  simp only [involved, and_true]

theorem involves_of_mem (parts : PartOf owns part whole) {encounter : Encounter α}
    (member : encounter ∈ part) : encounter.key.involves owns = true := by
  have listed := parts.keys.subset (List.mem_map_of_mem member)
  exact (List.mem_filter.mp listed).2

/-- Records of the pairs involved stay equal if equal ones are put under the
same keys. -/
theorem get?_foldl_insert (parts : PartOf owns part whole) {ledger other : Ledger α}
    {key : PairKey} (involved : key.involves owns = true)
    (known : ledger.get? key = other.get? key) {results others : Encounter α → ContactRecord α}
    (agree : ∀ encounter ∈ part, ∀ partner ∈ whole, encounter.key = partner.key →
      results encounter = others partner) :
    (part.foldl (fun ledger encounter => ledger.insert encounter.key (results encounter))
        ledger).get? key =
      (whole.foldl (fun ledger encounter => ledger.insert encounter.key (others encounter))
        other).get? key := by
  rcases Ledger.get?_foldl_insert ledger results parts.distinct_part with ⟨partListed, partUnlisted⟩
  rcases Ledger.get?_foldl_insert other others parts.distinct with ⟨wholeListed, wholeUnlisted⟩
  by_cases listed : key ∈ part.map Encounter.key
  · rcases List.mem_map.mp listed with ⟨encounter, member, rfl⟩
    rcases List.mem_map.mp ((parts.mem_keys_iff involved).mp listed) with
      ⟨partner, partnerMember, same⟩
    rw [partListed encounter member, ← same, wholeListed partner partnerMember,
      agree encounter member partner partnerMember same.symm]
  · have absent : key ∉ whole.map Encounter.key := mt (parts.mem_keys_iff involved).mpr listed
    rw [partUnlisted key fun encounter member same =>
        listed (List.mem_map.mpr ⟨encounter, member, same⟩),
      wholeUnlisted key fun encounter member same =>
        absent (List.mem_map.mpr ⟨encounter, member, same⟩), known]

/-- What all pairs add to an owned particle is what the worker's pairs add to
it. -/
theorem sum_pull (parts : PartOf owns part whole) {outcomes others : Encounter α → Outcome α}
    (agree : ∀ encounter ∈ part, ∀ partner ∈ whole, encounter.key = partner.key →
      encounter.pull (outcomes encounter) = partner.pull (others partner))
    {tag : Tag} (owned : owns tag = true) :
    (part.map fun encounter => encounter.pull (outcomes encounter) tag).sum =
      (whole.map fun encounter => encounter.pull (others encounter) tag).sum := by
  have keys : (part.map key).Perm
      ((whole.filter fun encounter => encounter.key.involves owns).map key) := by
    have filtered := parts.keys
    rwa [List.filter_map] at filtered
  have images := perm_map_of_keys keys
    (fun encounter => encounter.pull (outcomes encounter) tag)
    (fun encounter => encounter.pull (others encounter) tag)
    fun encounter member partner partnerMember same =>
      congrFun (agree encounter member partner (List.mem_filter.mp partnerMember).1 same) tag
  -- The pairs that are left out have no particle that is owned.
  have outside : ((whole.filter fun encounter => ¬encounter.key.involves owns = true).map
      fun encounter => encounter.pull (others encounter) tag).sum = 0 := by
    apply List.sum_eq_zero
    intro added summand
    rcases List.mem_map.mp summand with ⟨encounter, member, rfl⟩
    have uninvolved := (List.mem_filter.mp member).2
    simp only [key, PairKey.involves_ofTags, Bool.or_eq_true, not_or, decide_eq_true_eq]
      at uninvolved
    apply pull_eq_zero
    · intro same
      subst same
      exact uninvolved.1 owned
    · intro same
      subst same
      exact uninvolved.2 owned
  have split := List.sum_map_filter_add_sum_map_filter_not
    (fun encounter : Encounter α => encounter.key.involves owns = true)
    (fun encounter => encounter.pull (others encounter) tag) whole
  rw [outside, add_zero] at split
  rw [images.sum_eq, ← split]
  simp only [Bool.decide_eq_true]

/-- If all that is known about the pairs involved is the same, a pass does the
same with them. -/
theorem result (parts : PartOf owns part whole) {context otherContext : PassContext α}
    (agrees : context.Agrees otherContext) {ledger otherLedger : Ledger α}
    (known : ∀ key, key.involves owns = true → ledger.get? key = otherLedger.get? key)
    (encounter : Encounter α) (member : encounter ∈ part) (partner : Encounter α)
    (partnerMember : partner ∈ whole) (same : encounter.key = partner.key) :
    (context.result ledger encounter).2 = (otherContext.result otherLedger partner).2 ∧
      encounter.pull (context.result ledger encounter).1 =
        partner.pull (otherContext.result otherLedger partner).1 := by
  have record : ledger.getOrFresh encounter.key = otherLedger.getOrFresh partner.key := by
    rw [Ledger.getOrFresh, known _ (parts.involves_of_mem member), same, Ledger.getOrFresh]
  simp only [PassContext.result, record]
  exact (parts.same encounter member partner partnerMember same).evaluate agrees _

end PartOf

end Encounter

/-! ## Loads of owned particles -/

namespace Assembly

omit [ExactScalar α] in
/-- The replicas of particles that other workers own. -/
def ghosts (assembly : Assembly α) : List (Particle α) :=
  assembly.particles.drop assembly.ownedCount

omit [ExactScalar α] in
/-- No other particle has the tag of an owned one. -/
def Distinct (assembly : Assembly α) : Prop :=
  ∀ index other particle partner, assembly.isOwned index = true →
    assembly.get? index = some particle → assembly.get? other = some partner →
      partner.tag = particle.tag → other = index

omit [ExactScalar α] in
theorem getElem?_owned (assembly : Assembly α) (index : Nat) :
    assembly.owned[index]? = if assembly.isOwned index then assembly.get? index else none := by
  simp only [owned, List.getElem?_take, isOwned, decide_eq_true_eq, get?]

omit [ExactScalar α] in
theorem getElem?_ghosts (assembly : Assembly α) (index : Nat) :
    assembly.ghosts[index]? = assembly.get? (assembly.ownedCount + index) :=
  List.getElem?_drop

omit [ExactScalar α] in
/-- Particles with different tags are told apart by their tags. -/
theorem eq_of_tag {particles : List (Particle α)} (distinct : (particles.map Particle.tag).Nodup)
    {index other : Nat} {particle partner : Particle α} (here : particles[index]? = some particle)
    (there : particles[other]? = some partner) (same : particle.tag = partner.tag) :
    index = other := by
  have tagHere : (particles.map Particle.tag)[index]? = some particle.tag := by
    rw [List.getElem?_map, here, Option.map_some]
  have tagThere : (particles.map Particle.tag)[other]? = some particle.tag := by
    rw [List.getElem?_map, there, Option.map_some, same]
  have bound : index < (particles.map Particle.tag).length :=
    (List.getElem?_eq_some_iff.mp tagHere).1
  exact (List.getElem?_inj bound distinct).mp (tagHere.trans tagThere.symm)

omit [ExactScalar α] in
theorem distinct_of_nodup {assembly : Assembly α} (nodup : (assembly.owned.map Particle.tag).Nodup)
    (apart : ∀ ghost ∈ assembly.ghosts, ∀ particle ∈ assembly.owned, ghost.tag ≠ particle.tag) :
    assembly.Distinct := by
  intro index other particle partner inside here there same
  have here : assembly.owned[index]? = some particle := by rwa [getElem?_owned, if_pos inside]
  cases otherInside : assembly.isOwned other with
  | true =>
      have there : assembly.owned[other]? = some partner := by
        rwa [getElem?_owned, if_pos otherInside]
      exact eq_of_tag nodup there here same
  | false =>
      simp only [isOwned, decide_eq_false_iff_not, Nat.not_lt] at otherInside
      have ghost : partner ∈ assembly.ghosts := by
        rw [List.mem_iff_getElem?]
        refine ⟨other - assembly.ownedCount, ?_⟩
        rw [getElem?_ghosts, Nat.add_sub_cancel' otherInside, there]
      exfalso
      apply apart partner ghost particle
      · exact List.mem_of_getElem? here
      · exact same

end Assembly

namespace NeighborList

/-- The particles of an encounter are those at its positions. -/
theorem particles_of_mem {list : NeighborList} {assembly : Assembly α} {encounter : Encounter α}
    (member : encounter ∈ list.encounters assembly) :
    ∃ first second, assembly.get? encounter.first = some first ∧
      assembly.get? encounter.second = some second ∧
      encounter.firstParticle = first.cleared ∧ encounter.secondParticle = second.cleared := by
  rcases List.mem_filterMap.mp member with ⟨pair, -, met⟩
  rcases Encounter.at?_eq_some_iff.mp met with ⟨first, second, firstHere, secondHere, rfl⟩
  exact ⟨first, second, firstHere, secondHere, rfl, rfl⟩

end NeighborList

namespace PassContext

variable (context : PassContext α) {assembly : Assembly α} {list : NeighborList}

/-- What an encounter adds at the position of an owned particle is what it adds
to the particle of this tag. -/
theorem share_eq_pull (distinct : assembly.Distinct) {encounter : Encounter α}
    (member : encounter ∈ list.encounters assembly) {index : Nat} {particle : Particle α}
    (owned : assembly.isOwned index = true) (here : assembly.get? index = some particle)
    (outcome : Outcome α) :
    context.share assembly encounter outcome index = encounter.pull outcome particle.tag := by
  rcases NeighborList.particles_of_mem member with
    ⟨first, second, firstHere, secondHere, firstSame, secondSame⟩
  have firstTag : encounter.firstParticle.tag = first.tag := (congrArg Particle.tag firstSame :)
  have secondTag : encounter.secondParticle.tag = second.tag := (congrArg Particle.tag secondSame :)
  have firstIff : encounter.first = index ↔ encounter.firstParticle.tag = particle.tag := by
    rw [firstTag]
    constructor
    · intro same
      subst same
      rw [Option.some.inj (here.symm.trans firstHere)]
    · exact distinct index _ _ _ owned here firstHere
  have secondIff : encounter.second = index ↔ encounter.secondParticle.tag = particle.tag := by
    rw [secondTag]
    constructor
    · intro same
      subst same
      rw [Option.some.inj (here.symm.trans secondHere)]
    · exact distinct index _ _ _ owned here secondHere
  have secondOwned : (encounter.second = index ∧
      (context.loadsBoth || assembly.isOwned encounter.second) = true) ↔
        encounter.secondParticle.tag = particle.tag := by
    rw [← secondIff]
    constructor
    · exact And.left
    · intro same
      subst same
      exact ⟨rfl, by rw [owned, Bool.or_true]⟩
  cases outcome with
  | separated | torn | coincident => rfl
  | contact force => simp only [share, Encounter.pull, firstIff, secondOwned]

theorem ownedCount_foldl_load (outcomes : Encounter α → Outcome α)
    (encounters : List (Encounter α)) :
    (encounters.foldl
        (fun assembly encounter =>
          context.load assembly encounter.first encounter.second (outcomes encounter))
        assembly).ownedCount = assembly.ownedCount :=
  (congrArg Assembly.ownedCount (context.cleared_foldl_load outcomes encounters assembly) :)

/-- The loads of owned particles after a pass. -/
theorem owned_foldl_load (distinct : assembly.Distinct) (outcomes : Encounter α → Outcome α) :
    ((list.encounters assembly).foldl
        (fun assembly encounter =>
          context.load assembly encounter.first encounter.second (outcomes encounter))
        assembly).owned =
      assembly.owned.map fun particle =>
        let added := ((list.encounters assembly).map fun encounter =>
          encounter.pull (outcomes encounter) particle.tag).sum
        particle.loaded added.1 added.2 := by
  apply List.ext_getElem?
  intro index
  have ownedAfter : Assembly.isOwned _ index = assembly.isOwned index :=
    congrArg (fun count => decide (index < count))
      (context.ownedCount_foldl_load outcomes (list.encounters assembly))
  rw [List.getElem?_map, Assembly.getElem?_owned, Assembly.getElem?_owned, ownedAfter,
    context.get?_foldl_load outcomes]
  cases inside : assembly.isOwned index with
  | false => rfl
  | true =>
      cases here : assembly.get? index with
      | none => simp
      | some particle =>
          have shares : ∀ encounter ∈ list.encounters assembly,
              context.share assembly encounter (outcomes encounter) index =
                encounter.pull (outcomes encounter) particle.tag := by
            intro encounter member
            exact context.share_eq_pull distinct member inside here _
          rw [List.map_congr_left shares]
          rfl

/-- A worker that loads only what it owns, and meets every pair with an owned
particle first, leaves its ghosts alone. -/
theorem ghosts_foldl_load (single : context.loadsBoth = false) {encounters : List (Encounter α)}
    (ownedFirst : ∀ encounter ∈ encounters, assembly.isOwned encounter.first = true)
    (outcomes : Encounter α → Outcome α) :
    (encounters.foldl
        (fun assembly encounter =>
          context.load assembly encounter.first encounter.second (outcomes encounter))
        assembly).ghosts = assembly.ghosts := by
  apply List.ext_getElem?
  intro index
  rw [Assembly.getElem?_ghosts, Assembly.getElem?_ghosts, ownedCount_foldl_load,
    context.get?_foldl_load outcomes]
  have outside : assembly.isOwned (assembly.ownedCount + index) = false := by
    simp [Assembly.isOwned]
  have unloaded : ∀ encounter ∈ encounters,
      context.share assembly encounter (outcomes encounter) (assembly.ownedCount + index) = 0 := by
    intro encounter member
    have first : encounter.first ≠ assembly.ownedCount + index := by
      intro same
      have owned := ownedFirst encounter member
      rw [same, outside] at owned
      cases owned
    have second : ¬(encounter.second = assembly.ownedCount + index ∧
        (context.loadsBoth || assembly.isOwned encounter.second) = true) := by
      intro found
      rcases found with ⟨same, loaded⟩
      rw [single, same, outside] at loaded
      cases loaded
    cases outcomes encounter with
    | separated | torn | coincident => rfl
    | contact force => simp only [share, if_neg first, if_neg second, add_zero]
  rw [List.map_congr_left unloaded]
  simp [Particle.loaded_zero]

end PassContext

end GranularBonds

import Mathlib
import GranularBonds.Proofs.Contact.Replica
import GranularBonds.Proofs.Session.Course

/-!
# Decomposition of the domain

The particles of a run can be divided among workers, each of which follows the
pairs of its own particles and sees replicas of the others.  A pair whose
particles belong to two workers is then evaluated twice, by each of them from
its own side and with a record of its own.  Main statement: in exact arithmetic
every worker comes to the records and the loads of a run in which one worker
has all particles.
-/

namespace GranularBonds

namespace View

variable {σ α : Type} [ExactScalar α]

/-- The view of a worker that has all particles: their tags are distinct, every
pair is listed once at most, and two frozen partners do not differ in mass. -/
structure IsWhole (whole : View σ α) : Prop where
  alone : whole.assembly.ghosts = []
  tags : (whole.assembly.owned.map Particle.tag).Nodup
  fits : whole.list.Fits whole.assembly
  once : (whole.encounters.map Encounter.key).Nodup
  anchored : ∀ encounter ∈ whole.encounters, encounter.firstParticle.frozen = true →
    encounter.secondParticle.frozen = true →
      encounter.firstParticle.mass = encounter.secondParticle.mass

/-- The view of a worker that owns some of the particles: its ghosts are
replicas of others, and its list has exactly the pairs with a particle that it
owns, each once and with an owned particle first. -/
structure IsPart (owns : Tag → Bool) (part whole : View σ α) : Prop where
  owned : part.assembly.owned.Perm
    (whole.assembly.owned.filter fun particle => owns particle.tag)
  ghosts : ∀ ghost ∈ part.assembly.ghosts, owns ghost.tag = false ∧
    ∃ original ∈ whole.assembly.owned, ghost.Replicates original
  fits : part.list.Fits part.assembly
  listed : (part.encounters.map Encounter.key).Perm
    ((whole.encounters.map Encounter.key).filter (PairKey.involves owns))
  ownedFirst : ∀ encounter ∈ part.encounters, part.assembly.isOwned encounter.first = true

variable {owns : Tag → Bool} {part whole : View σ α}

omit [ExactScalar α] in
theorem mem_owned_or_ghosts {assembly : Assembly α} {index : Nat} {particle : Particle α}
    (here : assembly.get? index = some particle) :
    particle ∈ assembly.owned ∨ particle ∈ assembly.ghosts := by
  have member : particle ∈ assembly.owned ++ assembly.ghosts := by
    rw [Assembly.owned, Assembly.ghosts, List.take_append_drop]
    exact List.mem_of_getElem? here
  exact List.mem_append.mp member

namespace IsWhole

theorem distinct (isWhole : whole.IsWhole) : whole.assembly.Distinct := by
  apply Assembly.distinct_of_nodup isWhole.tags
  rw [isWhole.alone]
  exact List.forall_mem_nil _

/-- The particles of an encounter are among those of the run. -/
theorem particles_of_mem (isWhole : whole.IsWhole) {encounter : Encounter α}
    (member : encounter ∈ whole.encounters) :
    (∃ particle ∈ whole.assembly.owned, encounter.firstParticle = particle.cleared) ∧
      ∃ particle ∈ whole.assembly.owned, encounter.secondParticle = particle.cleared := by
  rcases NeighborList.particles_of_mem member with
    ⟨first, second, firstHere, secondHere, firstSame, secondSame⟩
  have present : ∀ {index particle}, whole.assembly.get? index = some particle →
      particle ∈ whole.assembly.owned := by
    intro index particle here
    rcases mem_owned_or_ghosts here with owned | ghost
    · exact owned
    · rw [isWhole.alone] at ghost
      cases ghost
  exact ⟨⟨first, present firstHere, firstSame⟩, ⟨second, present secondHere, secondSame⟩⟩

/-- Frozen or not, the pairs of a run can be seen from both sides. -/
theorem reversible (isWhole : whole.IsWhole) {encounter : Encounter α}
    (member : encounter ∈ whole.encounters)
    (different : encounter.firstParticle.tag ≠ encounter.secondParticle.tag) :
    encounter.Reversible none :=
  ⟨different, isWhole.anchored encounter member⟩

end IsWhole

namespace IsPart

theorem distinct (isPart : part.IsPart owns whole) (isWhole : whole.IsWhole) :
    part.assembly.Distinct := by
  have tags := isPart.owned.map Particle.tag
  apply Assembly.distinct_of_nodup
  · rw [tags.nodup_iff]
    exact isWhole.tags.sublist (List.filter_sublist.map Particle.tag)
  · intro ghost ghostMember particle member same
    have foreign := (isPart.ghosts ghost ghostMember).1
    have own := (List.mem_filter.mp (isPart.owned.subset member)).2
    rw [same, own] at foreign
    cases foreign

/-- Every particle of a part replicates one of the run. -/
theorem exists_original (isPart : part.IsPart owns whole) {index : Nat} {particle : Particle α}
    (here : part.assembly.get? index = some particle) :
    ∃ original ∈ whole.assembly.owned, particle.Replicates original := by
  rcases mem_owned_or_ghosts here with owned | ghost
  · exact ⟨particle, (List.mem_filter.mp (isPart.owned.subset owned)).1, .refl particle⟩
  · exact (isPart.ghosts particle ghost).2

/-- A worker meets the pairs of its own particles as the whole run does. -/
theorem partOf (isPart : part.IsPart owns whole) (isWhole : whole.IsWhole) :
    Encounter.PartOf owns part.encounters whole.encounters where
  keys := isPart.listed
  distinct := isWhole.once
  same := by
    intro encounter member other otherMember same
    rcases NeighborList.particles_of_mem member with
      ⟨first, second, firstHere, secondHere, firstSame, secondSame⟩
    rcases isWhole.particles_of_mem otherMember with
      ⟨⟨otherFirst, otherFirstMember, otherFirstSame⟩,
        ⟨otherSecond, otherSecondMember, otherSecondSame⟩⟩
    -- A replica and a particle of the run belong together when their tags do.
    have replicates : ∀ {index particle candidate}, part.assembly.get? index = some particle →
        candidate ∈ whole.assembly.owned → particle.tag = candidate.tag →
          particle.cleared.Replicates candidate.cleared := by
      intro index particle candidate here candidateMember tags
      rcases isPart.exists_original here with ⟨original, originalMember, replica⟩
      have equal : original = candidate :=
        List.inj_on_of_nodup_map isWhole.tags originalMember candidateMember
          (replica.tag.symm.trans tags)
      exact equal ▸ replica.cleared
    have keys := PairKey.ofTags_eq_ofTags_iff.mp same
    have reversible := isWhole.reversible otherMember
    simp only [Encounter.Matches, Encounter.Straight, Encounter.swapped]
    rw [firstSame, secondSame, otherFirstSame, otherSecondSame] at keys ⊢
    rw [otherFirstSame, otherSecondSame] at reversible
    rcases keys with ⟨firstTag, secondTag⟩ | ⟨firstTag, secondTag⟩
    · exact .inl ⟨replicates firstHere otherFirstMember firstTag,
        replicates secondHere otherSecondMember secondTag⟩
    · by_cases single : otherFirst.tag = otherSecond.tag
      · exact .inl ⟨replicates firstHere otherFirstMember (firstTag.trans single.symm),
          replicates secondHere otherSecondMember (secondTag.trans single)⟩
      · exact .inr ⟨⟨replicates firstHere otherSecondMember firstTag,
          replicates secondHere otherFirstMember secondTag⟩, reversible single⟩

end IsPart

end View

namespace Session

variable {σ α : Type} [ExactScalar α]

/-! ## One worker beside the whole run -/

/-- A worker agrees with the whole run on what it owns: on the record of every
pair with such a particle, and on these particles with their loads. -/
structure Mirrors (owns : Tag → Bool) (worker serial : Session σ α) : Prop where
  records : ∀ key, key.involves owns = true → worker.record? key = serial.record? key
  owned : worker.assembly.owned.Perm
    (serial.assembly.owned.filter fun particle => owns particle.tag)

variable {owns : Tag → Bool} {worker serial : Session σ α} {part whole : View σ α}

/-- Bonding makes the worker agree with the whole run. -/
theorem mirrors_bonded {material : Material α} {timestep : α}
    (workerReady : worker.IsReady material timestep)
    (serialReady : serial.IsReady material timestep) (isWhole : whole.IsWhole)
    (isPart : part.IsPart owns whole) :
    (worker.run part.bonding).Mirrors owns (serial.run whole.bonding) := by
  obtain ⟨_, _, workerAssembly, workerLedger⟩ := workerReady.bonded isPart.fits
  obtain ⟨_, _, serialAssembly, serialLedger⟩ := serialReady.bonded isWhole.fits
  have parts := isPart.partOf isWhole
  constructor
  · intro key involved
    rw [record?, record?, workerLedger, serialLedger, Material.foldl_bond_snd,
      Material.foldl_bond_snd]
    apply parts.get?_foldl_insert involved rfl
    intro encounter member partner partnerMember same
    exact (parts.same encounter member partner partnerMember same).firstRecord material
  · rw [workerAssembly, serialAssembly]
    exact isPart.owned

/-- Every step keeps the worker in agreement with the whole run. -/
theorem Mirrors.stepped {pass serialPass : PassContext α} (mirrors : worker.Mirrors owns serial)
    (agrees : pass.Agrees serialPass) (workerFollows : worker.Follows pass)
    (serialFollows : serial.Follows serialPass) (isWhole : whole.IsWhole)
    (isPart : part.IsPart owns whole) {context : StepContext α}
    (current : context.timestep = pass.timestep) :
    (worker.run (part.stepping context)).Mirrors owns (serial.run (whole.stepping context)) := by
  have parts := isPart.partOf isWhole
  obtain ⟨_, _, workerLedger, workerAssembly⟩ :=
    workerFollows.stepped isPart.fits parts.distinct_part current
  obtain ⟨_, _, serialLedger, serialAssembly⟩ :=
    serialFollows.stepped isWhole.fits isWhole.once (current.trans agrees.timestep)
  -- Pruning forgets the same of the pairs involved.
  have known : ∀ key, key.involves owns = true →
      (if context.rebuilt then
        worker.interaction.ledger.retain (part.encounters.map Encounter.key)
      else worker.interaction.ledger).get? key =
      (if context.rebuilt then
        serial.interaction.ledger.retain (whole.encounters.map Encounter.key)
      else serial.interaction.ledger).get? key := by
    intro key involved
    have before : worker.interaction.ledger.get? key = serial.interaction.ledger.get? key :=
      mirrors.records key involved
    split
    · simp only [Ledger.get?_retain, parts.mem_keys_iff involved, before]
    · exact before
  have results := parts.result agrees known
  constructor
  · intro key involved
    rw [record?, record?, workerLedger, serialLedger]
    apply parts.get?_foldl_insert involved (known key involved)
    intro encounter member partner partnerMember same
    exact (results encounter member partner partnerMember same).1
  · rw [workerAssembly, serialAssembly, View.encounters, View.encounters,
      pass.owned_foldl_load (isPart.distinct isWhole),
      serialPass.owned_foldl_load isWhole.distinct, List.filter_map]
    refine (isPart.owned.map _).trans (.of_eq ?_)
    apply List.map_congr_left
    intro particle member
    have sums := parts.sum_pull
      (fun encounter member partner partnerMember same =>
        (results encounter member partner partnerMember same).2)
      (List.mem_filter.mp member).2
    exact congrArg (fun added => particle.loaded added.1 added.2) sums

/-- A worker that loads only what it owns leaves its ghosts alone. -/
theorem Follows.ghosts_stepped {pass : PassContext α} (workerFollows : worker.Follows pass)
    (single : pass.loadsBoth = false) (isWhole : whole.IsWhole) (isPart : part.IsPart owns whole)
    {context : StepContext α} (current : context.timestep = pass.timestep) :
    (worker.run (part.stepping context)).assembly.ghosts = part.assembly.ghosts := by
  obtain ⟨_, _, _, assembly⟩ := workerFollows.stepped isPart.fits
    (isPart.partOf isWhole).distinct_part current
  rw [assembly]
  exact pass.ghosts_foldl_load single isPart.ownedFirst _

end Session

/-! ## Divided runs -/

/-- What a run and its workers are handed at one moment. -/
structure Scene (ω σ α : Type) where
  whole : View σ α
  part : ω → View σ α

/-- All particles are divided among workers by their tags. -/
structure Scene.IsDivision {ω σ α : Type} [ExactScalar α] [DecidableEq ω] (owner : Tag → ω)
    (scene : Scene ω σ α) : Prop where
  whole : scene.whole.IsWhole
  part : ∀ worker, (scene.part worker).IsPart (fun tag => owner tag = worker) scene.whole

/-- One step of a divided run. -/
structure Turn (ω σ α : Type) where
  scene : Scene ω σ α
  context : StepContext α

namespace Session

variable {ω σ α : Type} [ExactScalar α] [DecidableEq ω]

omit [DecidableEq ω] in
/-- A session at work accepts every step on a list that fits and has no pair
twice. -/
theorem Follows.accepts {session : Session σ α} {pass : PassContext α}
    (follows : session.Follows pass) (seen : Scene ω σ α → View σ α) {turns : List (Turn ω σ α)}
    (sound : ∀ turn ∈ turns, (seen turn.scene).list.Fits (seen turn.scene).assembly ∧
      ((seen turn.scene).encounters.map Encounter.key).Nodup)
    (current : ∀ turn ∈ turns, turn.context.timestep = pass.timestep) :
    session.Accepts (turns.flatMap fun turn => (seen turn.scene).stepping turn.context) := by
  induction turns generalizing session with
  | nil => trivial
  | cons turn later ih =>
      obtain ⟨⟨fits, once⟩, sound⟩ := List.forall_mem_cons.mp sound
      have now := (List.forall_mem_cons.mp current).1
      have current := (List.forall_mem_cons.mp current).2
      obtain ⟨accepted, goesOn, _, _⟩ := follows.stepped fits once now
      rw [List.flatMap_cons, accepts_append]
      exact ⟨accepted, ih goesOn sound current⟩

/-- A worker that agrees with the whole run goes on to do so. -/
theorem Mirrors.run {owner : Tag → ω} {member : ω} {worker serial : Session σ α}
    {pass serialPass : PassContext α} (agrees : pass.Agrees serialPass)
    (single : pass.loadsBoth = false) (workerFollows : worker.Follows pass)
    (serialFollows : serial.Follows serialPass)
    (mirrors : worker.Mirrors (fun tag => owner tag = member) serial) {scene : Scene ω σ α}
    (ghosts : worker.assembly.ghosts = (scene.part member).assembly.ghosts)
    {turns : List (Turn ω σ α)} (divided : ∀ turn ∈ turns, turn.scene.IsDivision owner)
    (current : ∀ turn ∈ turns, turn.context.timestep = pass.timestep) :
    let calls := turns.flatMap fun turn => (turn.scene.part member).stepping turn.context
    let serialCalls := turns.flatMap fun turn => turn.scene.whole.stepping turn.context
    (worker.run calls).Mirrors (fun tag => owner tag = member) (serial.run serialCalls) ∧
      (worker.run calls).assembly.ghosts =
        (((turns.map Turn.scene).getLastD scene).part member).assembly.ghosts := by
  induction turns generalizing worker serial scene with
  | nil => exact ⟨mirrors, ghosts⟩
  | cons turn later ih =>
      have here := (List.forall_mem_cons.mp divided).1
      have divided := (List.forall_mem_cons.mp divided).2
      have now := (List.forall_mem_cons.mp current).1
      have current := (List.forall_mem_cons.mp current).2
      have isPart := here.part member
      obtain ⟨_, workerGoesOn, _, _⟩ := workerFollows.stepped isPart.fits
        (isPart.partOf here.whole).distinct_part now
      obtain ⟨_, serialGoesOn, _, _⟩ := serialFollows.stepped here.whole.fits here.whole.once
        (now.trans agrees.timestep)
      have stepped := mirrors.stepped agrees workerFollows serialFollows here.whole isPart now
      have left := workerFollows.ghosts_stepped single here.whole isPart now
      simp only [List.flatMap_cons, run_append, List.map_cons, List.getLastD_cons]
      exact ih workerGoesOn serialGoesOn stepped left divided current

/-- A divided run equals the whole one.  Let a run and its workers be set up
with the same material and step length, the workers so that they load only what
they own, and let the particles be divided by their tags at the bonding and at
every step.  Then all calls are accepted, and afterwards every worker has the
records of the run for all pairs with a particle that it owns, and its own
particles with the loads that they have in the run; its ghosts are as they were
handed to it. -/
theorem divided_run (owner : Tag → ω) {material : Material α} {timestep : α}
    {serial : Session σ α} {workers : ω → Session σ α}
    (serialReady : serial.IsReady material timestep)
    (workersReady : ∀ worker, (workers worker).IsReady material timestep)
    (single : ∀ worker, (workers worker).interaction.loadsBoth = false)
    {bonding : Scene ω σ α} {turns : List (Turn ω σ α)}
    (bondingDivided : bonding.IsDivision owner)
    (turnsDivided : ∀ turn ∈ turns, turn.scene.IsDivision owner)
    (current : ∀ turn ∈ turns, turn.context.timestep = timestep) :
    let serialCalls := bonding.whole.bonding ++
      turns.flatMap fun turn => turn.scene.whole.stepping turn.context
    serial.Accepts serialCalls ∧ ∀ worker,
      let calls := (bonding.part worker).bonding ++
        turns.flatMap fun turn => (turn.scene.part worker).stepping turn.context
      (workers worker).Accepts calls ∧
        ((workers worker).run calls).Mirrors (fun tag => owner tag = worker)
          (serial.run serialCalls) ∧
        ((workers worker).run calls).assembly.ghosts =
          (((turns.map Turn.scene).getLastD bonding).part worker).assembly.ghosts := by
  obtain ⟨serialAccepts, serialFollows, _, _⟩ := serialReady.bonded bondingDivided.whole.fits
  intro serialCalls
  constructor
  · rw [accepts_append]
    exact ⟨serialAccepts, serialFollows.accepts Scene.whole
      (fun turn member => ⟨(turnsDivided turn member).whole.fits,
        (turnsDivided turn member).whole.once⟩) current⟩
  · intro worker calls
    have isPart := bondingDivided.part worker
    obtain ⟨accepts, follows, assembly, _⟩ := (workersReady worker).bonded isPart.fits
    have agrees : PassContext.Agrees
        ⟨material, none, timestep, (workers worker).interaction.loadsBoth⟩
        ⟨material, none, timestep, serial.interaction.loadsBoth⟩ := ⟨rfl, rfl, rfl, rfl⟩
    have bonded := mirrors_bonded (workersReady worker) serialReady bondingDivided.whole isPart
    constructor
    · rw [accepts_append]
      refine ⟨accepts, follows.accepts (fun scene => scene.part worker) ?_ current⟩
      intro turn member
      have division := turnsDivided turn member
      exact ⟨(division.part worker).fits,
        ((division.part worker).partOf division.whole).distinct_part⟩
    · simp only [calls, serialCalls, run_append]
      exact bonded.run agrees (single worker) follows serialFollows
        (congrArg Assembly.ghosts assembly) turnsDivided current

/-- Two spheres in contact, each with a worker of its own that lists the pair
from its own side. -/
noncomputable def twoSpheres : Scene Bool Unit ℝ :=
  let first : Particle ℝ := .atRest ⟨1⟩ 0 1 1
  let second : Particle ℝ := .atRest ⟨2⟩ ⟨1, 0, 0⟩ 1 1
  let seen := fun assembly => (⟨assembly, ⟨[(0, [1])]⟩, .serial, ()⟩ : View Unit ℝ)
  { whole := seen (.ofOwned [first, second])
    part := fun worker =>
      if worker then seen (.ofGhosts [second] [first]) else seen (.ofGhosts [first] [second]) }

theorem twoSpheres_isDivision : twoSpheres.IsDivision fun tag => decide (tag = ⟨2⟩) where
  whole := by
    constructor
    · rfl
    · simp [twoSpheres, Assembly.ofOwned, Assembly.ofGhosts, Assembly.owned, Particle.atRest]
    · simp [twoSpheres, Assembly.ofOwned, Assembly.ofGhosts, NeighborList.Fits, Assembly.size]
    · exact List.nodup_singleton _
    · intro encounter member
      have only : encounter = _ := List.mem_singleton.mp member
      rw [only]
      intro frozen
      cases frozen
  part := by
    intro worker
    constructor
    · cases worker <;> exact .refl _
    · cases worker with
      | false =>
          intro ghost member
          have only : ghost = _ := List.mem_singleton.mp member
          exact ⟨only ▸ rfl, _, List.mem_cons_of_mem _ List.mem_cons_self, only ▸ .refl _⟩
      | true =>
          intro ghost member
          have only : ghost = _ := List.mem_singleton.mp member
          exact ⟨only ▸ rfl, _, List.mem_cons_self, only ▸ .refl _⟩
    · cases worker <;>
        simp [twoSpheres, Assembly.ofGhosts, NeighborList.Fits, Assembly.size]
    · cases worker <;> exact .refl _
    · intro encounter member
      cases worker <;>
        · have only : encounter = _ := List.mem_singleton.mp member
          rw [only]
          rfl

/-- A session with one kind of spheres that has accepted its setup. -/
noncomputable def settled (view : View Unit ℝ) (loadsBoth : Bool) : Session Unit ℝ :=
  Session.run ⟨.start .standard ⟨1, #[true]⟩, view.assembly, ()⟩
    [.setUp .serial ⟨1, loadsBoth, true⟩]

theorem settled_isReady (view : View Unit ℝ) (kinds : view.assembly.kindCount = 1)
    (unit : ∀ particle ∈ view.assembly.owned, particle.radius = 1 ∧ particle.mass = 1)
    (loadsBoth : Bool) :
    (settled view loadsBoth).IsReady .standard 1 ∧
      (settled view loadsBoth).interaction.loadsBoth = loadsBoth := by
  have one : Scalar.isUsable (1 : ℝ) = true := Scalar.isUsable_of_pos one_pos
  have complete : PairTable.isComplete ⟨1, #[true]⟩ = true := by decide
  have usable : ∀ particle ∈ view.assembly.owned,
      Scalar.isUsable particle.radius = true ∧ Scalar.isUsable particle.mass = true := by
    intro particle member
    rw [(unit particle member).1, (unit particle member).2]
    exact ⟨one, one⟩
  apply isReady_of_setUp .serial
  rw [checkSetup_eq_ok_iff]
  exact ⟨one, rfl, kinds, complete, usable⟩

/-- Two steps of the spheres, the second on the list of the first: both workers
agree with the run of one worker that has both of them. -/
theorem divided_run_twoSpheres :
    let turns : List (Turn Bool Unit ℝ) :=
      [⟨twoSpheres, .first 1⟩, ⟨twoSpheres, (StepContext.first 1).next⟩]
    let ended := fun (seen : Scene Bool Unit ℝ → View Unit ℝ) (loadsBoth : Bool) =>
      (settled (seen twoSpheres) loadsBoth).run
        ((seen twoSpheres).bonding ++
          turns.flatMap fun turn => (seen turn.scene).stepping turn.context)
    (ended (fun scene => scene.part false) false).Mirrors (fun tag => decide (tag = ⟨2⟩) = false)
        (ended Scene.whole true) ∧
      (ended (fun scene => scene.part true) false).Mirrors (fun tag => decide (tag = ⟨2⟩) = true)
        (ended Scene.whole true) := by
  have serialReady := settled_isReady twoSpheres.whole rfl
    (by simp [twoSpheres, Assembly.ofOwned, Assembly.ofGhosts, Assembly.owned, Particle.atRest])
    true
  have workersReady := fun worker =>
    settled_isReady (twoSpheres.part worker) (by cases worker <;> rfl)
      (by cases worker <;> simp [twoSpheres, Assembly.ofGhosts, Assembly.owned, Particle.atRest])
      false
  have same : ∀ turn ∈ ([⟨twoSpheres, .first 1⟩, ⟨twoSpheres, (StepContext.first 1).next⟩] :
      List (Turn Bool Unit ℝ)), turn.scene = twoSpheres ∧ turn.context.timestep = 1 := by
    simp [StepContext.first, StepContext.next]
  have divided := divided_run (fun tag => decide (tag = ⟨2⟩)) serialReady.1
    (fun worker => (workersReady worker).1) (fun worker => (workersReady worker).2)
    twoSpheres_isDivision (fun turn member => (same turn member).1 ▸ twoSpheres_isDivision)
    (fun turn member => (same turn member).2)
  exact ⟨(divided.2 false).2.1, (divided.2 true).2.1⟩

end Session

end GranularBonds

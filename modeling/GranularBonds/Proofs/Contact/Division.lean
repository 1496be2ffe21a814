import Mathlib
import GranularBonds.Proofs.Contact.Friction
import GranularBonds.Proofs.Neighbors

/-!
# Divisors

The contact law divides by distances, by the magnitude of a tangential force, by
stiffnesses and by sums of masses, each behind a test of its own.  The divisors
of a computation are listed along its branches.  That none is left out is said
by putting another division in the place of that of the numbers: where the two
answer the same for the divisors listed, every computation answers the same.
Main statement: in exact arithmetic all divisors of an encounter are above zero
if its particles have masses above zero, and a pair whose centers coincide
divides by nothing.
-/

namespace GranularBonds

namespace Scalar

variable {α : Type} [Scalar α]

/-- The same numbers with another division. -/
abbrev withDivision (divide : α → α → α) : Scalar α :=
  { (inferInstance : Scalar α) with div := divide }

/-- A division answers as that of the numbers does for some divisors. -/
def AgreesOn (divide : α → α → α) (divisors : List α) : Prop :=
  ∀ divisor ∈ divisors, ∀ dividend, divide dividend divisor = dividend / divisor

theorem AgreesOn.mono {divide : α → α → α} {divisors fewer : List α}
    (agrees : AgreesOn divide divisors) (among : fewer ⊆ divisors) : AgreesOn divide fewer :=
  fun divisor member => agrees divisor (among member)

/-- A divisor that is used only where it is above zero. -/
def ifPositive (value : α) : List α := if 0 < value then [value] else []

theorem AgreesOn.of_pos {divide : α → α → α} {value : α}
    (agrees : AgreesOn divide (ifPositive value)) (positive : 0 < value) (dividend : α) :
    divide dividend value = dividend / value := by
  rw [ifPositive, if_pos positive] at agrees
  exact agrees value List.mem_cons_self dividend

theorem agreesOn_append_iff {divide : α → α → α} {left right : List α} :
    AgreesOn divide (left ++ right) ↔ AgreesOn divide left ∧ AgreesOn divide right :=
  List.forall_mem_append

end Scalar

/-! ## Divisors of a visit -/

section Divisors

variable {α : Type} [Scalar α]

/-- Masses are added up for a pair of which neither side is frozen. -/
def ContactMass.divisors (first second : ContactMass α) : List α :=
  if second.frozen || first.frozen then [] else [first.resolved + second.resolved]

/-- The force law divides by the squared distance and by the distance. -/
def Kinematics.divisors (pair : Kinematics α) : List α := [pair.distanceSquared, pair.distance]

namespace Material

/-- The tensile limit of a bond is a strength over a stiffness, if there is
any. -/
def bondDivisors (material : Material α) : List α := Scalar.ifPositive material.normalStiffness

/-- A displacement that is cut down takes in the damper's part over the
tangential stiffness, if there is any. -/
def cutDivisors (material : Material α) : List α := Scalar.ifPositive material.tangentialStiffness

/-- A tangential force is cut down by the ratio of its limit to its
magnitude. -/
def tangentialDivisors (material : Material α) (pair : Kinematics α) (displacement : Vec3 α)
    (limit : α) : List α :=
  let magnitude := (material.trial pair displacement).norm
  if limit ≤ magnitude ∧ 0 < displacement.norm ∧ 0 < magnitude then
    magnitude :: material.cutDivisors
  else
    []

/-- Limit of the tangential force of an engaged pair. -/
def engagedLimit (material : Material α) (pair : Kinematics α) (record : ContactRecord α)
    (overlap : α) : α :=
  material.shearLimit pair record.isCohesive (material.normalRate pair overlap * pair.distance)

/-- Only an engaged pair divides. -/
def divisors (material : Material α) (pair : Kinematics α) (record : ContactRecord α)
    (flipped : Bool) (timestep : α) : List α :=
  match pair.standing record with
  | .engaged overlap =>
      pair.divisors ++
        material.tangentialDivisors pair (record.displacement pair flipped timestep)
          (material.engagedLimit pair record overlap)
  | _ => []

end Material

/-- Divisors of an encounter: those of its reduced mass, and those of its
force. -/
def Encounter.divisors (context : PassContext α) (encounter : Encounter α)
    (record : ContactRecord α) : List α :=
  (encounter.firstParticle.contactMass context.bodies encounter.first).divisors
      (encounter.secondParticle.contactMass context.bodies encounter.second) ++
    context.material.divisors (encounter.kinematics context.bodies) record encounter.flipped
      context.timestep

/-- Divisors of a pass, along its encounters. -/
def PassContext.divisors (context : PassContext α) : List (Encounter α) → PassState α → List α
  | [], _ => []
  | encounter :: later, state =>
      encounter.divisors context (state.ledger.getOrFresh encounter.key) ++
        context.divisors later (context.meet state encounter)

end Divisors

/-! ## Another division -/

section Agreement

variable {α : Type} [Scalar α] {divide : α → α → α}

theorem ContactMass.reduced_withDivision {first second : ContactMass α}
    (agrees : Scalar.AgreesOn divide (first.divisors second)) :
    @reduced α (.withDivision divide) first second = first.reduced second := by
  unfold divisors at agrees
  unfold reduced
  cases secondFrozen : second.frozen with
  | true => rfl
  | false =>
      cases firstFrozen : first.frozen with
      | true => rfl
      | false =>
          rw [firstFrozen, secondFrozen] at agrees
          exact agrees _ List.mem_cons_self _

namespace Kinematics

variable {pair : Kinematics α}

theorem inverseSquare_withDivision (agrees : Scalar.AgreesOn divide pair.divisors) :
    @inverseSquare α (.withDivision divide) pair = pair.inverseSquare :=
  agrees _ List.mem_cons_self 1

theorem inverse_withDivision (agrees : Scalar.AgreesOn divide pair.divisors) :
    @HDiv.hDiv α α α (@instHDiv α (Scalar.withDivision divide).toDiv) 1
      (@distance α (.withDivision divide) pair) = 1 / pair.distance :=
  agrees _ (List.mem_cons_of_mem _ List.mem_cons_self) 1

theorem slip_withDivision (agrees : Scalar.AgreesOn divide pair.divisors) :
    @slip α (.withDivision divide) pair = pair.slip := by
  unfold slip
  rw [inverseSquare_withDivision agrees, inverse_withDivision agrees]
  rfl

theorem tangentPart_withDivision (agrees : Scalar.AgreesOn divide pair.divisors)
    (shear : Vec3 α) :
    @tangentPart α (.withDivision divide) pair shear = pair.tangentPart shear := by
  unfold tangentPart
  rw [inverseSquare_withDivision agrees]
  rfl

end Kinematics

namespace Material

variable {material : Material α} {pair : Kinematics α}

theorem tensileLimit_withDivision (agrees : Scalar.AgreesOn divide material.bondDivisors)
    (radius : α) :
    @tensileLimit α (.withDivision divide) material radius = material.tensileLimit radius := by
  by_cases stiff : 0 < material.normalStiffness
  · have quotient := agrees.of_pos stiff (Scalar.pi * radius * material.tensileStrength)
    exact (if_pos stiff).trans ((congrArg TensileLimit.bounded quotient).trans (if_pos stiff).symm)
  · exact (if_neg stiff).trans (if_neg stiff).symm

theorem normalRate_withDivision (agrees : Scalar.AgreesOn divide pair.divisors) (overlap : α) :
    @normalRate α (.withDivision divide) material pair overlap =
      material.normalRate pair overlap := by
  unfold normalRate
  rw [Kinematics.inverseSquare_withDivision agrees, Kinematics.inverse_withDivision agrees]
  rfl

theorem trialForce_withDivision (agrees : Scalar.AgreesOn divide pair.divisors)
    (shear : Vec3 α) :
    @trialForce α (.withDivision divide) material pair shear =
      material.trialForce pair shear := by
  unfold trialForce
  rw [Kinematics.slip_withDivision agrees]
  rfl

theorem cutShear_withDivision (agrees : Scalar.AgreesOn divide pair.divisors)
    (cut : Scalar.AgreesOn divide material.cutDivisors) (shear : Vec3 α) (ratio : α) :
    @cutShear α (.withDivision divide) material pair shear ratio =
      material.cutShear pair shear ratio := by
  unfold cutShear
  rw [Kinematics.slip_withDivision agrees]
  by_cases stiff : 0 < material.tangentialStiffness
  · have quotient := cut.of_pos stiff (pair.mass * material.slipDamping)
    refine (if_pos stiff).trans (Eq.trans ?_ (if_pos stiff).symm)
    exact congrArg (fun part => (shear + pair.slip * part) * ratio - pair.slip * part) quotient
  · exact (if_neg stiff).trans (if_neg stiff).symm

theorem tangential_withDivision (agrees : Scalar.AgreesOn divide pair.divisors)
    {displacement : Vec3 α} {limit : α}
    (cut : Scalar.AgreesOn divide (material.tangentialDivisors pair displacement limit)) :
    @tangential α (.withDivision divide) material pair displacement limit =
      material.tangential pair displacement limit := by
  dsimp only [tangential]
  rw [Kinematics.tangentPart_withDivision agrees, trialForce_withDivision agrees]
  unfold tangentialDivisors at cut
  by_cases reached : limit ≤ (material.trial pair displacement).norm
  · refine (if_pos reached).trans (Eq.trans ?_ (if_pos reached).symm)
    by_cases cuttable : 0 < displacement.norm ∧ 0 < (material.trial pair displacement).norm
    · refine (if_pos cuttable).trans (Eq.trans ?_ (if_pos cuttable).symm)
      rw [if_pos ⟨reached, cuttable⟩] at cut
      have stiffness := cut.mono (List.subset_cons_self _ _)
      change Tangential.mk
          (@cutShear α (.withDivision divide) material pair (pair.tangentPart displacement)
            (divide limit (material.trial pair displacement).norm))
          (material.trial pair displacement * divide limit (material.trial pair displacement).norm)
          true = _
      rw [cut _ List.mem_cons_self limit, cutShear_withDivision agrees stiffness]
      rfl
    · exact (if_neg cuttable).trans (if_neg cuttable).symm
  · exact (if_neg reached).trans (if_neg reached).symm

variable {record : ContactRecord α} {flipped : Bool} {timestep overlap : α}

theorem engage_withDivision (agrees : Scalar.AgreesOn divide pair.divisors)
    (cut : Scalar.AgreesOn divide
      (material.tangentialDivisors pair (record.displacement pair flipped timestep)
        (material.engagedLimit pair record overlap))) :
    @engage α (.withDivision divide) material pair record flipped timestep overlap =
      material.engage pair record flipped timestep overlap := by
  have slip := Kinematics.slip_withDivision agrees
  have rate : @normalRate α (.withDivision divide) material pair overlap =
      material.normalRate pair overlap := normalRate_withDivision agrees overlap
  have displacement : @ContactRecord.displacement α (.withDivision divide) record pair flipped
      timestep = record.displacement pair flipped timestep := by
    unfold ContactRecord.displacement
    rw [slip]
    rfl
  have limit : @engagedLimit α (.withDivision divide) material pair record overlap =
      material.engagedLimit pair record overlap := by
    unfold engagedLimit
    rw [rate]
    rfl
  have plane := tangential_withDivision agrees cut
  rw [← displacement, ← limit] at plane
  unfold ContactRecord.displacement engagedLimit at plane
  dsimp only [engage]
  rw [plane, slip, rate, Kinematics.inverse_withDivision agrees]
  rfl

/-- A visit answers the same under a division that answers the same for its
divisors. -/
theorem evaluate_withDivision
    (agrees : Scalar.AgreesOn divide (material.divisors pair record flipped timestep)) :
    @evaluate α (.withDivision divide) material pair record flipped timestep =
      material.evaluate pair record flipped timestep := by
  have found : @Kinematics.standing α (.withDivision divide) pair record = pair.standing record :=
    rfl
  unfold divisors at agrees
  unfold evaluate
  rw [found]
  cases standing : pair.standing record with
  | separated | overstretched | coincident => rfl
  | engaged overlap =>
      rw [standing, Scalar.agreesOn_append_iff] at agrees
      dsimp only
      rw [engage_withDivision agrees.1 agrees.2]

theorem preview_withDivision
    (agrees : Scalar.AgreesOn divide (material.divisors pair record flipped timestep)) :
    @preview α (.withDivision divide) material pair record flipped timestep =
      material.preview pair record flipped timestep := by
  unfold preview
  rw [evaluate_withDivision agrees]
  rfl

end Material

namespace Encounter

variable {context : PassContext α} {encounter : Encounter α} {record : ContactRecord α}

theorem kinematics_withDivision {bodies : Option (BodyCache α)}
    (agrees : Scalar.AgreesOn divide
      ((encounter.firstParticle.contactMass bodies encounter.first).divisors
        (encounter.secondParticle.contactMass bodies encounter.second))) :
    @kinematics α (.withDivision divide) bodies encounter = encounter.kinematics bodies :=
  congrArg (fun mass => { encounter.kinematics bodies with mass })
    (ContactMass.reduced_withDivision agrees)

theorem evaluate_withDivision (agrees : Scalar.AgreesOn divide (encounter.divisors context record)) :
    @evaluate α (.withDivision divide) context encounter record =
      encounter.evaluate context record := by
  rw [divisors, Scalar.agreesOn_append_iff] at agrees
  unfold evaluate
  rw [kinematics_withDivision agrees.1]
  exact Material.evaluate_withDivision agrees.2

end Encounter

namespace PassContext

variable {context : PassContext α}

theorem meet_withDivision {state : PassState α} {encounter : Encounter α}
    (agrees : Scalar.AgreesOn divide
      (encounter.divisors context (state.ledger.getOrFresh encounter.key))) :
    @meet α (.withDivision divide) context state encounter = context.meet state encounter := by
  have result : @Encounter.evaluate α (.withDivision divide) context encounter
      (@Ledger.getOrFresh α (.withDivision divide) state.ledger encounter.key) =
        encounter.evaluate context (state.ledger.getOrFresh encounter.key) :=
    Encounter.evaluate_withDivision agrees
  dsimp only [meet]
  rw [result]
  rfl

theorem foldl_meet_withDivision {encounters : List (Encounter α)} {state : PassState α}
    (agrees : Scalar.AgreesOn divide (context.divisors encounters state)) :
    encounters.foldl (@meet α (.withDivision divide) context) state =
      encounters.foldl context.meet state := by
  induction encounters generalizing state with
  | nil => rfl
  | cons encounter later ih =>
      rw [divisors, Scalar.agreesOn_append_iff] at agrees
      rw [List.foldl_cons, List.foldl_cons, meet_withDivision agrees.1, ih agrees.2]

/-- A pass answers the same under a division that answers the same for its
divisors. -/
theorem run_withDivision {list : NeighborList} {assembly : Assembly α} {ledger : Ledger α}
    (agrees : Scalar.AgreesOn divide
      (context.divisors (list.encounters assembly) ⟨assembly, ledger, .none⟩)) :
    @run α (.withDivision divide) context list assembly ledger =
      context.run list assembly ledger := by
  by_cases fits : list.Fits assembly
  · rw [context.run_eq_ok_iff.mpr ⟨fits, rfl⟩, ← foldl_meet_withDivision agrees]
    exact (@run_eq_ok_iff α (.withDivision divide) context list assembly ledger _).mpr ⟨fits, rfl⟩
  · rw [context.run_of_not_fits fits]
    exact @run_of_not_fits α (.withDivision divide) context list assembly fits ledger

end PassContext

namespace Material

variable {material : Material α}

/-- Bonding answers the same under a division that answers the same for its
divisors. -/
theorem formBonds_withDivision (agrees : Scalar.AgreesOn divide material.bondDivisors)
    (assembly : Assembly α) (list : NeighborList) (ledger : Ledger α) :
    @formBonds α (.withDivision divide) material assembly list ledger =
      material.formBonds assembly list ledger := by
  have record : @firstRecord α (.withDivision divide) material = material.firstRecord := by
    funext first second distance
    unfold firstRecord
    rw [tensileLimit_withDivision agrees]
    rfl
  have pair : @bondPair α (.withDivision divide) material assembly =
      material.bondPair assembly := by
    unfold bondPair
    rw [record]
    rfl
  unfold formBonds
  rw [pair]

end Material

end Agreement

/-! ## Coinciding centers -/

namespace Material

variable {α : Type} [Scalar α]

/-- A pair whose centers cannot be told apart is not engaged: it divides by
nothing and has no force.  It is separated, or torn, or it coincides and keeps
its displacement. -/
theorem evaluate_of_close (material : Material α) {pair : Kinematics α}
    (close : pair.distanceSquared < Scalar.tiny) (record : ContactRecord α) (flipped : Bool)
    (timestep : α) :
    material.divisors pair record flipped timestep = [] ∧
      (material.evaluate pair record flipped timestep).1.force? = none ∧
      ((material.evaluate pair record flipped timestep).1 = .separated ∨
        (∃ overlap, (material.evaluate pair record flipped timestep).1 = .torn overlap) ∨
        (material.evaluate pair record flipped timestep).1 = .coincident ∧
          (material.evaluate pair record flipped timestep).2.shear = record.shear) := by
  cases standing : pair.standing record with
  | engaged overlap => exact absurd close (Kinematics.apart_of_engaged standing)
  | separated =>
      simp only [divisors, evaluate, standing]
      exact ⟨trivial, rfl, .inl trivial⟩
  | overstretched overlap =>
      simp only [divisors, evaluate, standing]
      exact ⟨trivial, rfl, .inr (.inl ⟨overlap, rfl⟩)⟩
  | coincident =>
      simp only [divisors, evaluate, standing]
      exact ⟨trivial, rfl, .inr (.inr ⟨trivial, rfl⟩)⟩

end Material

/-- An outcome without a force loads nothing. -/
theorem PassContext.load_of_free {α : Type} [Scalar α] (context : PassContext α)
    {outcome : Outcome α} (free : outcome.force? = none) (assembly : Assembly α)
    (first second : Nat) : context.load assembly first second outcome = assembly := by
  cases outcome with
  | separated | torn | coincident => rfl
  | contact force => cases free

/-! ## Divisors above zero -/

section Positivity

variable {α : Type} [ExactScalar α]

/-- All divisors of a list are above zero. -/
def Scalar.AllPositive (divisors : List α) : Prop := ∀ divisor ∈ divisors, 0 < divisor

theorem Scalar.allPositive_ifPositive (value : α) : AllPositive (ifPositive value) := by
  unfold ifPositive
  split
  case isTrue positive => exact List.forall_mem_singleton.mpr positive
  case isFalse => exact List.forall_mem_nil _

namespace ContactMass

/-- The mass of a body counts only where it is above zero. -/
theorem resolved_pos {side : ContactMass α} (positive : 0 < side.mass) : 0 < side.resolved := by
  unfold resolved
  split
  · split
    case isTrue heavy => exact heavy
    case isFalse => exact positive
  · exact positive

theorem divisors_pos {first second : ContactMass α} (firstPositive : 0 < first.mass)
    (secondPositive : 0 < second.mass) : Scalar.AllPositive (first.divisors second) := by
  unfold divisors
  split
  · exact List.forall_mem_nil _
  · exact List.forall_mem_singleton.mpr
      (add_pos (resolved_pos firstPositive) (resolved_pos secondPositive))

end ContactMass

/-- Distances are above zero where their squares are. -/
theorem Kinematics.divisors_pos {pair : Kinematics α} (apart : 0 < pair.distanceSquared) :
    Scalar.AllPositive pair.divisors := by
  have distance : 0 < pair.distance := by
    refine lt_of_le_of_ne (Vec3.norm_nonneg pair.delta) fun zero => apart.ne ?_
    rw [distanceSquared, ← Vec3.norm_mul_self]
    change 0 = pair.distance * pair.distance
    rw [← zero, mul_zero]
  exact List.forall_mem_cons.mpr ⟨apart, List.forall_mem_singleton.mpr distance⟩

namespace Material

variable (material : Material α)

theorem tangentialDivisors_pos (pair : Kinematics α) (displacement : Vec3 α) (limit : α) :
    Scalar.AllPositive (material.tangentialDivisors pair displacement limit) := by
  unfold tangentialDivisors
  dsimp only
  split
  case isTrue cut => exact List.forall_mem_cons.mpr ⟨cut.2.2, Scalar.allPositive_ifPositive _⟩
  case isFalse => exact List.forall_mem_nil _

/-- Every divisor of a visit is above zero, whatever the pair and its past. -/
theorem divisors_pos (pair : Kinematics α) (record : ContactRecord α) (flipped : Bool)
    (timestep : α) : Scalar.AllPositive (material.divisors pair record flipped timestep) := by
  unfold divisors
  cases standing : pair.standing record with
  | separated | overstretched | coincident => exact List.forall_mem_nil _
  | engaged overlap =>
      exact List.forall_mem_append.mpr
        ⟨Kinematics.divisors_pos (Kinematics.distanceSquared_pos_of_engaged standing),
          material.tangentialDivisors_pos _ _ _⟩

end Material

/-- Every divisor of an encounter is above zero if the masses are. -/
theorem Encounter.divisors_pos {encounter : Encounter α}
    (firstPositive : 0 < encounter.firstParticle.mass)
    (secondPositive : 0 < encounter.secondParticle.mass) (context : PassContext α)
    (record : ContactRecord α) : Scalar.AllPositive (encounter.divisors context record) :=
  List.forall_mem_append.mpr
    ⟨ContactMass.divisors_pos firstPositive secondPositive, context.material.divisors_pos _ _ _ _⟩

theorem PassContext.divisors_pos (context : PassContext α) {encounters : List (Encounter α)}
    (heavy : ∀ encounter ∈ encounters,
      0 < encounter.firstParticle.mass ∧ 0 < encounter.secondParticle.mass)
    (state : PassState α) : Scalar.AllPositive (context.divisors encounters state) := by
  induction encounters generalizing state with
  | nil => exact List.forall_mem_nil _
  | cons encounter later ih =>
      rw [List.forall_mem_cons] at heavy
      exact List.forall_mem_append.mpr
        ⟨encounter.divisors_pos heavy.1.1 heavy.1.2 context _, ih heavy.2 _⟩

/-- Centers that coincide cannot be told apart. -/
theorem Kinematics.close_of_delta_eq_zero {pair : Kinematics α} (coincide : pair.delta = 0) :
    pair.distanceSquared < Scalar.tiny := by
  rw [distanceSquared, coincide, Vec3.normSquared_zero]
  exact ExactScalar.tiny_pos

end Positivity

end GranularBonds

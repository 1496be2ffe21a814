import GranularBonds.Proofs.Session.Renumbering

/-!
# Runs with the particles in another order

A simulation may hold its particles in any order, and sort them anew whenever it
builds a neighbor list.  Two runs that differ in nothing else are followed side
by side, round by round.  The order has to stay as it was at the last rebuild
until body masses are taken anew.  Main statement: then every call is answered
alike, both ledgers stay equal, and every particle has the same load.
-/

namespace GranularBonds.Session

variable {σ τ α : Type} [Scalar α]

/-! ## Rounds -/

/-- What a simulation does at one point of a run: it places its particles, and
makes a call. -/
structure Moment (σ α : Type) where
  assembly : Assembly α
  transport : σ
  call : Action σ α

namespace Moment

def actions (moment : Moment σ α) : List (Action σ α) :=
  [.place moment.assembly moment.transport, moment.call]

/-- What a step on a new list takes body masses from. -/
def announced? (moment : Moment σ α) : Option (Rebuild σ α) :=
  moment.call.announced? moment.assembly moment.transport

end Moment

/-- The same moment of two runs. -/
structure Round (σ τ α : Type) where
  order : Equiv.Perm Nat
  left : Moment σ α
  right : Moment τ α

namespace Round

/-- The second run presents the same in another order. -/
structure IsRenumbering (round : Round σ τ α) : Prop where
  assembly : round.left.assembly.Renumbered round.order round.right.assembly
  call : round.left.call.Renumbered round.order round.right.call
  rebuild : ∀ rebuild ∈ round.left.announced?, ∀ other ∈ round.right.announced?,
    rebuild.Renumbered round.order other

/-- The order of the particles, and how many there are. -/
def numbering (round : Round σ τ α) : Equiv.Perm Nat × Nat :=
  (round.order, round.left.assembly.size)

end Round

/-- A session with the particles of a moment. -/
def seeing (session : Session σ α) (moment : Moment σ α) : Session σ α :=
  { session with assembly := moment.assembly, exchange := moment.transport }

/-- The answer to the call of a moment, and the session afterwards. -/
def during (session : Session σ α) (moment : Moment σ α) : Reply α × Session σ α :=
  (session.seeing moment).perform moment.call

theorem run_actions (session : Session σ α) (moment : Moment σ α) :
    session.run moment.actions = (session.during moment).2 := rfl

/-- Every round of two runs is a renumbering, and a call that announces no new
list comes with the order in force: the one of the last round by which it was
renewed. -/
def KeepsOrder (renews : Session σ α → Action σ α → Bool)
    (inForce : Option (Equiv.Perm Nat × Nat)) (session : Session σ α) :
    List (Round σ τ α) → Prop
  | [] => True
  | round :: later =>
      round.IsRenumbering ∧
        (round.left.announced? = none → ∀ numbering ∈ inForce, numbering = round.numbering) ∧
        KeepsOrder renews
          (if renews (session.seeing round.left) round.left.call then some round.numbering
            else inForce)
          (session.during round.left).2 later

/-- Whether a call takes body masses. -/
def rebuilds (session : Session σ α) (action : Action σ α) : Bool :=
  (session.rebuild? action).isSome

/-- The body masses of two sessions are the same by the order in force, and none
count before there is one. -/
def AgreeBy (inForce : Option (Equiv.Perm Nat × Nat)) (left right : Option (BodyCache α)) : Prop :=
  match inForce with
  | none => left = none ∧ right = none
  | some (order, size) => BodyCache.Agree order size left right

/-- Two sessions know the same of all pairs, and of body masses by the order in
force. -/
structure KnowAlike (inForce : Option (Equiv.Perm Nat × Nat)) (left : Session σ α)
    (right : Session τ α) : Prop where
  interaction : left.interaction.Alike right.interaction
  bodies : AgreeBy inForce left.interaction.activeBodies right.interaction.activeBodies

namespace KnowAlike

variable {inForce : Option (Equiv.Perm Nat × Nat)} {left : Session σ α} {right : Session τ α}
  {round : Round σ τ α}

theorem agree (alike : KnowAlike inForce left right)
    (keeps : ∀ numbering ∈ inForce, numbering = round.numbering) :
    left.AgreeOnBodies round.order round.left.assembly.size right := by
  have bodies := alike.bodies
  cases inForce with
  | none =>
      rw [AgreeOnBodies, bodies.1, bodies.2]
      exact fun _ _ => rfl
  | some numbering =>
      cases keeps numbering rfl
      exact bodies

/-- A round is answered alike in both runs, and both still know the same. -/
theorem during (alike : KnowAlike inForce left right) (renumbering : round.IsRenumbering)
    (keeps : round.left.announced? = none → ∀ numbering ∈ inForce, numbering = round.numbering) :
    (left.during round.left).1.Renumbered round.order (right.during round.right).1 ∧
      (left.during round.left).2.Renumbered round.order (right.during round.right).2 ∧
      KnowAlike
        (if (left.seeing round.left).rebuilds round.left.call then some round.numbering
          else inForce)
        (left.during round.left).2 (right.during round.right).2 := by
  have same : (left.seeing round.left).Renumbered round.order (right.seeing round.right) :=
    ⟨alike.interaction, renumbering.assembly⟩
  obtain ⟨reply, after⟩ := same.perform renumbering.call
    (fun unannounced => alike.agree (keeps unannounced)) renumbering.rebuild
  refine ⟨reply, after, after.interaction, ?_⟩
  have both := same.isSome_rebuild? renumbering.call
  cases taken : (left.seeing round.left).rebuild? round.left.call with
  | some rebuild =>
      rw [rebuilds, taken]
      exact same.agree_of_rebuild renumbering.call renumbering.rebuild (by rw [taken]; rfl)
  | none =>
      have otherTaken : (right.seeing round.right).rebuild? round.right.call = none := by
        rwa [taken, Option.isSome_none, Option.isSome_eq_false_iff, Option.isNone_iff_eq_none]
          at both
      rw [rebuilds, taken, Session.during, Session.during, activeBodies_perform,
        activeBodies_perform, taken, otherTaken]
      exact alike.bodies

/-- After rounds that keep the order both sessions know the same, and what
follows keeps the order from there. -/
theorem run (alike : KnowAlike inForce left right) {rounds later : List (Round σ τ α)}
    (keeps : left.KeepsOrder rebuilds inForce (rounds ++ later)) :
    ∃ ending, KnowAlike ending (left.run (rounds.flatMap fun round => round.left.actions))
        (right.run (rounds.flatMap fun round => round.right.actions)) ∧
      (left.run (rounds.flatMap fun round => round.left.actions)).KeepsOrder rebuilds ending
        later := by
  induction rounds generalizing left right inForce with
  | nil => exact ⟨inForce, alike, keeps⟩
  | cons round rest ih =>
      obtain ⟨renumbering, order, keeps⟩ := keeps
      obtain ⟨-, -, after⟩ := alike.during renumbering order
      simp only [List.flatMap_cons, run_append, run_actions]
      exact ih after keeps

end KnowAlike

/-! ## Runs -/

/-- The order of the particles is not observed.  However an interaction is
constructed, let two runs present the same particles, owned and ghosts apart, in
orders of their own, and the same calls, whose positions are replaced and whose
lists keep their order; let the order, and the number of particles, stay as they
are except at a step that adopts a new list, and let both transports hand body
masses on to the same ghosts there.  Then every call is answered alike, both
ledgers are equal after it, and every particle is left with the same load. -/
theorem renumbered_run {interaction : Interaction Float} (constructed : interaction.Constructed)
    (assembly : Assembly Float) (transport : σ) (other : Assembly Float) (otherTransport : τ)
    (rounds : List (Round σ τ Float)) (round : Round σ τ Float) :
    let left : Session σ Float := ⟨interaction, assembly, transport⟩
    let right : Session τ Float := ⟨interaction, other, otherTransport⟩
    left.KeepsOrder rebuilds none (rounds ++ [round]) →
      let first := (left.run (rounds.flatMap fun round => round.left.actions)).during round.left
      let second := (right.run (rounds.flatMap fun round => round.right.actions)).during round.right
      first.1.Renumbered round.order second.1 ∧
        second.2.interaction.ledger = first.2.interaction.ledger ∧
        first.2.assembly.Renumbered round.order second.2.assembly := by
  intro left right keeps first second
  have start : KnowAlike none left right := by
    rcases constructed.eq_start with ⟨material, table, rfl⟩
    exact ⟨⟨_, _, rfl⟩, rfl, rfl⟩
  rcases start.run keeps with ⟨inForce, alike, renumbering, order, -⟩
  obtain ⟨reply, after, -⟩ := alike.during renumbering order
  exact ⟨reply, after.interaction.ledger, after.assembly⟩

/-- A run that never changes its order keeps it. -/
theorem keepsOrder_of_fixed (renews : Session σ α → Action σ α → Bool)
    {numbering : Equiv.Perm Nat × Nat} {rounds : List (Round σ τ α)}
    (fixed : ∀ round ∈ rounds, round.IsRenumbering ∧ round.numbering = numbering)
    {inForce : Option (Equiv.Perm Nat × Nat)} (before : ∀ earlier ∈ inForce, earlier = numbering)
    (session : Session σ α) : session.KeepsOrder renews inForce rounds := by
  induction rounds generalizing session inForce with
  | nil => trivial
  | cons round later ih =>
      obtain ⟨⟨renumbering, here⟩, fixed⟩ := List.forall_mem_cons.mp fixed
      refine ⟨renumbering, fun _ earlier found => here ▸ before earlier found, ih fixed ?_ _⟩
      split
      · exact fun earlier found => (Option.some.inj found).symm.trans here
      · exact before

/-- The particles with the owned ones the other way round. -/
def bodyFirst : Assembly Float :=
  .ofGhosts [.atRest ⟨2⟩ ⟨1.5, 0, 0⟩ 1 1, movingSphere] [.atRest ⟨2⟩ ⟨-1.5, 0, 0⟩ 1 1]

theorem renumbered_bodyFirst : bodyBesideGhost.Renumbered (Equiv.swap 0 1) bodyFirst where
  size := rfl
  kindCount := rfl
  get? index := by
    rcases index with _ | _ | index
    · rfl
    · rfl
    · rw [Equiv.swap_apply_of_ne_of_ne (by omega) (by omega)]
      rfl
  owned index inside := by
    have three : index = 0 ∨ index = 1 ∨ index = 2 := by
      have size : bodyBesideGhost.size = 3 := rfl
      omega
    rcases three with rfl | rfl | rfl <;> rfl

/-- A moment of two runs, in the second of which the particles may be in another
order. -/
def besideOrder (order : Equiv.Perm Nat) (other : Assembly Float)
    (call : Equiv.Perm Nat → Action (Exchange.Script Float) Float) :
    Round (Exchange.Script Float) (Exchange.Script Float) Float :=
  ⟨order, ⟨bodyBesideGhost, ⟨[1], []⟩, call (.refl Nat)⟩, ⟨other, ⟨[order 1], []⟩, call order⟩⟩

/-- The calls that set the run up and form no bonds. -/
def preparing : List (Action (Exchange.Script Float) Float) :=
  [.configure "*" "*", .setUp .scripted (.ofTimestep 0.001), .formBonds .empty]

/-- A step on a new list, which takes the mass of the body anew. -/
def takingBodies (timestep : Float) (order : Equiv.Perm Nat) :
    Action (Exchange.Script Float) Float :=
  .step .scripted (.first timestep) .empty (some fun index => bodyOfSecond (order.symm index))

/-- A step of the sphere and the ghost, on a list that is not new. -/
def collision (order : Equiv.Perm Nat) : Action (Exchange.Script Float) Float :=
  .step .scripted (StepContext.first 0.001).next ⟨[(order 0, [order 2])]⟩ none

section

variable {order : Equiv.Perm Nat} {other : Assembly Float}
  (same : bodyBesideGhost.Renumbered order other)

include same

theorem isRenumbering_of_unannounced
    {call : Equiv.Perm Nat → Action (Exchange.Script Float) Float}
    (alike : (call (.refl Nat)).Renumbered order (call order))
    (unannounced : (call (.refl Nat)).announced? bodyBesideGhost ⟨[1], []⟩ = none) :
    (besideOrder order other call).IsRenumbering where
  assembly := same
  call := alike
  rebuild rebuild announced := by
    rw [Moment.announced?, besideOrder, unannounced] at announced
    cases announced

theorem isRenumbering_preparing {call : Action (Exchange.Script Float) Float}
    (prepares : call ∈ preparing) :
    (besideOrder order other fun _ => call).IsRenumbering := by
  simp only [preparing, List.mem_cons, List.not_mem_nil, or_false] at prepares
  rcases prepares with rfl | rfl | rfl
  · exact isRenumbering_of_unannounced same (.configure ..) rfl
  · exact isRenumbering_of_unannounced same (.setUp ..) rfl
  · exact isRenumbering_of_unannounced same (.formBonds .empty) rfl

theorem isRenumbering_collision : (besideOrder order other collision).IsRenumbering :=
  isRenumbering_of_unannounced same (.step _ _ _ ⟨[(0, [2])]⟩ _ _) rfl

theorem isRenumbering_takingBodies (two : other.ownedCount = 2) (own : order 1 < 2)
    (timestep : Float) : (besideOrder order other (takingBodies timestep)).IsRenumbering where
  assembly := same
  call := .step _ _ _ .empty _ _
  rebuild := by
    rintro _ ⟨⟩ _ ⟨⟩
    refine ⟨same, rfl, ?_, fun _ => ⟨fun _ => .here 1, ?_, ?_⟩⟩
    · rintro _ ⟨⟩ _ ⟨⟩ index _
      exact congrArg bodyOfSecond (order.symm_apply_apply index)
    · exact forwards_oneGhost rfl rfl (by decide)
    · exact forwards_oneGhost same.size two own

end

/-- The second run holds the particles in the other order all the time. -/
def crossed : List (Round (Exchange.Script Float) (Exchange.Script Float) Float) :=
  (preparing.map fun call => besideOrder (.swap 0 1) bodyFirst fun _ => call) ++
    [besideOrder (.swap 0 1) bodyFirst (takingBodies 0.001)]

/-- The sphere and the ghost collide alike. -/
theorem renumbered_run_bodyFirst :
    let left := Session.run ⟨.start .standard (.empty 1), bodyBesideGhost, ⟨[1], []⟩⟩
      (crossed.flatMap fun round => round.left.actions)
    let right := Session.run ⟨.start .standard (.empty 1), bodyFirst, ⟨[0], []⟩⟩
      (crossed.flatMap fun round => round.right.actions)
    let round := besideOrder (.swap 0 1) bodyFirst collision
    (left.during round.left).1.isAccepted = true ∧
      (right.during round.right).2.interaction.ledger =
        (left.during round.left).2.interaction.ledger ∧
      (right.during round.right).2.assembly.get? 1 =
        (left.during round.left).2.assembly.get? 0 := by
  intro left right round
  have fixed : ∀ round ∈ crossed ++ [besideOrder (.swap 0 1) bodyFirst collision],
      round.IsRenumbering ∧ round.numbering = (.swap 0 1, 3) := by
    intro round member
    rcases List.mem_append.mp member with before | last
    · rcases List.mem_append.mp before with prepared | taken
      · rcases List.mem_map.mp prepared with ⟨call, prepares, rfl⟩
        exact ⟨isRenumbering_preparing renumbered_bodyFirst prepares, rfl⟩
      · rw [List.mem_singleton.mp taken]
        exact ⟨isRenumbering_takingBodies renumbered_bodyFirst rfl (by decide) _, rfl⟩
    · rw [List.mem_singleton.mp last]
      exact ⟨isRenumbering_collision renumbered_bodyFirst, rfl⟩
  have before : ∀ earlier ∈ (none : Option (Equiv.Perm Nat × Nat)), earlier = (.swap 0 1, 3) :=
    nofun
  have keeps := keepsOrder_of_fixed rebuilds fixed before
    ⟨.start .standard (.empty 1), bodyBesideGhost, ⟨[1], []⟩⟩
  rcases renumbered_run constructed_standard bodyBesideGhost ⟨[1], []⟩ bodyFirst ⟨[0], []⟩ crossed
    (besideOrder (.swap 0 1) bodyFirst collision) keeps with ⟨-, ledger, particles⟩
  refine ⟨by decide +kernel, ?_⟩
  dsimp only [left, right, round]
  exact ⟨ledger, particles.get? 0⟩

/-! ## Rebuilds that are refused -/

/-- Whether a call is a step on a new list, be it refused or not. -/
def announces (session : Session σ α) (action : Action σ α) : Bool :=
  (action.announced? session.assembly session.exchange).isSome

/-- The second run changes its order at a step that is refused for its length,
before body masses are taken anew. -/
def sortedInVain : List (Round (Exchange.Script Float) (Exchange.Script Float) Float) :=
  (preparing.map fun call => besideOrder (.refl Nat) bodyBesideGhost fun _ => call) ++
    [besideOrder (.refl Nat) bodyBesideGhost (takingBodies 0.001),
      besideOrder (.swap 0 1) bodyFirst (takingBodies 0.002)]

/-- It is not enough that the order changes at steps on a new list: one that is
refused leaves the body masses by the old positions, and in the next step the
sphere counts with the mass of the body. -/
theorem not_renumbered_sortedInVain :
    let start : Session (Exchange.Script Float) Float :=
      ⟨.start .standard (.empty 1), bodyBesideGhost, ⟨[1], []⟩⟩
    let left := start.run (sortedInVain.flatMap fun round => round.left.actions)
    let right := start.run (sortedInVain.flatMap fun round => round.right.actions)
    let round := besideOrder (.swap 0 1) bodyFirst collision
    start.KeepsOrder announces none (sortedInVain ++ [round]) ∧
      (left.during round.left).1.isAccepted = true ∧
      ¬(left.during round.left).2.assembly.Renumbered round.order
        (right.during round.right).2.assembly := by
  intro start left right round
  have same : bodyBesideGhost.Renumbered (.refl Nat) bodyBesideGhost :=
    ⟨rfl, rfl, fun _ => rfl, fun _ _ => rfl⟩
  refine ⟨?_, by decide +kernel, fun renumbered => ?_⟩
  · refine ⟨isRenumbering_preparing same (.head _), fun _ => nofun, ?_⟩
    refine ⟨isRenumbering_preparing same (.tail _ (.head _)), fun _ => nofun, ?_⟩
    refine ⟨isRenumbering_preparing same (.tail _ (.tail _ (.head _))), fun _ => nofun, ?_⟩
    refine ⟨isRenumbering_takingBodies same rfl (by decide) _, fun _ => nofun, ?_⟩
    refine ⟨isRenumbering_takingBodies renumbered_bodyFirst rfl (by decide) _, nofun, ?_⟩
    refine ⟨isRenumbering_collision renumbered_bodyFirst, ?_, trivial⟩
    rintro _ _ ⟨⟩
    rfl
  · have loads : ((right.during round.right).2.assembly.get? (round.order 0)).map
          (fun particle => particle.force.x) ≠
        ((left.during round.left).2.assembly.get? 0).map (fun particle => particle.force.x) := by
      decide +kernel
    exact loads (congrArg _ (renumbered.get? 0))

end GranularBonds.Session

import GranularBonds.Proofs.Contact.Pass

/-!
# Body masses after a refresh

A cache of body masses outlives many assemblies, of different sizes and with
different borders between owned particles and ghosts.  Once it is refreshed, all
entries that an assembly has use for are those of this refresh: an owned
particle has the mass that is told of it, and a ghost the one that is told of
the particle that it replicates, be it here or on another worker.
-/

namespace GranularBonds

variable {σ α : Type}

/-- Where the particle that a ghost replicates is owned. -/
inductive Origin (α : Type) where
  /-- By the same worker, at a position. -/
  | here (index : Nat)
  /-- By another worker, which is told this body mass. -/
  | elsewhere (bodyMass : Option α)

namespace Origin

/-- The body mass that is told of the particle. -/
def bodyMass (bodies : BodyMasses α) : Origin α → Option α
  | here index => bodies index
  | elsewhere mass => mass

/-- The body masses of all particles of an assembly, when those of the owned
ones are told. -/
def spread (origins : Nat → Origin α) (owned : Nat) (bodies : BodyMasses α) : BodyMasses α :=
  fun index => if index < owned then bodies index else (origins index).bodyMass bodies

end Origin

variable [Scalar α]

/-- A transport that leaves the entries of owned particles alone, and overwrites
the entry of every ghost by that of the particle that it replicates. -/
structure Exchange.Forwards (exchange : Exchange σ α) (transport : σ) (assembly : Assembly α)
    (origins : Nat → Origin α) : Prop where
  owned : ∀ entries index, entries.length = assembly.size → index < assembly.ownedCount →
    (exchange.forward entries assembly.ownedCount transport).1[index]? = entries[index]?
  here : ∀ entries index source, entries.length = assembly.size →
    assembly.ownedCount ≤ index → index < assembly.size → origins index = .here source →
      source < assembly.ownedCount ∧
        (exchange.forward entries assembly.ownedCount transport).1[index]? = entries[source]?
  elsewhere : ∀ entries index mass, entries.length = assembly.size →
    assembly.ownedCount ≤ index → index < assembly.size → origins index = .elsewhere mass →
      (exchange.forward entries assembly.ownedCount transport).1[index]? =
        some (BodyCache.entry (fun _ => mass) index)

/-- A script that names an owned particle for every ghost is played back as a
transport should. -/
theorem Exchange.scripted_forwards {script : Script α} {assembly : Assembly α}
    {origins : Nat → Origin α}
    (complete : ∀ index, assembly.ownedCount ≤ index → index < assembly.size →
      ∃ source < assembly.ownedCount,
        script.sources[index - assembly.ownedCount]? = some source ∧
          origins index = .here source) :
    scripted.Forwards script assembly origins where
  owned entries index _ own := by
    simp only [scripted, copySources, List.getElem?_mapIdx]
    cases entries[index]? with
    | none => rfl
    | some entry =>
        cases script.sources[index - assembly.ownedCount]? <;> simp [Nat.not_le.mpr own]
  here entries index source length ghost inside origin := by
    obtain ⟨_, own, listed, named⟩ := complete index ghost inside
    cases origin.symm.trans named
    have there : entries[source]? = some entries[source] := List.getElem?_eq_getElem (by omega)
    refine ⟨own, ?_⟩
    simp [scripted, copySources, listed, ghost, own, inside, length, there]
  elsewhere entries index mass length ghost inside origin := by
    obtain ⟨_, own, listed, named⟩ := complete index ghost inside
    cases origin.symm.trans named

/-- The body mass that is told, where it is above zero, and otherwise the mass
of the particle itself. -/
def massFrom (told : Option α) (own : α) : α :=
  (told.filter fun mass => decide (0 < mass)).getD own

@[simp] theorem massFrom_none (own : α) : massFrom none own = own := rfl

theorem massFrom_some (mass own : α) :
    massFrom (some mass) own = if 0 < mass then mass else own := by
  rw [massFrom, Option.filter_some]
  by_cases positive : 0 < mass <;> simp [positive]

theorem ContactMass.resolved_eq (side : ContactMass α) :
    side.resolved = massFrom side.bodyMass side.mass := by
  rcases side with ⟨mass, _ | body, frozen⟩
  · rfl
  · exact (massFrom_some body mass).symm

namespace BodyCache

theorem entry_eq (bodies : BodyMasses α) (index : Nat) :
    entry bodies index = massFrom (bodies index) 0 := by
  unfold entry
  cases bodies index with
  | none => rfl
  | some mass => exact (massFrom_some mass 0).symm

/-- The entries for an assembly after a refresh, whatever the cache held
before. -/
theorem masses_refresh {exchange : Exchange σ α} {transport : σ} {assembly : Assembly α}
    {origins : Nat → Origin α} (forwards : exchange.Forwards transport assembly origins)
    (bodies : BodyMasses α) (cache : BodyCache α) {index : Nat} (inside : index < assembly.size) :
    (cache.refresh exchange assembly bodies transport).1.masses[index]? =
      some (massFrom (Origin.spread origins assembly.ownedCount bodies index) 0) := by
  let filled := (cache.extended assembly.size).mapIdx fun index mass =>
    if index < assembly.ownedCount then entry bodies index else mass
  let sent := filled.take assembly.size
  let received := (exchange.forward sent assembly.ownedCount transport).1
  have long : assembly.size ≤ filled.length := by
    simp only [filled, List.length_mapIdx, extended, List.length_append, List.length_replicate]
    omega
  have sentLength : sent.length = assembly.size := List.length_take_of_le long
  have receivedLength : received.length = assembly.size :=
    (exchange.forward_length ..).trans sentLength
  have told : ∀ owned, owned < assembly.ownedCount → owned < assembly.size →
      sent[owned]? = some (massFrom (bodies owned) 0) := by
    intro owned own there
    have before : filled[owned]? = some filled[owned] := List.getElem?_eq_getElem _
    rw [List.getElem?_take_of_lt there, before]
    simp only [filled, List.getElem_mapIdx, if_pos own, entry_eq]
  have taken : (cache.refresh exchange assembly bodies transport).1.masses[index]? =
      received[index]? :=
    List.getElem?_append_left (Nat.lt_of_lt_of_eq inside receivedLength.symm)
  rw [taken, Origin.spread]
  split
  case isTrue own => rw [← told index own inside, forwards.owned sent index sentLength own]
  case isFalse foreign =>
    have ghost := Nat.not_lt.mp foreign
    cases origin : origins index with
    | elsewhere mass =>
        rw [forwards.elsewhere sent index mass sentLength ghost inside origin, entry_eq]
        rfl
    | here source =>
        obtain ⟨own, copied⟩ := forwards.here sent index source sentLength ghost inside origin
        have there : source < sent.length := by
          rw [List.getElem?_eq_getElem (Nat.lt_of_lt_of_eq inside receivedLength.symm)] at copied
          exact (List.getElem?_eq_some_iff.mp copied.symm).1
        rw [copied, told source own (Nat.lt_of_lt_of_eq there sentLength)]
        rfl

end BodyCache

/-- A body mass that was told can be looked up where zero stands for none. -/
theorem massFrom_filter (irrefl : ¬(0 : α) < 0) (told : Option α) (own : α) :
    massFrom ((some (massFrom told 0)).filter fun mass => decide (0 < mass)) own =
      massFrom told own := by
  have zero : (some (0 : α)).filter (fun mass => decide (0 < mass)) = none := by
    simp [Option.filter_some, irrefl]
  cases told with
  | none => rw [massFrom_none, zero]
  | some mass =>
      rw [massFrom_some, massFrom_some]
      by_cases positive : 0 < mass
      · simp [positive, massFrom_some, Option.filter_some]
      · simp only [positive, if_false, zero, massFrom_none]

/-- The mass with which a particle counts after a refresh. -/
theorem Particle.resolved_refresh (irrefl : ¬(0 : α) < 0) {exchange : Exchange σ α}
    {transport : σ} {assembly : Assembly α} {origins : Nat → Origin α}
    (forwards : exchange.Forwards transport assembly origins) (bodies : BodyMasses α)
    (cache : BodyCache α) {index : Nat} (inside : index < assembly.size)
    (particle : Particle α) :
    (particle.contactMass (some (cache.refresh exchange assembly bodies transport).1)
        index).resolved =
      massFrom (Origin.spread origins assembly.ownedCount bodies index) particle.mass := by
  have entry := BodyCache.masses_refresh forwards bodies cache inside
  simp only [ContactMass.resolved_eq, contactMass, Option.bind_some, BodyCache.get?, entry]
  exact massFrom_filter irrefl _ _

end GranularBonds

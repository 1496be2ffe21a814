import GranularBonds.Archive.Checkpoint
import GranularBonds.Proofs.Json.Value

/-!
# Forms read back

A form that restores a number restores it also inside of lists and structures:
the text of a part does not depend on where it stands, and the fields of a
structure are found again by their names.
-/

namespace GranularBonds.Archive.Form

open Json (Value)

variable {β : Type} {form : Form β} {value : β}

/-- The text of a value is read as that value. -/
def Restores (form : Form β) (value : β) : Prop :=
  (Value.read? (form.write value).write).bind form.read? = some value

instance [DecidableEq β] : Decidable (form.Restores value) :=
  inferInstanceAs (Decidable (_ = _))

/-- The text of a value is read as that value wherever it stands. -/
def ReadsBack (form : Form β) (value : β) : Prop :=
  ∃ result, (form.write value).ReadsAs result ∧ form.read? result = some value

theorem ReadsBack.restores (back : form.ReadsBack value) : form.Restores value := by
  rcases back with ⟨result, reads, found⟩
  rw [Restores, reads.read?]
  exact found

/-! ## Parts -/

theorem readsBack_flag (value : Bool) : flag.ReadsBack value :=
  ⟨.bool value, Value.readsAs_bool value, rfl⟩

/-- A number that is restored from a text of its own is restored everywhere. -/
theorem readsBack_float {value : Float} (restores : float.Restores value) :
    float.ReadsBack value := by
  rcases Option.bind_eq_some_iff.mp restores with ⟨result, read, found⟩
  cases written : Numeral.ofFloat? value with
  | none =>
      have null : float.write value = .null := by simp only [float, written]
      have lost : (Value.read? Value.null.write).bind float.read? = none := by decide +kernel
      rw [null] at read
      rw [read] at lost
      exact absurd (lost.symm.trans found) nofun
  | some numeral =>
      have number : float.write value = .number numeral := by simp only [float, written]
      rw [number] at read
      cases result with
      | number other =>
          refine ⟨.number other, ?_, found⟩
          rw [number]
          exact Value.readsAs_number (Value.number?_of_read? read)
      | _ => cases found

theorem readsBack_word (value : UInt64) : word.ReadsBack value := by
  refine ⟨word.write value, Value.readsAs_number (Json.Token.number?_toDigits _), ?_⟩
  simp [word, Numeral.toNat?, Numeral.ofNat, value.toNat_lt]

theorem mapM_eq_some_of_forall₂ {γ δ : Type} {read? : γ → Option δ} {items : List γ}
    {values : List δ} (each : List.Forall₂ (fun item value => read? item = some value) items values) :
    items.mapM read? = some values := by
  induction each with
  | nil => rfl
  | cons found each ih => rw [List.mapM_cons, found, ih]; rfl

theorem readsBack_list {values : List β} (each : ∀ value ∈ values, form.ReadsBack value) :
    (list form).ReadsBack values := by
  have results : ∃ results, List.Forall₂ Value.ReadsAs (values.map form.write) results ∧
      List.Forall₂ (fun item value => form.read? item = some value) results values := by
    induction values with
    | nil => exact ⟨[], .nil, .nil⟩
    | cons value values ih =>
        rcases List.forall_mem_cons.mp each with ⟨⟨result, reads, found⟩, each⟩
        rcases ih each with ⟨results, read, founds⟩
        exact ⟨result :: results, .cons reads read, .cons found founds⟩
  rcases results with ⟨results, reads, founds⟩
  exact ⟨.array results, Value.readsAs_array reads, mapM_eq_some_of_forall₂ founds⟩

/-! ## Structures -/

theorem readsAs_fields (names : List String) {values results : List Value}
    (each : List.Forall₂ Value.ReadsAs values results) :
    ((fields names).write values).ReadsAs ((fields names).write results) := by
  apply Value.readsAs_object
  induction names generalizing values results with
  | nil => exact .nil
  | cons name names ih =>
      cases each with
      | nil => exact .nil
      | cons reads each => exact .cons ⟨name, rfl, rfl, reads⟩ (ih each)

/-- Of members with distinct names each is the only one of its name. -/
theorem member?_of_mem {members : List (String × Value)} (distinct : (members.map Prod.fst).Nodup)
    {name : String} {value : Value} (present : (name, value) ∈ members) :
    member? members name = some value := by
  have only : members.filter (fun member => member.1 == name) = [(name, value)] := by
    induction members with
    | nil => cases present
    | cons head members ih =>
        obtain ⟨fresh, distinct⟩ := List.nodup_cons.mp distinct
        rcases List.mem_cons.mp present with rfl | present
        · have others : members.filter (fun member => member.1 == name) = [] := by
            refine List.filter_eq_nil_iff.mpr fun member present same => fresh ?_
            exact List.mem_map.mpr ⟨member, present, beq_iff_eq.mp same⟩
          rw [List.filter_cons_of_pos (by simp), others]
        · have other : head.1 ≠ name := fun same => fresh (same ▸ List.mem_map_of_mem present)
          rw [List.filter_cons_of_neg (by simpa using other), ih distinct present]
  rw [member?, only]

/-- The fields of a structure are found again. -/
theorem read?_fields {names : List String} (distinct : names.Nodup) {values : List Value}
    (complete : values.length = names.length) :
    (fields names).read? ((fields names).write values) = some values := by
  have members : ((names.map some).zip values).mapM
      (fun (member : Json.Key × Value) => member.1.map (·, member.2)) =
        some (names.zip values) := by
    apply mapM_eq_some_of_forall₂
    rw [List.zip_map_left, List.forall₂_map_left_iff]
    exact List.forall₂_same.mpr fun _ _ => rfl
  have keys : ((names.zip values).map Prod.fst).Nodup := by
    rwa [List.map_fst_zip (Nat.le_of_eq complete.symm)]
  have found : names.mapM (member? (names.zip values)) = some values := by
    apply mapM_eq_some_of_forall₂
    exact List.forall₂_iff_zip.mpr ⟨complete.symm, fun present => member?_of_mem keys present⟩
  have read : (fields names).read? ((fields names).write values) =
      (((names.map some).zip values).mapM fun (member : Json.Key × Value) =>
        member.1.map (·, member.2)).bind fun members => names.mapM (member? members) := rfl
  rw [read, members]
  exact found

/-- Every constant of a material is restored from its text. -/
def RestoresAll (material : Material Float) : Prop :=
  ∀ constant ∈ material.named, float.Restores constant.2

instance (material : Material Float) : Decidable (RestoresAll material) :=
  inferInstanceAs (Decidable (∀ _ ∈ _, _))

theorem readsBack_material {material : Material Float} (restores : RestoresAll material) :
    Form.material.ReadsBack material := by
  simp only [RestoresAll, Material.named, List.forall_mem_cons] at restores
  rcases restores with ⟨normalStiffness, tangentialStiffness, normalDamping, tangentialDamping,
    friction, tensileStrength, shearStrength, reach, -⟩
  rcases readsBack_float normalStiffness with ⟨first, readsFirst, foundFirst⟩
  rcases readsBack_float tangentialStiffness with ⟨second, readsSecond, foundSecond⟩
  rcases readsBack_float normalDamping with ⟨third, readsThird, foundThird⟩
  rcases readsBack_float tangentialDamping with ⟨fourth, readsFourth, foundFourth⟩
  rcases readsBack_float friction with ⟨fifth, readsFifth, foundFifth⟩
  rcases readsBack_flag material.damped with ⟨sixth, readsSixth, foundSixth⟩
  rcases readsBack_float tensileStrength with ⟨seventh, readsSeventh, foundSeventh⟩
  rcases readsBack_float shearStrength with ⟨eighth, readsEighth, foundEighth⟩
  rcases readsBack_float reach with ⟨ninth, readsNinth, foundNinth⟩
  refine ⟨materialFields.write
      [first, second, third, fourth, fifth, sixth, seventh, eighth, ninth], ?_, ?_⟩
  · exact readsAs_fields _ <| .cons readsFirst <| .cons readsSecond <| .cons readsThird <|
      .cons readsFourth <| .cons readsFifth <| .cons readsSixth <| .cons readsSeventh <|
      .cons readsEighth <| .cons readsNinth .nil
  · have fields : materialFields.read? (materialFields.write
        [first, second, third, fourth, fifth, sixth, seventh, eighth, ninth]) =
          some [first, second, third, fourth, fifth, sixth, seventh, eighth, ninth] :=
      read?_fields (by decide) rfl
    simp only [Form.material, fields, foundFirst, foundSecond, foundThird, foundFourth,
      foundFifth, foundSixth, foundSeventh, foundEighth, foundNinth]
    rfl

theorem readsBack_pairTable (table : PairTable) : pairTable.ReadsBack table := by
  rcases readsBack_word table.kindWord with ⟨kinds, readsKinds, foundKinds⟩
  rcases readsBack_list fun flag (_ : flag ∈ table.flags.toList) => readsBack_flag flag with
    ⟨flags, readsFlags, foundFlags⟩
  refine ⟨pairTableFields.write [kinds, flags],
    readsAs_fields _ (.cons readsKinds (.cons readsFlags .nil)), ?_⟩
  have fields : pairTableFields.read? (pairTableFields.write [kinds, flags]) =
      some [kinds, flags] := read?_fields (by decide) rfl
  simp only [pairTable, fields, foundKinds, foundFlags]
  rfl

theorem readsBack_checkpoint {checkpoint : Checkpoint}
    (restores : RestoresAll checkpoint.material) : Checkpoint.form.ReadsBack checkpoint := by
  rcases readsBack_material restores with ⟨material, readsMaterial, foundMaterial⟩
  rcases readsBack_pairTable checkpoint.table with ⟨table, readsTable, foundTable⟩
  refine ⟨Checkpoint.fields.write [material, table],
    readsAs_fields _ (.cons readsMaterial (.cons readsTable .nil)), ?_⟩
  have fields : Checkpoint.fields.read? (Checkpoint.fields.write [material, table]) =
      some [material, table] := read?_fields (by decide) rfl
  simp only [Checkpoint.form, fields, foundMaterial, foundTable]
  rfl

end GranularBonds.Archive.Form

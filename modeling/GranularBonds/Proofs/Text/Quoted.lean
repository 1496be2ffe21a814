import GranularBonds.Text.Quoted

/-!
# Quoted text reads back

Every text that is written between quotation marks is found there again, with
all of its characters, however many of them had to be escaped.
-/

namespace GranularBonds.Text

/-! ## Characters that stand for themselves -/

/-- A character that no escape is needed for. -/
def IsPlain (character : Char) : Prop :=
  character ≠ '"' ∧ character ≠ '\\' ∧ isControl character = false

instance (character : Char) : Decidable (IsPlain character) :=
  inferInstanceAs (Decidable (_ ∧ _ ∧ _))

theorem splitBody_plain {character : Char} (plain : IsPlain character) (rest : List Char) :
    splitBody (character :: rest) =
      (splitBody rest).map fun split => (character :: split.1, split.2) := by
  obtain ⟨mark, backslash, control⟩ := plain
  rw [splitBody.eq_def]
  split <;> simp_all

theorem codePoints_plain {character : Char} (plain : IsPlain character) (rest : List Char) :
    codePoints (character :: rest) = (codePoints rest).map (character.toNat :: ·) := by
  obtain ⟨mark, backslash, control⟩ := plain
  rw [codePoints.eq_def]
  split <;> simp_all

/-! ## Escapes -/

theorem isPlain_digitChar {value : Nat} (small : value < 16) : IsPlain (Nat.digitChar value) := by
  revert value
  decide

theorem hexValue?_hexPair {value : Nat} (small : value < 32) :
    hexValue? '0' '0' (Nat.digitChar (value / 16)) (Nat.digitChar (value % 16)) = some value := by
  revert value
  decide

/-- How a character is written: as itself, by a letter that names it, or by its
number. -/
theorem escape_cases (character : Char) :
    (IsPlain character ∧ escape character = [character]) ∨
    (∃ letter, letter ≠ 'u' ∧ isControl letter = false ∧ escaped? letter = some character ∧
      escape character = ['\\', letter]) ∨
    character.toNat < 32 ∧
      escape character = '\\' :: 'u' :: '0' :: '0' :: hexPair character.toNat := by
  unfold escape
  split
  case h_1 => exact .inr (.inl ⟨'"', by decide, by decide, rfl, rfl⟩)
  case h_2 => exact .inr (.inl ⟨'\\', by decide, by decide, rfl, rfl⟩)
  case h_3 => exact .inr (.inl ⟨'n', by decide, by decide, rfl, rfl⟩)
  case h_4 => exact .inr (.inl ⟨'r', by decide, by decide, rfl, rfl⟩)
  case h_5 => exact .inr (.inl ⟨'t', by decide, by decide, rfl, rfl⟩)
  case h_6 mark backslash _ _ _ =>
    split
    case isTrue control => exact .inr (.inr ⟨control, rfl⟩)
    case isFalse printed => exact .inl ⟨⟨mark, backslash, decide_eq_false printed⟩, rfl⟩

theorem splitBody_escape (character : Char) (rest : List Char) :
    splitBody (escape character ++ rest) =
      (splitBody rest).map fun split => (escape character ++ split.1, split.2) := by
  rcases escape_cases character with
    ⟨plain, written⟩ | ⟨letter, -, printed, -, written⟩ | ⟨control, written⟩
  · rw [written]
    exact splitBody_plain plain rest
  · rw [written, List.cons_append, List.singleton_append, splitBody]
    · rw [printed]
      rfl
  · have first := isPlain_digitChar (Nat.div_lt_of_lt_mul (Nat.lt_trans control (by decide)) :
      character.toNat / 16 < 16)
    have second := isPlain_digitChar (Nat.mod_lt character.toNat (by decide) :
      character.toNat % 16 < 16)
    have zero : IsPlain '0' := by decide
    have letter : isControl 'u' = false := by decide
    rw [written]
    simp only [List.cons_append, hexPair, List.nil_append, splitBody, letter, Bool.false_eq_true,
      if_false, splitBody_plain zero, splitBody_plain first, splitBody_plain second,
      Option.map_map]
    rfl

theorem codePoints_escape (character : Char) (rest : List Char) :
    codePoints (escape character ++ rest) = (codePoints rest).map (character.toNat :: ·) := by
  rcases escape_cases character with
    ⟨plain, written⟩ | ⟨letter, unlike, -, named, written⟩ | ⟨control, written⟩
  · rw [written]
    exact codePoints_plain plain rest
  · have read : codePoints ('\\' :: letter :: rest) = do
        let character ← escaped? letter
        let points ← codePoints rest
        return character.toNat :: points :=
      codePoints.eq_3 letter rest fun _ _ _ _ _ same => absurd same unlike
    rw [written, List.cons_append, List.singleton_append, read, named]
    cases codePoints rest <;> rfl
  · rw [written]
    simp only [List.cons_append, hexPair, List.nil_append, codePoints, hexValue?_hexPair control]
    cases codePoints rest <;> rfl

/-! ## Texts -/

theorem splitBody_flatMap_escape (text rest : List Char) :
    splitBody (text.flatMap escape ++ '"' :: rest) = some (text.flatMap escape, rest) := by
  induction text with
  | nil => rfl
  | cons character later ih =>
      rw [List.flatMap_cons, List.append_assoc, splitBody_escape, ih]
      rfl

theorem codePoints_flatMap_escape (text : List Char) :
    codePoints (text.flatMap escape) = some (text.map Char.toNat) := by
  induction text with
  | nil => rfl
  | cons character later ih =>
      rw [List.flatMap_cons, codePoints_escape, ih]
      rfl

/-- No character is half of a pair. -/
theorem not_surrogate (character : Char) :
    isHighSurrogate character.toNat = false ∧ isLowSurrogate character.toNat = false := by
  have valid : character.toNat < 0xD800 ∨ 0xDFFF < character.toNat ∧ character.toNat < 0x110000 :=
    character.valid
  simp only [isHighSurrogate, isLowSurrogate, Bool.and_eq_false_iff, decide_eq_false_iff_not]
  omega

theorem characters?_cons (character : Char) (points : List Nat) :
    characters? (character.toNat :: points) = (characters? points).map (character :: ·) := by
  obtain ⟨high, low⟩ := not_surrogate character
  cases points with
  | nil => simp [characters?, high, low]
  | cons point later => simp [characters?, high, low]

theorem characters?_map_toNat (text : List Char) :
    characters? (text.map Char.toNat) = some text := by
  induction text with
  | nil => rfl
  | cons character later ih =>
      rw [List.map_cons, characters?_cons, ih]
      rfl

end GranularBonds.Text

import GranularBonds.Json.Token
import GranularBonds.Proofs.Text.Quoted

/-!
# Tokens read back

The tokens of a text are found one after the other.  Marks and quoted texts end
where they end; a number goes on as long as it can, so what a number reads as
depends on what follows it, and a row of tokens is read back if every number is
followed by a comma, a closing mark or nothing.
-/

namespace GranularBonds.Json.Token

/-- What may follow a value. -/
def Delimits (rest : List Char) : Prop :=
  ∀ character ∈ rest.head?, character = ',' ∨ character = ']' ∨ character = '}'

/-! ## Numbers -/

section

variable {rest : List Char}

theorem Delimits.cases (delimits : Delimits rest) :
    rest = [] ∨ ∃ later, rest = ',' :: later ∨ rest = ']' :: later ∨ rest = '}' :: later := by
  cases rest with
  | nil => exact .inl rfl
  | cons character later =>
      right
      refine ⟨later, ?_⟩
      rcases delimits character rfl with rfl | rfl | rfl <;> simp

theorem digitRun_of_delimits (delimits : Delimits rest) : Grammar.digitRun rest = ([], rest) := by
  rcases delimits.cases with rfl | ⟨later, rfl | rfl | rfl⟩ <;> rfl

theorem digitRun_append (delimits : Delimits rest) (characters : List Char) :
    Grammar.digitRun (characters ++ rest) =
      ((Grammar.digitRun characters).1, (Grammar.digitRun characters).2 ++ rest) := by
  induction characters with
  | nil => exact digitRun_of_delimits delimits
  | cons character later ih =>
      simp only [Grammar.digitRun, List.cons_append, List.takeWhile_cons, List.dropWhile_cons,
        Prod.mk.injEq] at ih ⊢
      split
      · exact ⟨congrArg _ ih.1, ih.2⟩
      · exact ⟨rfl, rfl⟩

theorem fraction_append (delimits : Delimits rest) (characters : List Char) :
    Grammar.fraction (characters ++ rest) =
      ((Grammar.fraction characters).1, (Grammar.fraction characters).2 ++ rest) := by
  cases characters with
  | nil => rcases delimits.cases with rfl | ⟨later, rfl | rfl | rfl⟩ <;> rfl
  | cons character later =>
      by_cases point : character = '.'
      · rw [point, List.cons_append, Grammar.fraction, Grammar.fraction, digitRun_append delimits]
      · have none : ∀ tail, Grammar.fraction (character :: tail) = (none, character :: tail) := by
          intro tail
          unfold Grammar.fraction
          split
          · simp_all
          · rfl
        rw [List.cons_append, none, none, List.cons_append]

theorem sign_append (delimits : Delimits rest) (characters : List Char) :
    Grammar.sign (characters ++ rest) =
      ((Grammar.sign characters).1, (Grammar.sign characters).2 ++ rest) := by
  cases characters with
  | nil => rcases delimits.cases with rfl | ⟨later, rfl | rfl | rfl⟩ <;> rfl
  | cons character later =>
      simp only [List.cons_append]
      unfold Grammar.sign
      split <;> simp_all

theorem exponent?_append (delimits : Delimits rest) (characters : List Char) :
    Grammar.exponent? (characters ++ rest) =
      (Grammar.exponent? characters).map (Prod.map id (· ++ rest)) := by
  cases characters with
  | nil => rcases delimits.cases with rfl | ⟨later, rfl | rfl | rfl⟩ <;> rfl
  | cons character later =>
      simp only [List.cons_append, Grammar.exponent?, sign_append delimits,
        digitRun_append delimits]
      split
      · split <;> rfl
      · rfl

theorem minus_append (delimits : Delimits rest) (characters : List Char) :
    minus (characters ++ rest) = ((minus characters).1, (minus characters).2 ++ rest) := by
  cases characters with
  | nil => rcases delimits.cases with rfl | ⟨later, rfl | rfl | rfl⟩ <;> rfl
  | cons character later =>
      simp only [List.cons_append]
      unfold minus
      split <;> simp_all

/-- A number reads the same with a delimiter behind it. -/
theorem number?_append (delimits : Delimits rest) (characters : List Char) :
    number? (characters ++ rest) = (number? characters).map (Prod.map id (· ++ rest)) := by
  simp only [number?, minus_append delimits, digitRun_append delimits, fraction_append delimits,
    exponent?_append delimits]
  split
  · rw [Option.map_map, Option.map_map]
    rfl
  · rfl

end

/-! ## Counts -/

/-- The digits of a number above zero begin with another digit than zero. -/
theorem head?_toDigits {value : Nat} (positive : 0 < value) :
    (Nat.toDigits 10 value).head? ≠ some '0' := by
  induction value using Nat.strongRecOn with
  | ind value ih =>
      rw [Nat.toDigits_eq_if (by decide)]
      split
      case isTrue small =>
        have others : ∀ digit < 10, 0 < digit → Nat.digitChar digit ≠ '0' := by decide
        simpa using others value small positive
      case isFalse large =>
        rw [List.head?_append, List.head?_eq_some_head Nat.toDigits_ne_nil, Option.some_or,
          ← List.head?_eq_some_head]
        exact ih (value / 10) (Nat.div_lt_self positive (by decide)) (by omega)

theorem isWhole_toDigits (value : Nat) : isWhole (Nat.toDigits 10 value) = true := by
  have some : (Nat.toDigits 10 value).isEmpty = false := by
    simp [Nat.toDigits_ne_nil]
  simp only [isWhole, some, Bool.not_false, Bool.true_and, Bool.or_eq_true, beq_iff_eq]
  by_cases small : value < 10
  · left
    rw [Nat.toDigits_of_lt_base small]
    rfl
  · right
    exact bne_iff_ne.mpr (head?_toDigits (by omega))

theorem digitRun_of_digits {digits : List Char} (each : ∀ digit ∈ digits, digit.isDigit = true) :
    Grammar.digitRun digits = (digits, []) := by
  have taken : (digits ++ []).takeWhile Char.isDigit = digits ++ [] :=
    List.takeWhile_append_of_pos each
  have left : (digits ++ []).dropWhile Char.isDigit = [] := List.dropWhile_append_of_pos each
  rw [List.append_nil] at taken left
  rw [Grammar.digitRun, taken, left]

theorem minus_of_digits {digits : List Char} (each : ∀ digit ∈ digits, digit.isDigit = true) :
    minus digits = (false, digits) := by
  unfold minus
  split
  case h_1 rest =>
    have sign : Char.isDigit '-' = true := each '-' List.mem_cons_self
    cases sign
  case h_2 => rfl

/-- A natural number reads back from its digits. -/
theorem number?_toDigits (value : Nat) :
    number? (Nat.toDigits 10 value) = some (.ofNat value, []) := by
  have each : ∀ digit ∈ Nat.toDigits 10 value, digit.isDigit = true :=
    fun _ => Nat.isDigit_of_mem_toDigits (by decide) (by decide)
  have told : Numeral.digitsValue (Nat.toDigits 10 value) = value := by
    rw [Numeral.digitsValue, ← Nat.ofDigitChars_eq_foldl]
    exact Nat.ofDigitChars_ten_toDigits
  simp only [number?, minus_of_digits each, digitRun_of_digits each, Grammar.fraction,
    Grammar.exponent?, isWhole_toDigits]
  simp [Grammar.assemble, Numeral.ofNat, told]

/-! ## Texts of numbers -/

/-- The characters of which numbers are written. -/
def isNumeric (character : Char) : Bool :=
  character.isDigit || character == '-' || character == '.' || character == 'e'

theorem isNumeric_of_mem_toDigits {value : Nat} {character : Char}
    (member : character ∈ Nat.toDigits 10 value) : isNumeric character = true := by
  simp [isNumeric, Nat.isDigit_of_mem_toDigits (by decide) (by decide) member]

theorem isNumeric_of_mem_zeros {count : Nat} {character : Char}
    (member : character ∈ Layout.zeros count) : isNumeric character = true := by
  rw [List.eq_of_mem_replicate member]
  rfl

theorem isNumeric_of_mem_placed {layout : Layout} {digits : List Char} {exponent : Int}
    (each : ∀ digit ∈ digits, isNumeric digit = true) :
    ∀ character ∈ layout.placed digits exponent, isNumeric character = true := by
  intro character member
  unfold Layout.placed at member
  dsimp only at member
  split at member
  · rcases List.mem_append.mp member with body | mark
    · rcases List.mem_append.mp body with digit | zero
      · exact each character digit
      · exact isNumeric_of_mem_zeros zero
    · split at mark
      · rcases List.mem_cons.mp mark with rfl | zero
        · rfl
        · rw [List.mem_singleton.mp zero]
          rfl
      · cases mark
  split at member
  · rcases List.mem_append.mp member with whole | fraction
    · exact each character (List.mem_of_mem_take whole)
    · rcases List.mem_cons.mp fraction with rfl | digit
      · rfl
      · exact each character (List.mem_of_mem_drop digit)
  · rcases List.mem_cons.mp member with rfl | fraction
    · rfl
    rcases List.mem_cons.mp fraction with rfl | digits
    · rfl
    rcases List.mem_append.mp digits with zero | digit
    · exact isNumeric_of_mem_zeros zero
    · exact each character digit

theorem isNumeric_of_mem_scaled {digits : List Char} {exponent : Int}
    (each : ∀ digit ∈ digits, isNumeric digit = true) :
    ∀ character ∈ Layout.scaled digits exponent, isNumeric character = true := by
  intro character member
  rcases List.mem_append.mp member with body | power
  · rcases List.mem_append.mp body with whole | fraction
    · exact each character (List.mem_of_mem_take whole)
    · split at fraction
      · cases fraction
      · rcases List.mem_cons.mp fraction with rfl | digit
        · rfl
        · exact each character (List.mem_of_mem_drop digit)
  · rcases List.mem_cons.mp power with rfl | power
    · rfl
    rcases List.mem_append.mp power with sign | digit
    · split at sign
      · rw [List.mem_singleton.mp sign]
        rfl
      · cases sign
    · exact isNumeric_of_mem_toDigits digit

/-- A number is written as its sign and then its digits, alone or laid out. -/
theorem numberText_cases (numeral : Numeral) :
    ∃ unsigned, numberText numeral = (if numeral.negative then '-' :: unsigned else unsigned) ∧
      (unsigned = Nat.toDigits 10 numeral.coefficient ∨
        unsigned = Layout.checkpoint.placed (Nat.toDigits 10 numeral.coefficient)
          numeral.exponent ∨
        unsigned = Layout.scaled (Nat.toDigits 10 numeral.coefficient) numeral.exponent) := by
  unfold numberText
  split
  · exact ⟨_, by split <;> rfl, .inl rfl⟩
  · simp only [Layout.text, String.toList_ofList]
    refine ⟨_, rfl, ?_⟩
    split
    · exact .inr (.inl rfl)
    · exact .inr (.inr rfl)

theorem isNumeric_of_mem_numberText {numeral : Numeral} :
    ∀ character ∈ numberText numeral, isNumeric character = true := by
  have each : ∀ digit ∈ Nat.toDigits 10 numeral.coefficient, isNumeric digit = true :=
    fun _ => isNumeric_of_mem_toDigits
  rcases numberText_cases numeral with ⟨unsigned, written, shape⟩
  have numeric : ∀ character ∈ unsigned, isNumeric character = true := by
    rcases shape with rfl | rfl | rfl
    · exact each
    · exact isNumeric_of_mem_placed each
    · exact isNumeric_of_mem_scaled each
  rw [written]
  split
  · exact List.forall_mem_cons.mpr ⟨rfl, numeric⟩
  · exact numeric

/-- A number begins with a digit or with its sign. -/
theorem numberText_eq_cons (numeral : Numeral) :
    ∃ character later, numberText numeral = character :: later ∧
      (character.isDigit = true ∨ character = '-') := by
  rcases numberText_cases numeral with ⟨unsigned, written, shape⟩
  rcases List.exists_cons_of_ne_nil (Nat.toDigits_ne_nil : Nat.toDigits 10 numeral.coefficient ≠ [])
    with ⟨digit, digits, same⟩
  have head : digit.isDigit = true := by
    apply Nat.isDigit_of_mem_toDigits (by decide : 0 < 10) (by decide)
    rw [same]
    exact List.mem_cons_self
  have begins : ∃ character later, unsigned = character :: later ∧ character.isDigit = true := by
    rw [same] at shape
    rcases shape with rfl | rfl | rfl
    · exact ⟨digit, _, rfl, head⟩
    · unfold Layout.placed
      dsimp only
      split
      · exact ⟨digit, _, rfl, head⟩
      split
      case isTrue inside =>
        rcases Nat.exists_eq_add_of_lt (Int.pos_iff_toNat_pos.mp inside) with ⟨places, point⟩
        rw [point]
        exact ⟨digit, _, rfl, head⟩
      case isFalse => exact ⟨'0', _, rfl, rfl⟩
    · exact ⟨digit, _, rfl, head⟩
  rcases begins with ⟨character, later, rfl, isDigit⟩
  rw [written]
  split
  · exact ⟨'-', _, rfl, .inr rfl⟩
  · exact ⟨character, _, rfl, .inl isDigit⟩

theorem not_space_of_isNumeric {character : Char} (numeric : isNumeric character = true) :
    isSpace character = false := by
  cases space : isSpace character with
  | false => rfl
  | true =>
      simp only [isSpace, Bool.or_eq_true, beq_iff_eq] at space
      rcases space with ((rfl | rfl) | rfl) | rfl <;> cases numeric

/-! ## One token after the other -/

/-- A number is the first token of its text. -/
theorem next?_of_number? {characters rest : List Char} {numeral : Numeral}
    (found : number? characters = some (numeral, rest)) :
    next? characters = some (number numeral, rest) := by
  unfold next?
  split
  case h_11 => rw [found]; rfl
  all_goals cases found

theorem not_space_of_number? {character : Char} {characters rest : List Char} {numeral : Numeral}
    (found : number? (character :: characters) = some (numeral, rest)) :
    isSpace character = false := by
  cases space : isSpace character with
  | false => rfl
  | true =>
      simp only [isSpace, Bool.or_eq_true, beq_iff_eq] at space
      rcases space with ((rfl | rfl) | rfl) | rfl <;> cases found

theorem readFrom_of_next? {character : Char} {characters rest : List Char} {token : Token}
    (before : List Token) (printed : isSpace character = false)
    (found : next? (character :: characters) = some (token, rest)) :
    readFrom before (character :: characters) = readFrom (token :: before) rest := by
  rw [readFrom, if_neg (by simp [printed])]
  split
  case h_1 _ later read =>
    obtain ⟨rfl, rfl⟩ := Prod.mk.inj (Option.some.inj (read.symm.trans found))
    rfl
  case h_2 read =>
    rw [found] at read
    cases read

/-- A reading keeps what was read before, and finds more unless only blanks are
left. -/
theorem readFrom_extends {before tokens : List Token} {characters : List Char}
    (read : readFrom before characters = some tokens) :
    ∃ more, tokens = before.reverse ++ more ∧
      (more = [] → ∀ character ∈ characters, isSpace character = true) := by
  fun_induction readFrom before characters with
  | case1 before =>
      exact ⟨[], by rw [List.append_nil]; exact (Option.some.inj read).symm, fun _ => by simp⟩
  | case2 before character rest space ih =>
      rcases ih read with ⟨more, same, blank⟩
      exact ⟨more, same, fun none => List.forall_mem_cons.mpr ⟨space, blank none⟩⟩
  | case3 before character rest printed token later found ih =>
      rcases ih read with ⟨more, rfl, -⟩
      exact ⟨token :: more, by simp, nofun⟩
  | case4 => cases read

theorem suffix_digitRun (characters : List Char) :
    (Grammar.digitRun characters).2 <:+ characters :=
  List.dropWhile_suffix _

theorem suffix_fraction (characters : List Char) :
    (Grammar.fraction characters).2 <:+ characters := by
  unfold Grammar.fraction
  split
  · exact (suffix_digitRun _).trans (List.suffix_cons _ _)
  · exact List.suffix_rfl

theorem suffix_sign (characters : List Char) : (Grammar.sign characters).2 <:+ characters := by
  unfold Grammar.sign
  split
  · exact List.suffix_cons _ _
  · exact List.suffix_cons _ _
  · exact List.suffix_rfl

theorem suffix_minus (characters : List Char) : (minus characters).2 <:+ characters := by
  unfold minus
  split
  · exact List.suffix_cons _ _
  · exact List.suffix_rfl

theorem suffix_of_exponent? {characters rest : List Char} {exponent : Option Int}
    (found : Grammar.exponent? characters = some (exponent, rest)) : rest <:+ characters := by
  cases characters with
  | nil =>
      cases found
      exact List.suffix_rfl
  | cons mark later =>
      simp only [Grammar.exponent?] at found
      split at found
      · split at found
        · cases found
        · obtain ⟨-, rfl⟩ := Prod.mk.inj (Option.some.inj found)
          exact ((suffix_digitRun _).trans (suffix_sign later)).trans (List.suffix_cons _ _)
      · cases found
        exact List.suffix_rfl

/-- What follows a number stands at the end of the text. -/
theorem suffix_of_number? {characters rest : List Char} {numeral : Numeral}
    (found : number? characters = some (numeral, rest)) : rest <:+ characters := by
  simp only [number?] at found
  split at found
  case isFalse => cases found
  case isTrue =>
    rcases Option.map_eq_some_iff.mp found with ⟨⟨exponent, later⟩, read, same⟩
    obtain ⟨-, rfl⟩ := Prod.mk.inj same
    exact (((suffix_of_exponent? read).trans (suffix_fraction _)).trans (suffix_digitRun _)).trans
      (suffix_minus characters)

theorem next?_of_head {character : Char} (later : List Char)
    (head : character.isDigit = true ∨ character = '-') :
    next? (character :: later) =
      (number? (character :: later)).map fun (numeral, rest) => (number numeral, rest) := by
  rw [next?.eq_def]
  split
  case h_11 => rfl
  all_goals
    rename_i same
    obtain ⟨rfl, -⟩ := List.cons.inj same
    rcases head with digit | minus
    · cases digit
    · cases minus

/-- The text of a number, read alone: a number comes first, and if nothing comes
after it, it takes the whole text. -/
theorem number?_of_readFrom {numeral : Numeral} {tokens : List Token}
    (read : readFrom [] (numberText numeral) = some tokens) :
    ∃ first more, tokens = number first :: more ∧
      (more = [] → number? (numberText numeral) = some (first, [])) := by
  rcases numberText_eq_cons numeral with ⟨character, later, written, head⟩
  have numeric : ∀ character ∈ numberText numeral, isNumeric character = true :=
    isNumeric_of_mem_numberText
  rw [written] at read numeric ⊢
  have printed := not_space_of_isNumeric (numeric character List.mem_cons_self)
  cases found : number? (character :: later) with
  | none =>
      have none : next? (character :: later) = none := by rw [next?_of_head later head, found]; rfl
      rw [readFrom, if_neg (by simp [printed])] at read
      split at read
      · rename_i another
        rw [none] at another
        cases another
      · cases read
  | some result =>
      rw [readFrom_of_next? [] printed (next?_of_number? found)] at read
      rcases readFrom_extends read with ⟨more, same, blank⟩
      refine ⟨result.1, more, same, fun none => ?_⟩
      have blank := blank none
      cases left : result.2 with
      | nil => rw [← left]
      | cons next rest =>
          have member : next ∈ character :: later := by
            apply (suffix_of_number? found).subset
            rw [left]
            exact List.mem_cons_self
          have space := blank next (by rw [left]; exact List.mem_cons_self)
          rw [not_space_of_isNumeric (numeric next member)] at space
          cases space

end GranularBonds.Json.Token

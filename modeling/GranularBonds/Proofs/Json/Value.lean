import Mathlib.Data.List.Forall2
import GranularBonds.Json.Value
import GranularBonds.Proofs.Json.Token

/-!
# Values read back

The text of a value is read as the tokens of another value, which is the same
but for its numbers: a number is read as the numeral that its text writes.  The
tokens of a value make up that value and nothing else, whatever it stands in.
-/

namespace GranularBonds.Json

namespace Token

/-! ## Rows of tokens -/

/-- With this rest behind it, the text of the first row of tokens is read as
the second row. -/
def Reads (rest : List Char) (tokens results : List Token) : Prop :=
  ∀ before, readFrom before (tokens.flatMap text ++ rest) =
    readFrom (results.reverse ++ before) rest

variable {rest : List Char}

theorem Reads.nil : Reads rest [] [] := fun _ => rfl

theorem Reads.append {first second firstRead secondRead : List Token}
    (left : Reads (second.flatMap text ++ rest) first firstRead)
    (right : Reads rest second secondRead) :
    Reads rest (first ++ second) (firstRead ++ secondRead) := by
  intro before
  rw [List.flatMap_append, List.append_assoc, left, right, List.reverse_append, List.append_assoc]

/-- A token that is read whatever follows it. -/
def Closed (token : Token) : Prop :=
  ∀ rest before, readFrom before (token.text ++ rest) = readFrom (token :: before) rest

theorem Closed.reads {token : Token} (closed : token.Closed) : Reads rest [token] [token] := by
  intro before
  rw [List.flatMap_singleton, closed]
  rfl

/-- A mark is a single character. -/
def isMark : Token → Bool
  | openArray | closeArray | openObject | closeObject | comma | colon => true
  | _ => false

theorem closed_of_isMark {token : Token} (mark : token.isMark = true) : token.Closed := by
  intro rest before
  cases token with
  | null | bool | number | string => cases mark
  | _ => exact readFrom_of_next? before rfl rfl

theorem closed_bool (value : Bool) : (bool value).Closed := by
  intro rest before
  cases value
  · exact readFrom_of_next? before rfl rfl
  · exact readFrom_of_next? before rfl rfl

theorem string?_escaped (content : String) (rest : List Char) :
    string? (content.toList.flatMap Text.escape ++ '"' :: rest) =
      some (string (some content), rest) := by
  simp only [string?, Text.splitBody_flatMap_escape, Text.codePoints_flatMap_escape,
    Text.characters?_map_toNat, Option.bind_eq_bind, Option.bind_some, Option.map_some,
    String.ofList_toList]
  rfl

theorem closed_string (content : String) : (string (some content)).Closed := by
  intro rest before
  have written : text (string (some content)) ++ rest =
      '"' :: (content.toList.flatMap Text.escape ++ '"' :: rest) := by
    simp [text, Text.quoted]
  rw [written]
  exact readFrom_of_next? before rfl (string?_escaped content rest)

/-- A number is read if a delimiter follows. -/
theorem reads_number (delimits : Delimits rest) {numeral other : Numeral}
    (found : number? (numberText numeral) = some (other, [])) :
    Reads rest [number numeral] [number other] := by
  intro before
  have next := number?_append delimits (numberText numeral)
  rcases numberText_eq_cons numeral with ⟨character, later, written, -⟩
  rw [List.flatMap_singleton, text]
  rw [found, written] at next
  rw [written]
  exact readFrom_of_next? before (not_space_of_number? next) (next?_of_number? next)

theorem delimits_comma (rest : List Char) : Delimits (',' :: rest) := by
  simp [Delimits]

end Token

namespace Value

open Token (Reads Delimits)

/-! ## Texts and tokens -/

/-- Wherever a value can stand, the text of the first is read as the tokens of
the second. -/
def ReadsAs (value result : Value) : Prop :=
  ∀ rest, Delimits rest → Reads rest value.tokens result.tokens

theorem readsAs_bool (value : Bool) : (bool value).ReadsAs (bool value) :=
  fun _ _ => (Token.closed_bool value).reads

theorem readsAs_number {numeral other : Numeral}
    (found : Token.number? (Token.numberText numeral) = some (other, [])) :
    (number numeral).ReadsAs (number other) :=
  fun _ delimits => Token.reads_number delimits found

theorem reads_mark {mark : Token} (isMark : mark.isMark = true) {rest : List Char} :
    Reads rest [mark] [mark] :=
  (Token.closed_of_isMark isMark).reads

/-- The items of an array are read up to its closing mark. -/
theorem reads_itemTokens {items results : List Value} (each : List.Forall₂ ReadsAs items results)
    {rest : List Char} (delimits : Delimits rest) :
    Reads rest (itemTokens items) (itemTokens results) := by
  induction each with
  | nil => exact .nil
  | @cons item result items results reads each ih =>
      cases each with
      | nil => exact reads rest delimits
      | cons => exact (reads _ (Token.delimits_comma _)).append ((reads_mark rfl).append ih)

theorem readsAs_array {items results : List Value} (each : List.Forall₂ ReadsAs items results) :
    (array items).ReadsAs (array results) := by
  intro rest delimits
  have inside := reads_itemTokens each (by simp [Delimits] : Delimits (']' :: rest))
  exact (reads_mark rfl).append (inside.append (reads_mark rfl))

/-- Members of one name whose values read as each other. -/
def MemberReadsAs (member result : Key × Value) : Prop :=
  ∃ name, member.1 = some name ∧ result.1 = some name ∧ member.2.ReadsAs result.2

/-- The members of an object are read up to its closing mark. -/
theorem reads_memberTokens {members results : List (Key × Value)}
    (each : List.Forall₂ MemberReadsAs members results) {rest : List Char}
    (delimits : Delimits rest) : Reads rest (memberTokens members) (memberTokens results) := by
  induction each with
  | nil => exact .nil
  | @cons member result members results reads each ih =>
      rcases member with ⟨key, value⟩
      rcases result with ⟨sameKey, read⟩
      rcases reads with ⟨name, rfl, rfl, reads⟩
      have key {rest : List Char} : Reads rest [.string name] [.string name] :=
        (Token.closed_string name).reads
      cases each with
      | nil => exact key.append ((reads_mark rfl).append (reads rest delimits))
      | @cons next other members results =>
          have comma : Reads rest (.comma :: memberTokens (next :: members))
              (.comma :: memberTokens (other :: results)) := (reads_mark rfl).append ih
          have value := (reads _ (Token.delimits_comma _)).append comma
          exact key.append ((reads_mark rfl).append value)

theorem readsAs_object {members results : List (Key × Value)}
    (each : List.Forall₂ MemberReadsAs members results) :
    (object members).ReadsAs (object results) := by
  intro rest delimits
  have inside := reads_memberTokens each (by simp [Delimits] : Delimits ('}' :: rest))
  exact (reads_mark rfl).append (inside.append (reads_mark rfl))

/-! ## Tokens and values -/

theorem itemTokens_cons_cons (item next : Value) (items : List Value) :
    itemTokens (item :: next :: items) = item.tokens ++ .comma :: itemTokens (next :: items) :=
  rfl

theorem memberTokens_cons_cons (key : Key) (value : Value) (next : Key × Value)
    (members : List (Key × Value)) :
    memberTokens ((key, value) :: next :: members) =
      .string key :: .colon :: (value.tokens ++ .comma :: memberTokens (next :: members)) :=
  rfl

/-- An array with items does not begin as an empty one. -/
theorem itemTokens_eq_cons (item : Value) (items : List Value) :
    ∃ first later, itemTokens (item :: items) = first :: later ∧ first ≠ .closeArray := by
  have begins : ∃ more, itemTokens (item :: items) = item.tokens ++ more := by
    cases items with
    | nil => exact ⟨[], (List.append_nil _).symm⟩
    | cons next items => exact ⟨_, rfl⟩
  rcases begins with ⟨more, same⟩
  rw [same]
  cases item <;> exact ⟨_, _, rfl, nofun⟩

/-- The first item is taken like every other one. -/
theorem foldlM_firstItem (stack : List Frame) (item : Value) (items : List Value)
    (later : List Token) :
    (itemTokens (item :: items) ++ later).foldlM step (.firstItem stack) =
      (itemTokens (item :: items) ++ later).foldlM step (.value (.array [] :: stack)) := by
  rcases itemTokens_eq_cons item items with ⟨first, more, same, other⟩
  have begins : step (.firstItem stack) first = step (.value (.array [] :: stack)) first := by
    cases first with
    | closeArray => exact absurd rfl other
    | _ => rfl
  rw [same, List.cons_append, List.foldlM_cons, List.foldlM_cons, begins]

/-- The first key is taken like every other one. -/
theorem foldlM_firstKey (stack : List Frame) (member : Key × Value) (members : List (Key × Value))
    (later : List Token) :
    (memberTokens (member :: members) ++ later).foldlM step (.firstKey stack) =
      (memberTokens (member :: members) ++ later).foldlM step (.key [] stack) := by
  cases members <;> rfl

mutual

/-- Where a value is expected, its tokens are taken as that value. -/
theorem foldlM_tokens (stack : List Frame) (later : List Token) :
    ∀ value : Value, (value.tokens ++ later).foldlM step (.value stack) =
      later.foldlM step (close value stack)
  | null | bool _ | number _ | string _ => rfl
  | array items => by
      have inside := foldlM_itemTokens [] stack later items
      cases items with
      | nil => rfl
      | cons item items =>
          rw [tokens, List.cons_append, List.append_assoc, List.singleton_append]
          exact (foldlM_firstItem stack item items _).trans (inside nofun)
  | object members => by
      have inside := foldlM_memberTokens [] stack later members
      cases members with
      | nil => rfl
      | cons member members =>
          rw [tokens, List.cons_append, List.append_assoc, List.singleton_append]
          exact (foldlM_firstKey stack member members _).trans (inside nofun)

theorem foldlM_itemTokens (before : List Value) (stack : List Frame) (later : List Token) :
    ∀ items : List Value, items ≠ [] →
      (itemTokens items ++ .closeArray :: later).foldlM step (.value (.array before :: stack)) =
        later.foldlM step (close (array (before.reverse ++ items)) stack)
  | [], filled => absurd rfl filled
  | item :: items, _ => by
      have first (later : List Token) :=
        foldlM_tokens (.array before :: stack) later item
      have rest := foldlM_itemTokens (item :: before) stack later items
      cases items with
      | nil =>
          rw [← List.reverse_cons]
          exact first (.closeArray :: later)
      | cons next items =>
          rw [List.reverse_cons, List.append_assoc] at rest
          rw [itemTokens_cons_cons, List.append_assoc]
          exact (first _).trans (rest nofun)

theorem foldlM_memberTokens (before : List (Key × Value)) (stack : List Frame)
    (later : List Token) :
    ∀ members : List (Key × Value), members ≠ [] →
      (memberTokens members ++ .closeObject :: later).foldlM step (.key before stack) =
        later.foldlM step (close (object (before.reverse ++ members)) stack)
  | [], filled => absurd rfl filled
  | (key, value) :: members, _ => by
      have first (later : List Token) :=
        foldlM_tokens (.object before key :: stack) later value
      have rest := foldlM_memberTokens ((key, value) :: before) stack later members
      cases members with
      | nil =>
          rw [← List.reverse_cons]
          exact first (.closeObject :: later)
      | cons next members =>
          rw [List.reverse_cons, List.append_assoc] at rest
          rw [memberTokens_cons_cons, List.cons_append, List.cons_append, List.append_assoc]
          exact (first _).trans (rest nofun)

end

/-- The tokens of a value make it up. -/
theorem ofTokens?_tokens (value : Value) : ofTokens? value.tokens = some value := by
  have taken := foldlM_tokens [] [] value
  rw [List.append_nil] at taken
  rw [ofTokens?, taken]
  rfl

/-- The text of a value is read as the other value. -/
theorem ReadsAs.read? {value result : Value} (reads : value.ReadsAs result) :
    Value.read? value.write = some result := by
  have tokens : Token.read value.write = some result.tokens := by
    rw [Token.read, write, Token.write, String.toList_ofList, ← List.append_nil (List.flatMap _ _),
      reads [] nofun [], List.append_nil, Token.readFrom, List.reverse_reverse]
  rw [Value.read?, tokens]
  exact ofTokens?_tokens result

/-- A numeral that is read back from its own text is read from all of it. -/
theorem number?_of_read? {numeral other : Numeral}
    (back : Value.read? (number numeral).write = some (number other)) :
    Token.number? (Token.numberText numeral) = some (other, []) := by
  rcases Option.bind_eq_some_iff.mp back with ⟨tokens, read, made⟩
  rw [Token.read, write, Token.write, String.toList_ofList, Value.tokens, List.flatMap_singleton,
    Token.text] at read
  rcases Token.number?_of_readFrom read with ⟨first, more, rfl, alone⟩
  cases more with
  | nil =>
      cases made
      exact alone rfl
  | cons next more => cases made

end Value

end GranularBonds.Json

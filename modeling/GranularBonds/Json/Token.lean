import GranularBonds.Decimal.Grammar
import GranularBonds.Decimal.Layout
import GranularBonds.Text.Quoted

/-!
# JSON tokens

The marks, words, numbers and strings of a JSON text.  A string that escapes
half a surrogate pair is a token without content: it may stand where nobody
reads it.
-/

namespace GranularBonds.Json

/-- A smallest part of a JSON text. -/
inductive Token where
  | openArray
  | closeArray
  | openObject
  | closeObject
  | comma
  | colon
  | null
  | bool (value : Bool)
  | number (numeral : Numeral)
  | string (content : Option String)
  deriving DecidableEq, Repr

namespace Token

/-- A minus sign, if one comes next. -/
def minus : List Char → Bool × List Char
  | '-' :: rest => (true, rest)
  | characters => (false, characters)

/-- Digits that may stand before the point: at least one, and none after a
leading zero. -/
def isWhole (digits : List Char) : Bool :=
  !digits.isEmpty && (digits.length == 1 || digits.head? != some '0')

/-- A number, and what follows it. -/
def number? (characters : List Char) : Option (Numeral × List Char) :=
  let (negative, unsigned) := minus characters
  let (whole, rest) := Grammar.digitRun unsigned
  let (fraction, rest) := Grammar.fraction rest
  if isWhole whole && fraction != some [] then
    (Grammar.exponent? rest).map fun (exponent, rest) =>
      (Grammar.assemble negative whole fraction exponent, rest)
  else
    none

/-- A string past its opening mark, and what follows it. -/
def string? (characters : List Char) : Option (Token × List Char) := do
  let (body, rest) ← Text.splitBody characters
  let points ← Text.codePoints body
  return (string ((Text.characters? points).map String.ofList), rest)

/-- The first token of a text, and what follows it. -/
def next? (characters : List Char) : Option (Token × List Char) :=
  match characters with
  | '[' :: rest => some (openArray, rest)
  | ']' :: rest => some (closeArray, rest)
  | '{' :: rest => some (openObject, rest)
  | '}' :: rest => some (closeObject, rest)
  | ',' :: rest => some (comma, rest)
  | ':' :: rest => some (colon, rest)
  | '"' :: rest => string? rest
  | 'n' :: 'u' :: 'l' :: 'l' :: rest => some (null, rest)
  | 't' :: 'r' :: 'u' :: 'e' :: rest => some (bool true, rest)
  | 'f' :: 'a' :: 'l' :: 's' :: 'e' :: rest => some (bool false, rest)
  | _ => (number? characters).map fun (numeral, rest) => (number numeral, rest)

theorem length_minus (characters : List Char) :
    (minus characters).2.length ≤ characters.length := by
  unfold minus
  split <;> simp

theorem length_number? {characters rest : List Char} {numeral : Numeral}
    (read : number? characters = some (numeral, rest)) : rest.length < characters.length := by
  simp only [number?] at read
  split at read
  case isFalse => nomatch read
  case isTrue accepted =>
    obtain ⟨⟨exponent, later⟩, found, same⟩ := Option.map_eq_some_iff.mp read
    obtain ⟨_, rfl⟩ := Prod.mk.inj same
    have whole : (Grammar.digitRun (minus characters).2).1.isEmpty = false := by
      simp only [isWhole, Bool.and_eq_true, Bool.not_eq_true'] at accepted
      exact accepted.1.1
    have afterWhole := Grammar.length_digitRun_of_nonempty whole
    have afterFraction := Grammar.length_fraction (Grammar.digitRun (minus characters).2).2
    have afterExponent := Grammar.length_exponent? found
    have afterSign := length_minus characters
    change later.length < characters.length
    omega

theorem length_string? {characters rest : List Char} {token : Token}
    (read : string? characters = some (token, rest)) : rest.length < characters.length := by
  simp only [string?, Option.bind_eq_bind, Option.bind_eq_some_iff, Option.pure_def,
    Option.some.injEq, Prod.mk.injEq] at read
  obtain ⟨⟨body, later⟩, split, _, _, _, rfl⟩ := read
  exact Text.length_splitBody split

/-- A token takes at least one character. -/
theorem length_next? {characters rest : List Char} {token : Token}
    (read : next? characters = some (token, rest)) : rest.length < characters.length := by
  unfold next? at read
  split at read
  case h_7 later => exact Nat.lt_succ_of_lt (length_string? read)
  case h_11 =>
    obtain ⟨⟨numeral, later⟩, found, same⟩ := Option.map_eq_some_iff.mp read
    obtain ⟨_, rfl⟩ := Prod.mk.inj same
    exact length_number? found
  all_goals
    obtain ⟨_, rfl⟩ := Prod.mk.inj (Option.some.inj read)
    simp only [List.length_cons]
    omega

/-- Blanks between tokens. -/
def isSpace (character : Char) : Bool :=
  character == ' ' || character == '\t' || character == '\n' || character == '\r'

/-- The tokens of a text, after those that were read before, latest first. -/
def readFrom (before : List Token) (characters : List Char) : Option (List Token) :=
  match characters with
  | [] => some before.reverse
  | character :: rest =>
      if isSpace character then readFrom before rest
      else
        match _found : next? (character :: rest) with
        | some (token, later) => readFrom (token :: before) later
        | none => none
  termination_by characters.length
  decreasing_by
    · simp
    · exact length_next? _found

/-- The tokens of a text. -/
def read (text : String) : Option (List Token) := readFrom [] text.toList

/-- Text of a numeral: its digits alone, or laid out with a point or an
exponent. -/
def numberText (numeral : Numeral) : List Char :=
  if numeral.integral then
    (if numeral.negative then ['-'] else []) ++ Nat.toDigits 10 numeral.coefficient
  else
    (Layout.checkpoint.text numeral).toList

/-- Text of a token. -/
def text : Token → List Char
  | openArray => ['[']
  | closeArray => [']']
  | openObject => ['{']
  | closeObject => ['}']
  | comma => [',']
  | colon => [':']
  | null => "null".toList
  | bool true => "true".toList
  | bool false => "false".toList
  | number numeral => numberText numeral
  | string content => Text.quoted (content.getD "")

/-- The text of a row of tokens, without blanks. -/
def write (tokens : List Token) : String :=
  String.ofList (tokens.flatMap text)

end Token

end GranularBonds.Json

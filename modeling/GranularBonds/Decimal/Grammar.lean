import GranularBonds.Decimal.Numeral

/-!
# Grammar of number texts

The parts that number texts share (a run of digits, a fraction, an exponent),
and the reading of a whole text as a number.  Texts of settings are generous:
either side of the point may be empty, and the names of infinity and of the
undefined number are numbers too.
-/

namespace GranularBonds.Grammar

/-- Leading decimal digits, and what follows them. -/
def digitRun (characters : List Char) : List Char × List Char :=
  (characters.takeWhile Char.isDigit, characters.dropWhile Char.isDigit)

theorem length_digitRun (characters : List Char) :
    (digitRun characters).2.length ≤ characters.length :=
  (List.dropWhile_sublist _).length_le

theorem length_digitRun_of_nonempty {characters : List Char}
    (nonempty : (digitRun characters).1.isEmpty = false) :
    (digitRun characters).2.length < characters.length := by
  have whole := congrArg List.length (List.takeWhile_append_dropWhile (p := Char.isDigit) (l := characters))
  cases taken : characters.takeWhile Char.isDigit with
  | nil => simp [digitRun, taken] at nonempty
  | cons digit rest =>
      simp only [taken, List.length_append, List.length_cons] at whole
      simp only [digitRun]
      omega

/-- Digits after a point, if a point comes next. -/
def fraction : List Char → Option (List Char) × List Char
  | '.' :: rest => (some (digitRun rest).1, (digitRun rest).2)
  | characters => (none, characters)

theorem length_fraction (characters : List Char) :
    (fraction characters).2.length ≤ characters.length := by
  unfold fraction
  split
  · exact Nat.le_succ_of_le (length_digitRun _)
  · exact Nat.le_refl _

/-- A sign, if one comes next. -/
def sign : List Char → Bool × List Char
  | '-' :: rest => (true, rest)
  | '+' :: rest => (false, rest)
  | characters => (false, characters)

/-- The exponent, zero where none is written.  The mark of an exponent must be
followed by digits. -/
def exponent? (characters : List Char) : Option (Option Int × List Char) :=
  match characters with
  | mark :: rest =>
      if mark == 'e' || mark == 'E' then
        let (negative, unsigned) := sign rest
        let (digits, rest) := digitRun unsigned
        if digits.isEmpty then none
        else
          let power : Int := Numeral.digitsValue digits
          some (some (if negative then -power else power), rest)
      else
        some (none, characters)
  | [] => some (none, [])

theorem length_exponent? {characters rest : List Char} {exponent : Option Int}
    (read : exponent? characters = some (exponent, rest)) :
    rest.length ≤ characters.length := by
  unfold exponent? sign at read
  grind [length_digitRun]

/-- Put the parts of a numeral together. -/
def assemble (negative : Bool) (whole : List Char) (fraction : Option (List Char))
    (exponent : Option Int) : Numeral where
  negative := negative
  coefficient := Numeral.digitsValue (whole ++ fraction.getD [])
  exponent := exponent.getD 0 - (fraction.getD []).length
  integral := fraction.isNone && exponent.isNone

/-- The numeral that a whole text writes, its sign read before. -/
def unsigned? (negative : Bool) (characters : List Char) : Option Numeral := do
  let (whole, rest) := digitRun characters
  let (fraction, rest) := fraction rest
  if whole.isEmpty && (fraction.getD []).isEmpty then none
  let (exponent, rest) ← exponent? rest
  if rest.isEmpty then some (assemble negative whole fraction exponent) else none

/-- The text without the difference of large and small ASCII letters. -/
def folded (characters : List Char) : List Char := characters.map Char.toLower

/-- The number that a setting's text writes. -/
def number? (characters : List Char) : Option Float :=
  let (negative, unsigned) := sign characters
  let named := folded unsigned
  if named == ['i', 'n', 'f'] || named == ['i', 'n', 'f', 'i', 'n', 'i', 't', 'y'] then
    some (if negative then -1 / 0 else 1 / 0)
  else if named == ['n', 'a', 'n'] then
    some (0 / 0)
  else
    (unsigned? negative unsigned).map Numeral.toFloat

end GranularBonds.Grammar

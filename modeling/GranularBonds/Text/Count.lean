import GranularBonds.Decimal.Numeral

/-!
# Counts in text

Unsigned numbers of 64 bits as settings and type ranges write them: decimal
digits after an optional plus sign.
-/

namespace GranularBonds.Text

/-- First number past the counts that text can write. -/
def countLimit : Nat := Nat.pow 2 64

/-- The number that one or more decimal digits write. -/
def digits? (characters : List Char) : Option Nat :=
  if !characters.isEmpty && characters.all Char.isDigit then
    some (Numeral.digitsValue characters)
  else
    none

/-- The count that a text writes. -/
def count? (characters : List Char) : Option Nat :=
  let unsigned := match characters with
    | '+' :: rest => rest
    | _ => characters
  (digits? unsigned).filter (· < countLimit)

/-- The value of an on-off flag: a whole number, with any sign, that is zero
or one. -/
def flag? (characters : List Char) : Option Bool :=
  let (negative, unsigned) := match characters with
    | '+' :: rest => (false, rest)
    | '-' :: rest => (true, rest)
    | _ => (false, characters)
  match digits? unsigned with
  | some 0 => some false
  | some 1 => if negative then none else some true
  | _ => none

end GranularBonds.Text

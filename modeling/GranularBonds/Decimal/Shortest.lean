import GranularBonds.Decimal.Numeral

/-!
# Shortest decimal digits

The numeral with the fewest digits among those that round to a given binary64
number, and of these the nearest.  The search asks one grid of powers of ten
after the other, from coarse to fine, whether one of the two grid points next
to the number rounds to it.
-/

namespace GranularBonds.Shortest

/-- The numbers that round to one number of the format, in quarters of its
last place: the bounds belong to it when the mantissa is even. -/
structure Span where
  low : Nat
  center : Nat
  high : Nat
  exponent : Int
  closed : Bool

/-- Everything that rounds to a number of the format. -/
def Span.ofDyadic (magnitude : Dyadic64) : Span where
  low := 4 * magnitude.mantissa - (if magnitude.lopsided then 1 else 2)
  center := 4 * magnitude.mantissa
  high := 4 * magnitude.mantissa + 2
  exponent := magnitude.exponent - 2
  closed := magnitude.mantissa % 2 == 0

/-- Factors that bring multiples of `2 ^ binary` and multiples of
`10 ^ decimal` to a common whole unit. -/
def commonUnit (binary decimal : Int) : Nat × Nat :=
  (Nat.pow 2 binary.toNat * Nat.pow 10 (-decimal).toNat,
    Nat.pow 10 decimal.toNat * Nat.pow 2 (-binary).toNat)

/-- The multiple of `10 ^ decimal` next to the center that lies in the span,
if one does.  Of two, the nearer; halfway between them, the larger. -/
def Span.pointOnGrid? (span : Span) (decimal : Int) : Option Nat :=
  let (ours, theirs) := commonUnit span.exponent decimal
  let inside (point : Nat) : Bool :=
    if span.closed then
      decide (span.low * ours ≤ point * theirs) && decide (point * theirs ≤ span.high * ours)
    else
      decide (span.low * ours < point * theirs) && decide (point * theirs < span.high * ours)
  let below := span.center * ours / theirs
  let remainder := span.center * ours % theirs
  match inside below, inside (below + 1) with
  | true, true => some (if 2 * remainder < theirs then below else below + 1)
  | true, false => some below
  | false, true => some (below + 1)
  | false, false => none

/-- An exponent of ten above the number, less than three places too high. -/
def leadingExponent (magnitude : Dyadic64) : Int :=
  (magnitude.mantissa.log2 + magnitude.exponent) * 30103 / 100000 + 2

/-- Coefficient and exponent of the shortest numeral.  Seventeen digits always
suffice, so the exact expansion after the search is never taken. -/
def digits (magnitude : Dyadic64) : Nat × Int :=
  if magnitude.mantissa == 0 then (0, 0)
  else
    let top := leadingExponent magnitude
    let found := (List.range 21).findSome? fun (place : Nat) =>
      ((Span.ofDyadic magnitude).pointOnGrid? (top - place)).map (·, top - place)
    found.getD (magnitude.mantissa * Nat.pow 2 magnitude.exponent.toNat
      * Nat.pow 5 (-magnitude.exponent).toNat, min magnitude.exponent 0)

end GranularBonds.Shortest

namespace GranularBonds.Numeral

/-- The shortest numeral of a finite number, marked as one that has a point. -/
def ofReading? : Reading64 → Option Numeral
  | .finite negative magnitude =>
      let (coefficient, exponent) := Shortest.digits magnitude
      some ⟨negative, coefficient, exponent, false⟩
  | _ => none

/-- The shortest numeral of a number, if it is finite. -/
def ofFloat? (value : Float) : Option Numeral :=
  ofReading? (.ofFloat value)

end GranularBonds.Numeral

import GranularBonds.Decimal.Shortest

/-!
# Layout of decimal text

How the digits of a numeral are set: with a point among them, or with one
digit before the point and an exponent behind.  A layout is a record of the
few decisions in which the texts of this library differ.
-/

namespace GranularBonds

/-- Decisions of one kind of number text. -/
structure Layout where
  /-- Whether the digits are written out in place when the decimal point
  stands this many places right of the first digit's left edge. -/
  inPlace : Int → Bool
  /-- Whether a whole number ends in a point and a zero. -/
  marksWhole : Bool

namespace Layout

/-- Messages write every digit in place and a whole number without a point. -/
def message : Layout := ⟨fun _ => true, false⟩

/-- Descriptions write numbers from 0.0001 up to 10 ^ 16 in place. -/
def description : Layout := ⟨fun point => -3 ≤ point && point ≤ 16, true⟩

/-- Checkpoints write numbers from 0.00001 up to 10 ^ 16 in place. -/
def checkpoint : Layout := ⟨fun point => -4 ≤ point && point ≤ 16, true⟩

/-- A row of zeros. -/
def zeros (count : Nat) : List Char := List.replicate count '0'

/-- Digits written out around their decimal point. -/
def placed (layout : Layout) (digits : List Char) (exponent : Int) : List Char :=
  let point := digits.length + exponent
  if 0 ≤ exponent then
    digits ++ zeros exponent.toNat ++ (if layout.marksWhole then ['.', '0'] else [])
  else if 0 < point then
    digits.take point.toNat ++ '.' :: digits.drop point.toNat
  else
    '0' :: '.' :: (zeros (-point).toNat ++ digits)

/-- One digit before the point, the others behind it, then the exponent. -/
def scaled (digits : List Char) (exponent : Int) : List Char :=
  let power := digits.length + exponent - 1
  let sign := if power < 0 then ['-'] else []
  digits.take 1 ++ (if digits.length ≤ 1 then [] else '.' :: digits.drop 1)
    ++ 'e' :: (sign ++ Nat.toDigits 10 power.natAbs)

/-- Text of a numeral. -/
def text (layout : Layout) (numeral : Numeral) : String :=
  let digits := Nat.toDigits 10 numeral.coefficient
  let unsigned :=
    if layout.inPlace (digits.length + numeral.exponent) then
      layout.placed digits numeral.exponent
    else
      scaled digits numeral.exponent
  String.ofList (if numeral.negative then '-' :: unsigned else unsigned)

/-- Text of a number, the infinite and the undefined included. -/
def floatText (layout : Layout) (value : Float) : String :=
  match Reading64.ofFloat value with
  | .undefined => "NaN"
  | .infinite negative => if negative then "-inf" else "inf"
  | .finite negative magnitude =>
      let (coefficient, exponent) := Shortest.digits magnitude
      layout.text ⟨negative, coefficient, exponent, false⟩

end Layout

end GranularBonds

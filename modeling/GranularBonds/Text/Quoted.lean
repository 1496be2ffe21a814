/-!
# Quoted text

Text between quotation marks with escapes, as JSON writes it.  Reading goes in
three passes: the body up to the closing mark, the code points that its
characters and escapes name, and the characters that these make up, in which a
high and a low surrogate stand for one character together.
-/

namespace GranularBonds.Text

/-- A character that must not stand in a body as it is. -/
def isControl (character : Char) : Bool := character.toNat < 0x20

/-- The body of a quoted text and what follows its closing mark. -/
def splitBody : List Char → Option (List Char × List Char)
  | [] => none
  | '"' :: rest => some ([], rest)
  | '\\' :: escaped :: rest =>
      if isControl escaped then none
      else (splitBody rest).map fun split => ('\\' :: escaped :: split.1, split.2)
  | character :: rest =>
      if isControl character then none
      else (splitBody rest).map fun split => (character :: split.1, split.2)

theorem length_splitBody {characters body rest : List Char}
    (split : splitBody characters = some (body, rest)) : rest.length < characters.length := by
  fun_induction splitBody characters generalizing body rest <;>
    grind [Option.map_eq_some_iff]

/-- Value of a hexadecimal digit. -/
def hexDigit? (character : Char) : Option Nat :=
  if '0' ≤ character ∧ character ≤ '9' then some (character.toNat - '0'.toNat)
  else if 'a' ≤ character ∧ character ≤ 'f' then some (character.toNat - 'a'.toNat + 10)
  else if 'A' ≤ character ∧ character ≤ 'F' then some (character.toNat - 'A'.toNat + 10)
  else none

/-- Value of four hexadecimal digits. -/
def hexValue? (first second third fourth : Char) : Option Nat := do
  let first ← hexDigit? first
  let second ← hexDigit? second
  let third ← hexDigit? third
  let fourth ← hexDigit? fourth
  return ((first * 16 + second) * 16 + third) * 16 + fourth

/-- The character that a single letter after a backslash names. -/
def escaped? : Char → Option Char
  | '"' => some '"'
  | '\\' => some '\\'
  | '/' => some '/'
  | 'b' => some '\x08'
  | 'f' => some '\x0c'
  | 'n' => some '\n'
  | 'r' => some '\r'
  | 't' => some '\t'
  | _ => none

/-- Code points named by a body. -/
def codePoints : List Char → Option (List Nat)
  | [] => some []
  | '\\' :: 'u' :: first :: second :: third :: fourth :: rest => do
      let point ← hexValue? first second third fourth
      let points ← codePoints rest
      return point :: points
  | '\\' :: letter :: rest => do
      let character ← escaped? letter
      let points ← codePoints rest
      return character.toNat :: points
  | character :: rest =>
      if character == '\\' then none
      else (codePoints rest).map (character.toNat :: ·)

/-- First half of a pair that stands for one character. -/
def isHighSurrogate (point : Nat) : Bool := 0xD800 ≤ point && point < 0xDC00

/-- Second half of a pair that stands for one character. -/
def isLowSurrogate (point : Nat) : Bool := 0xDC00 ≤ point && point < 0xE000

/-- The character of a pair of surrogates. -/
def joined (high low : Nat) : Char :=
  Char.ofNat (0x10000 + (high - 0xD800) * 0x400 + (low - 0xDC00))

/-- The characters that code points make up, unless a surrogate is left
alone. -/
def characters? : List Nat → Option (List Char)
  | [] => some []
  | high :: low :: rest =>
      if isHighSurrogate high then
        if isLowSurrogate low then (characters? rest).map (joined high low :: ·) else none
      else if isLowSurrogate high then none
      else (characters? (low :: rest)).map (Char.ofNat high :: ·)
  | [point] =>
      if isHighSurrogate point || isLowSurrogate point then none
      else some [Char.ofNat point]

/-- Two hexadecimal digits. -/
def hexPair (value : Nat) : List Char := [Nat.digitChar (value / 16), Nat.digitChar (value % 16)]

/-- How a character is written inside quotation marks. -/
def escape (character : Char) : List Char :=
  match character with
  | '"' => ['\\', '"']
  | '\\' => ['\\', '\\']
  | '\n' => ['\\', 'n']
  | '\r' => ['\\', 'r']
  | '\t' => ['\\', 't']
  | _ =>
      if character.toNat < 0x20 then '\\' :: 'u' :: '0' :: '0' :: hexPair character.toNat
      else [character]

/-- A text between quotation marks. -/
def quoted (text : String) : List Char :=
  '"' :: (text.toList.flatMap escape ++ ['"'])

end GranularBonds.Text

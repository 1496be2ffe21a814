import GranularBonds.Json.Token

/-!
# JSON values

Values as trees, their tokens, and the reading of tokens.  The reader keeps
what is still open on a stack of its own, so values may nest to any depth.
-/

namespace GranularBonds.Json

/-- A key of an object, without content where that cannot be decoded. -/
abbrev Key := Option String

/-- A JSON value. -/
inductive Value where
  | null
  | bool (value : Bool)
  | number (numeral : Numeral)
  | string (content : Option String)
  | array (items : List Value)
  | object (members : List (Key × Value))

namespace Value

mutual

/-- The tokens of a value. -/
def tokens : Value → List Token
  | null => [.null]
  | bool value => [.bool value]
  | number numeral => [.number numeral]
  | string content => [.string content]
  | array items => .openArray :: (itemTokens items ++ [.closeArray])
  | object members => .openObject :: (memberTokens members ++ [.closeObject])

/-- The tokens of array items, with commas between them. -/
def itemTokens : List Value → List Token
  | [] => []
  | [item] => item.tokens
  | item :: rest => item.tokens ++ .comma :: itemTokens rest

/-- The tokens of object members, with commas between them. -/
def memberTokens : List (Key × Value) → List Token
  | [] => []
  | [(key, value)] => .string key :: .colon :: value.tokens
  | (key, value) :: rest => .string key :: .colon :: (value.tokens ++ .comma :: memberTokens rest)

end

/-- The text of a value, without blanks. -/
def write (value : Value) : String := Token.write value.tokens

/-- An array or object that is still open, with what it holds so far, latest
first. -/
inductive Frame where
  | array (before : List Value)
  | object (before : List (Key × Value)) (key : Key)

/-- What the reader waits for. -/
inductive Expecting where
  | value (stack : List Frame)
  | firstItem (stack : List Frame)
  | afterItem (before : List Value) (stack : List Frame)
  | firstKey (stack : List Frame)
  | key (before : List (Key × Value)) (stack : List Frame)
  | colon (before : List (Key × Value)) (key : Key) (stack : List Frame)
  | afterMember (before : List (Key × Value)) (stack : List Frame)
  | nothing (value : Value)

/-- Hand a finished value to what encloses it. -/
def close (value : Value) : List Frame → Expecting
  | [] => .nothing value
  | .array before :: stack => .afterItem (value :: before) stack
  | .object before key :: stack => .afterMember ((key, value) :: before) stack

/-- Begin a value. -/
def start (stack : List Frame) : Token → Option Expecting
  | .null => some (close null stack)
  | .bool value => some (close (bool value) stack)
  | .number numeral => some (close (number numeral) stack)
  | .string content => some (close (string content) stack)
  | .openArray => some (.firstItem stack)
  | .openObject => some (.firstKey stack)
  | _ => none

/-- Take one more token. -/
def step : Expecting → Token → Option Expecting
  | .value stack, token => start stack token
  | .firstItem stack, .closeArray => some (close (array []) stack)
  | .firstItem stack, token => start (.array [] :: stack) token
  | .afterItem before stack, .comma => some (.value (.array before :: stack))
  | .afterItem before stack, .closeArray => some (close (array before.reverse) stack)
  | .firstKey stack, .closeObject => some (close (object []) stack)
  | .firstKey stack, .string key => some (.colon [] key stack)
  | .key before stack, .string key => some (.colon before key stack)
  | .colon before key stack, .colon => some (.value (.object before key :: stack))
  | .afterMember before stack, .comma => some (.key before stack)
  | .afterMember before stack, .closeObject => some (close (object before.reverse) stack)
  | _, _ => none

/-- The value that a row of tokens writes. -/
def ofTokens? (tokens : List Token) : Option Value :=
  match tokens.foldlM step (.value []) with
  | some (.nothing value) => some value
  | _ => none

/-- The value that a text writes. -/
def read? (text : String) : Option Value := (Token.read text).bind ofTokens?

end Value

end GranularBonds.Json

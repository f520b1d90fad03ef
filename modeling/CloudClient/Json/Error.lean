import CloudClient.Number.Numeral

namespace CloudClient.Json

/-- What went wrong while reading JSON text. -/
inductive Problem where
  | expectingValue
  | expectingPropertyName
  | expectingColon
  | expectingComma
  | unterminatedString
  | invalidControlCharacter
  | invalidEscape
  | invalidUnicodeEscape
  | extraData
  | unexpectedBom
  /-- An integer with this many digits, more than may be converted. -/
  | tooManyDigits (count : Nat)
  /-- A container nested too deep, an array or an object. -/
  | tooDeep (array : Bool)
  deriving DecidableEq, Repr



/-- The wording of a reading problem. -/
def Problem.text : Problem → String
  | .expectingValue => "Expecting value"
  | .expectingPropertyName => "Expecting property name enclosed in double quotes"
  | .expectingColon => "Expecting ':' delimiter"
  | .expectingComma => "Expecting ',' delimiter"
  | .unterminatedString => "Unterminated string starting at"
  | .invalidControlCharacter => "Invalid control character at"
  | .invalidEscape => "Invalid \\escape"
  | .invalidUnicodeEscape => "Invalid \\uXXXX escape"
  | .extraData => "Extra data"
  | .unexpectedBom => "Unexpected UTF-8 BOM (decode using utf-8-sig)"
  | .tooManyDigits count => Number.digitLimitText count
  | .tooDeep array =>
    "maximum recursion depth exceeded while decoding a JSON " ++
      (if array then "array" else "object") ++ " from a unicode string"

/-- A reading problem at a place of the text. -/
structure ReadError where
  problem : Problem
  position : Nat
  line : Nat
  column : Nat
  deriving DecidableEq, Repr

/-- The error of a problem at a character index, with its line and column. -/
def ReadError.at (problem : Problem) (text : Array Char) (position : Nat) : ReadError :=
  let before := (text.toList.take position)
  let newlines := before.count '\n'
  let sinceNewline := (before.reverse.takeWhile (· != '\n')).length
  { problem, position, line := newlines + 1, column := sinceNewline + 1 }

/-- The message of a reading error: malformed text is placed, a limit is not. -/
def ReadError.message (e : ReadError) : String :=
  match e.problem with
  | .tooManyDigits _ | .tooDeep _ => e.problem.text
  | _ =>
    e.problem.text ++ ": line " ++ toString e.line ++ " column " ++ toString e.column ++
      " (char " ++ toString e.position ++ ")"

/-- The class of a reading error: decoding, value (too many digits) or recursion error. -/
def ReadError.className (e : ReadError) : String :=
  match e.problem with
  | .tooManyDigits _ => "ValueError"
  | .tooDeep _ => "RecursionError"
  | _ => "JSONDecodeError"

/-- Whether a reading error is one of value: malformed text or too many digits. -/
def ReadError.isValueError (e : ReadError) : Bool := e.className != "RecursionError"

end CloudClient.Json

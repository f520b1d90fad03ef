import CloudClient.Number.Binary
import CloudClient.Number.Shortest
import CloudClient.Text.Blank
import CloudClient.Text.Digits
import CloudClient.Text.Case

namespace CloudClient.Number

-- The core library's powers, as in `CloudClient.Number.Binary`.
attribute [local instance (high)] instPowNat

/-- The character that stands for a character that can be part of no numeral. -/
def foreignMark : Char := '?'

/-- A blank around a numeral: a blank outside ASCII, or an ASCII space character. -/
def isNumeralBlank (c : Char) : Bool :=
  if c.toNat < 128 then c == ' ' || (9 ≤ c.toNat && c.toNat ≤ 13) else Text.isBlank c

/-- Normalises one character of a numeral. -/
def normalizeChar (c : Char) : Char :=
  if isNumeralBlank c then ' '
  else match Text.decimalValue? c with
    | some d => Char.ofNat (48 + d)
    | none => if c.toNat < 128 then c else foreignMark

/-- Normalises the characters of a numeral. -/
def normalizeNumeral (text : String) : List Char := text.toList.map normalizeChar

/-- Removes the spaces at both ends. -/
def trimSpaces (cs : List Char) : List Char :=
  ((cs.dropWhile (· == ' ')).reverse.dropWhile (· == ' ')).reverse

/-- Splits off a leading sign: whether it was a minus, and the rest. -/
def splitSign : List Char → Bool × List Char
  | '-' :: rest => (true, rest)
  | '+' :: rest => (false, rest)
  | cs => (false, cs)

/-- The characters that are ASCII digits. -/
def isDigitChar (c : Char) : Bool := '0' ≤ c && c ≤ '9'

/-- Every underscore stands right after a digit and right before a digit. -/
def underscoresBetweenDigits (cs : List Char) : Bool := go '\x00' cs
where
  /-- The check with the character before the rest. -/
  go (previous : Char) : List Char → Bool
    | [] => previous != '_'
    | c :: rest =>
      if c == '_' then isDigitChar previous && go c rest
      else (previous != '_' || isDigitChar c) && go c rest

/-- The value of a string of ASCII digits. -/
def digitsValue (cs : List Char) : Nat :=
  cs.foldl (fun acc c => acc * 10 + (c.toNat - 48)) 0

/-- Reads a run of digits in which single underscores may separate digits. -/
def readDigitRun (cs : List Char) : Option Nat :=
  if cs.isEmpty then none
  else if cs.all (fun c => isDigitChar c || c == '_') && underscoresBetweenDigits cs then
    some (digitsValue (cs.filter isDigitChar))
  else none

/-- The most digits of an integer converted from text. -/
def maxIntDigits : Nat := 4300

/-- The text of the error of an integer with too many digits to convert. -/
def digitLimitText (count : Nat) : String :=
  "Exceeds the limit (" ++ toString maxIntDigits ++ " digits) for integer string conversion: " ++
    "value has " ++ toString count ++ " digits; use sys.set_int_max_str_digits() to increase " ++
    "the limit"

/-- The number of digits of an integer numeral when there are more than may be converted. -/
def excessDigits? (text : String) : Option Nat :=
  let (_, body) := splitSign ((normalizeNumeral text).dropWhile (· == ' '))
  let run := body.takeWhile fun c => isDigitChar c || c == '_'
  let count := (run.filter isDigitChar).length
  if body.head? != some '_' && underscoresBetweenDigits run && count > maxIntDigits then
    some count
  else none

/-- Reads an integer numeral. -/
def readInteger? (text : String) : Option Int :=
  let (negative, body) := splitSign (trimSpaces (normalizeNumeral text))
  match readDigitRun body with
  | some n => some (if negative then -(n : Int) else n)
  | none => none

/-- The double nearest to `± digits * 10 ^ exp10`, far values settled without computing them. -/
def decimalToFloat (negative : Bool) (digits : Nat) (exp10 : Int) : Float :=
  if digits == 0 then ofRatio negative 0 1
  else
    let magnitude := exp10 + digitCount digits
    if magnitude > 310 then infinity negative
    else if magnitude < -330 then ofRatio negative 0 1
    else if exp10 ≥ 0 then ofRatio negative (digits * 10 ^ exp10.toNat) 1
    else ofRatio negative digits (10 ^ (-exp10).toNat)

/-- Reads the unsigned body of a decimal numeral without underscores. -/
def readUnsignedDecimal (negative : Bool) (body : List Char) : Option Float :=
  let lower := body.map Text.asciiLower
  if lower == "inf".toList || lower == "infinity".toList then some (infinity negative)
  else if lower == "nan".toList then some (assemble negative 2047 (2 ^ (51 : Nat)))
  else
    let whole := body.takeWhile isDigitChar
    let afterWhole := body.dropWhile isDigitChar
    let (fraction, afterFraction) :=
      match afterWhole with
      | '.' :: rest => (rest.takeWhile isDigitChar, rest.dropWhile isDigitChar)
      | rest => ([], rest)
    if whole.isEmpty && fraction.isEmpty then none
    else
      let exponent : Option Int :=
        match afterFraction with
        | [] => some 0
        | e :: rest =>
          if e == 'e' || e == 'E' then
            let (expNegative, expDigits) := splitSign rest
            if !expDigits.isEmpty && expDigits.all isDigitChar then
              let n := (digitsValue expDigits : Int)
              some (if expNegative then -n else n)
            else none
          else none
      match exponent with
      | some e =>
        some (decimalToFloat negative (digitsValue (whole ++ fraction)) (e - fraction.length))
      | none => none

/-- Reads a decimal numeral. -/
def readDecimal? (text : String) : Option Float :=
  let trimmed := trimSpaces (normalizeNumeral text)
  if trimmed.contains '_' && !underscoresBetweenDigits trimmed then none
  else
    let (negative, body) := splitSign (trimmed.filter (· != '_'))
    readUnsignedDecimal negative body

end CloudClient.Number

import CloudClient.Json.Error
import CloudClient.Value.Basic
import CloudClient.Number.Numeral
import CloudClient.Text.Utf8
import CloudClient.Text.Surrogate

namespace CloudClient.Json

open CloudClient

-- The core library's powers, as in `CloudClient.Number.Binary`.
attribute [local instance (high)] instPowNat

/-- The characters allowed between tokens. -/
def isBlank (c : Char) : Bool := c == ' ' || c == '\t' || c == '\n' || c == '\r'

/-- The first place at or after `i` that is not blank, given the characters from `i` on. -/
def skipBlankFrom : List Char → Nat → Nat
  | c :: rest, i => if isBlank c then skipBlankFrom rest (i + 1) else i
  | [], i => i

/-- The first place at or after `i` that is not blank. -/
def skipBlank (text : Array Char) (i : Nat) : Nat := skipBlankFrom (text.toList.drop i) i

/-- Whether a place holds an ASCII digit. -/
def digitAt (text : Array Char) (i : Nat) : Bool :=
  match text[i]? with
  | some c => '0' ≤ c && c ≤ '9'
  | Option.none => false

/-- The first place at or after `i` that holds no digit, given the characters from `i` on. -/
def skipDigitsFrom : List Char → Nat → Nat
  | c :: rest, i => if '0' ≤ c && c ≤ '9' then skipDigitsFrom rest (i + 1) else i
  | [], i => i

/-- The first place at or after `i` that holds no digit. -/
def skipDigits (text : Array Char) (i : Nat) : Nat := skipDigitsFrom (text.toList.drop i) i

/-- Whether the text holds the given characters from a place on. -/
def holdsAt (text : Array Char) (i : Nat) (word : List Char) : Bool :=
  match word with
  | [] => true
  | c :: rest => text[i]? == some c && holdsAt text (i + 1) rest

/-- The value of a hexadecimal digit. -/
def hexValue? (c : Char) : Option Nat :=
  if '0' ≤ c && c ≤ '9' then some (c.toNat - '0'.toNat)
  else if 'a' ≤ c && c ≤ 'f' then some (c.toNat - 'a'.toNat + 10)
  else if 'A' ≤ c && c ≤ 'F' then some (c.toNat - 'A'.toNat + 10)
  else Option.none

/-- The number written by four hexadecimal digits from a place on. -/
def hexQuad? (text : Array Char) (i : Nat) : Option Nat := do
  let a ← hexValue? (← text[i]?)
  let b ← hexValue? (← text[i + 1]?)
  let c ← hexValue? (← text[i + 2]?)
  let d ← hexValue? (← text[i + 3]?)
  pure (((a * 16 + b) * 16 + c) * 16 + d)

/-- The character of an escaped code point; a lone surrogate is kept. -/
def charOfCode (code : Nat) : Char := Text.ofCodePoint code

/-- The character that a one-letter escape stands for. -/
def simpleEscape? : Char → Option Char
  | '"' => some '"'
  | '\\' => some '\\'
  | '/' => some '/'
  | 'b' => some '\x08'
  | 'f' => some '\x0c'
  | 'n' => some '\n'
  | 'r' => some '\r'
  | 't' => some '\t'
  | _ => Option.none

/-- Reads the rest of a string within a budget of characters; `acc` holds those read, last first. -/
def readStringWithin (text : Array Char) (quote : Nat) :
    Nat → Nat → List Char → Except ReadError (String × Nat)
  | 0, _, _ => .error (ReadError.at .unterminatedString text quote)
  | budget + 1, pos, acc =>
    if h : pos < text.size then
      let c := text[pos]
      if c == '"' then .ok (String.ofList acc.reverse, pos + 1)
      else if c == '\\' then
        match text[pos + 1]? with
        | Option.none => .error (ReadError.at .unterminatedString text quote)
        | some 'u' =>
          if text.size ≤ pos + 6 then .error (ReadError.at .invalidUnicodeEscape text (pos + 1))
          else
            match hexQuad? text (pos + 2) with
            | Option.none => .error (ReadError.at .invalidUnicodeEscape text (pos + 1))
            | some high =>
              if 0xD800 ≤ high && high ≤ 0xDBFF && pos + 12 < text.size &&
                  holdsAt text (pos + 6) ['\\', 'u'] then
                match hexQuad? text (pos + 8) with
                | Option.none => .error (ReadError.at .invalidUnicodeEscape text (pos + 7))
                | some low =>
                  if 0xDC00 ≤ low && low ≤ 0xDFFF then
                    let joined := 0x10000 + (high - 0xD800) * 0x400 + (low - 0xDC00)
                    readStringWithin text quote budget (pos + 12) (charOfCode joined :: acc)
                  else readStringWithin text quote budget (pos + 6) (charOfCode high :: acc)
              else readStringWithin text quote budget (pos + 6) (charOfCode high :: acc)
        | some e =>
          match simpleEscape? e with
          | some meant => readStringWithin text quote budget (pos + 2) (meant :: acc)
          | Option.none => .error (ReadError.at .invalidEscape text pos)
      else if c.toNat ≤ 0x1f then .error (ReadError.at .invalidControlCharacter text pos)
      else readStringWithin text quote budget (pos + 1) (c :: acc)
    else .error (ReadError.at .unterminatedString text quote)

/-- Reads the rest of a string whose opening quote is at `quote`, from `pos` on. -/
def readString (text : Array Char) (quote pos : Nat) (acc : List Char) :
    Except ReadError (String × Nat) :=
  -- every step moves past a character, so a budget of the characters left is never exhausted
  readStringWithin text quote (text.size - pos) pos acc

/-- The natural number written by the digits between two places. -/
def digitsBetween (text : Array Char) (start stop : Nat) : Nat :=
  ((text.extract start stop).toList.filter (fun c => '0' ≤ c && c ≤ '9')).foldl
    (fun n c => 10 * n + (c.toNat - '0'.toNat)) 0

/-- Reads a number at `start` by JSON's grammar, giving it and the place after it. -/
def readNumber (text : Array Char) (start : Nat) : Option (Value × Nat) :=
  let negative := text[start]? == some '-'
  let first := if negative then start + 1 else start
  if text.size ≤ first then Option.none
  else
    let afterWhole? : Option Nat :=
      match text[first]? with
      | some c => if '1' ≤ c && c ≤ '9' then some (skipDigits text (first + 1))
        else if c == '0' then some (first + 1) else Option.none
      | Option.none => Option.none
    match afterWhole? with
    | Option.none => Option.none
    | some afterWhole =>
      let hasFraction := afterWhole + 1 < text.size && text[afterWhole]? == some '.' &&
        digitAt text (afterWhole + 1)
      let afterFraction := if hasFraction then skipDigits text (afterWhole + 2) else afterWhole
      let exponentMark := afterFraction + 1 < text.size &&
        (text[afterFraction]? == some 'e' || text[afterFraction]? == some 'E')
      let signAt := afterFraction + 1
      let expSigned := exponentMark && signAt + 1 < text.size &&
        (text[signAt]? == some '-' || text[signAt]? == some '+')
      let digitsFrom := if expSigned then signAt + 1 else signAt
      let afterExponent := skipDigits text digitsFrom
      let hasExponent := exponentMark && afterExponent > digitsFrom
      let stop := if hasExponent then afterExponent else afterFraction
      let wholeDigits := digitsBetween text first afterWhole
      if !hasFraction && !hasExponent then
        some (.int (if negative then -(wholeDigits : Int) else wholeDigits), stop)
      else
        let fractionDigits := if hasFraction then afterFraction - (afterWhole + 1) else 0
        let digits := wholeDigits * 10 ^ fractionDigits +
          (if hasFraction then digitsBetween text (afterWhole + 1) afterFraction else 0)
        let exponentValue : Int :=
          if hasExponent then
            let size := (digitsBetween text digitsFrom afterExponent : Int)
            if expSigned && text[signAt]? == some '-' then -size else size
          else 0
        some (.float (Number.decimalToFloat negative digits (exponentValue - fractionDigits)),
          stop)

/-- Sets a member of an object being read: a repeated key keeps its place, with the new value. -/
def setMember (members : List (String × Value)) (key : String) (value : Value) :
    List (String × Value) :=
  if members.any (·.1 == key) then
    members.map fun member => if member.1 == key then (key, value) else member
  else members ++ [(key, value)]

/-- The deepest nesting of containers read; a container inside this many fails. -/
def maxNesting : Nat := 980

/-- The number of digits of an integer that starts at `start` and ends before `stop`. -/
def integerDigits (text : Array Char) (start stop : Nat) : Nat :=
  if text[start]? == some '-' then stop - start - 1 else stop - start

mutual

/-- Reads a value starting at `i`, inside `depth` containers. -/
def readValue (text : Array Char) : Nat → Nat → Nat → Except ReadError (Value × Nat)
  | 0, _, i => .error (ReadError.at .expectingValue text i)
  | fuel + 1, depth, i =>
    match text[i]? with
    | Option.none => .error (ReadError.at .expectingValue text i)
    | some '"' => do
      let (s, next) ← readString text i (i + 1) []
      pure (.str s, next)
    | some '{' =>
      if depth ≥ maxNesting then .error (ReadError.at (.tooDeep false) text i)
      else
        let start := skipBlank text (i + 1)
        if text[start]? == some '}' then .ok (.dict [], start + 1)
        else readMembers text (depth + 1) fuel start []
    | some '[' =>
      if depth ≥ maxNesting then .error (ReadError.at (.tooDeep true) text i)
      else readArray text (depth + 1) fuel (i + 1) []
    | some c =>
      if c == 'n' && holdsAt text i "null".toList then .ok (.none, i + 4)
      else if c == 't' && holdsAt text i "true".toList then .ok (.bool true, i + 4)
      else if c == 'f' && holdsAt text i "false".toList then .ok (.bool false, i + 5)
      else if c == 'N' && holdsAt text i "NaN".toList then
        .ok (.float (Number.assemble false 2047 (2 ^ (51 : Nat))), i + 3)
      else if c == 'I' && holdsAt text i "Infinity".toList then
        .ok (.float (Number.infinity false), i + 8)
      else if c == '-' && holdsAt text i "-Infinity".toList then
        .ok (.float (Number.infinity true), i + 9)
      else
        match readNumber text i with
        | some (.int n, stop) =>
          let count := integerDigits text i stop
          if count > Number.maxIntDigits then .error (ReadError.at (.tooManyDigits count) text i)
          else .ok (.int n, stop)
        | some result => .ok result
        | Option.none => .error (ReadError.at .expectingValue text i)
termination_by structural fuel => fuel

/-- Reads the members of an object from the place of a key on; `members` are those read so far. -/
def readMembers (text : Array Char) (depth : Nat) :
    Nat → Nat → List (String × Value) → Except ReadError (Value × Nat)
  | 0, i, _ => .error (ReadError.at .expectingValue text i)
  | fuel + 1, i, members => do
    if text[i]? != some '"' then throw (ReadError.at .expectingPropertyName text i)
    let (key, afterKey) ← readString text i (i + 1) []
    let colon := skipBlank text afterKey
    if text[colon]? != some ':' then throw (ReadError.at .expectingColon text colon)
    let (value, afterValue) ← readValue text fuel depth (skipBlank text (colon + 1))
    let members := setMember members key value
    let next := skipBlank text afterValue
    if text[next]? == some '}' then
      pure (.dict (members.map fun member => (.str member.1, member.2)), next + 1)
    else if text[next]? != some ',' then throw (ReadError.at .expectingComma text next)
    else readMembers text depth fuel (skipBlank text (next + 1)) members
termination_by structural fuel => fuel

/-- Reads the items of an array after its bracket or a comma; `items` are those read, last first. -/
def readArray (text : Array Char) (depth : Nat) :
    Nat → Nat → List Value → Except ReadError (Value × Nat)
  | 0, i, _ => .error (ReadError.at .expectingValue text i)
  | fuel + 1, i, items => do
    let start := skipBlank text i
    if items.isEmpty && text[start]? == some ']' then return (.list [], start + 1)
    let (item, afterItem) ← readValue text fuel depth start
    let next := skipBlank text afterItem
    if text[next]? == some ']' then pure (.list (item :: items).reverse, next + 1)
    else if text[next]? != some ',' then throw (ReadError.at .expectingComma text next)
    else readArray text depth fuel (next + 1) (item :: items)
termination_by structural fuel => fuel

end

/-- Reads a whole JSON text: one value, with blanks around it and nothing else. -/
def readChars (text : Array Char) : Except ReadError Value := do
  if text[0]? == some '﻿' then throw (ReadError.at .unexpectedBom text 0)
  let (value, stop) ← readValue text (text.size + 1) 0 (skipBlank text 0)
  let stop := skipBlank text stop
  if stop != text.size then throw (ReadError.at .extraData text stop)
  pure value

/-- Reads a whole JSON text given as a string. -/
def read (source : String) : Except ReadError Value := readChars source.toList.toArray

/-- Reads JSON from bytes taken as UTF-8, malformed parts read as replacement characters. -/
def readBytes (bytes : List UInt8) : Except ReadError Value :=
  readChars (Text.decodeLossy bytes).toArray

end CloudClient.Json

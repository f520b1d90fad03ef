import CloudClient.Value.Basic
import CloudClient.Number.FloatText
import CloudClient.Text.Printable
import CloudClient.Text.Surrogate

namespace CloudClient

/-- Where the record kinds live, as the display of a record kind names it. -/
def recordModulePath : String := "do_toolkit.cloud.models"

/-- Lower-case hexadecimal digits of a number, padded with zeros to `width`. -/
def hexDigits (width n : Nat) : String :=
  let digits := Nat.toDigits 16 n
  String.ofList (List.replicate (width - digits.length) '0' ++ digits)

/-- The quote for a text: double when it holds a single quote and no double one, else single. -/
def quoteFor (hasSingle hasDouble : Bool) : Char :=
  if hasSingle && !hasDouble then '"' else '\''

/-- The escaped form of one character of quoted text. -/
def escapeChar (quote : Char) (c : Char) : String :=
  if c == quote || c == '\\' then String.ofList ['\\', c]
  else if c == '\t' then "\\t"
  else if c == '\n' then "\\n"
  else if c == '\r' then "\\r"
  else if c.toNat < 0x20 || c.toNat == 0x7f then "\\x" ++ hexDigits 2 c.toNat
  else if c.toNat < 0x7f then String.singleton c
  else if let some code := Text.heldSurrogate? c then "\\u" ++ hexDigits 4 code
  else if Text.isPrintable c then String.singleton c
  else if c.toNat ≤ 0xff then "\\x" ++ hexDigits 2 c.toNat
  else if c.toNat ≤ 0xffff then "\\u" ++ hexDigits 4 c.toNat
  else "\\U" ++ hexDigits 8 c.toNat

/-- The quoted text of a text. -/
def quoteText (text : String) : String :=
  let quote := quoteFor (text.contains '\'') (text.contains '"')
  String.singleton quote ++ String.join (text.toList.map (escapeChar quote)) ++
    String.singleton quote

/-- The escaped form of one byte of quoted bytes. -/
def escapeByte (quote : Char) (b : UInt8) : String :=
  let c := Char.ofNat b.toNat
  if c == quote || c == '\\' then String.ofList ['\\', c]
  else if c == '\t' then "\\t"
  else if c == '\n' then "\\n"
  else if c == '\r' then "\\r"
  else if b < 0x20 || b ≥ 0x7f then "\\x" ++ hexDigits 2 b.toNat
  else String.singleton c

/-- The quoted text of bytes. -/
def quoteBytes (data : List UInt8) : String :=
  let quote := quoteFor (data.contains 39) (data.contains 34)
  "b" ++ String.singleton quote ++ String.join (data.map (escapeByte quote)) ++
    String.singleton quote

/-- The quoted text of a span of time given in microseconds. -/
def durationText (micros : Int) : String :=
  let day : Int := 86400000000
  let days := micros / day
  let rest := micros % day
  let seconds := rest / 1000000
  let micro := rest % 1000000
  let parts :=
    (if days != 0 then ["days=" ++ toString days] else []) ++
    (if seconds != 0 then ["seconds=" ++ toString seconds] else []) ++
    (if micro != 0 then ["microseconds=" ++ toString micro] else [])
  "datetime.timedelta(" ++ (if parts.isEmpty then "0" else ", ".intercalate parts) ++ ")"

/-- The quoted text of a timestamp. -/
def timestampRepr (t : Timestamp) : String :=
  let fields := [t.year, t.month, t.day, t.hour, t.minute, t.second, t.microsecond]
  let shown :=
    if t.microsecond != 0 then fields
    else if t.second != 0 then fields.take 6
    else fields.take 5
  let zone := match t.offset with
    | none => ""
    | some 0 => ", tzinfo=datetime.timezone.utc"
    | some offset => ", tzinfo=datetime.timezone(" ++ durationText offset ++ ")"
  "datetime.datetime(" ++ ", ".intercalate (shown.map toString) ++ zone ++ ")"

/-- The message of the error raised for a text that is no timestamp. -/
def Timestamp.IsoProblem.message (text : String) : Timestamp.IsoProblem → String
  | .malformed => "Invalid isoformat string: " ++ quoteText text
  | .offsetRange micros =>
    "offset must be a timedelta strictly between -timedelta(hours=24) and " ++
      "timedelta(hours=24), not " ++ durationText micros ++ "."
  | .yearRange year => "year " ++ toString year ++ " is out of range"
  | .monthRange => "month must be in 1..12"
  | .dayRange => "day is out of range for month"
  | .hourRange => "hour must be in 0..23"
  | .minuteRange => "minute must be in 0..59"
  | .secondRange => "second must be in 0..59"

namespace Value

/-- The quoted text of a value. -/
def quoted : Value → String
  | .none => "None"
  | .bool b => if b then "True" else "False"
  | .int n => toString n
  | .float x => Number.floatText x
  | .str text => quoteText text
  | .bytes data => quoteBytes data
  | .list items => "[" ++ ", ".intercalate (quotedAll items) ++ "]"
  | .tuple items =>
    match quotedAll items with
    | [single] => "(" ++ single ++ ",)"
    | texts => "(" ++ ", ".intercalate texts ++ ")"
  | .dict entries => "\x7b" ++ ", ".intercalate (quotedEntries entries) ++ "\x7d"
  | .set items =>
    if items.isEmpty then "set()" else "\x7b" ++ ", ".intercalate (quotedAll items) ++ "\x7d"
  | .record kind fields =>
    kind.name ++ "(" ++ ", ".intercalate (quotedFields fields kind.fieldNames) ++ ")"
  | .recordClass kind => "<class '" ++ recordModulePath ++ "." ++ kind.name ++ "'>"
  | .time t => timestampRepr t
  | .handle .notImplemented => "NotImplemented"
  | .handle (.classObject className) => "<class '" ++ className ++ "'>"
  | .handle h => "<" ++ h.typeName ++ " object>"
where
  /-- The quoted texts of the members of a sequence. -/
  quotedAll : List Value → List String
    | [] => []
    | item :: rest => item.quoted :: quotedAll rest
  /-- The quoted texts of the entries of a mapping, as `key: value`. -/
  quotedEntries : List (Value × Value) → List String
    | [] => []
    | (key, value) :: rest => (key.quoted ++ ": " ++ value.quoted) :: quotedEntries rest
  /-- The quoted texts of the fields of a record, as `name=value`. -/
  quotedFields : List Value → List String → List String
    | value :: values, name :: names => (name ++ "=" ++ value.quoted) :: quotedFields values names
    | _, _ => []

/-- The plain text of a value. -/
def plain : Value → String
  | .str text => text
  | .time t => t.isoText ' '
  | v => v.quoted

@[simp] theorem plain_str (text : String) : (Value.str text).plain = text := rfl

end Value

end CloudClient

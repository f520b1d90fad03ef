import CloudClient.Number.Numeral
import CloudClient.Text.Surrogate

namespace CloudClient

/-- A date and time of day, with an offset from UTC in microseconds when it is known. -/
structure Timestamp where
  year : Nat
  month : Nat
  day : Nat
  hour : Nat := 0
  minute : Nat := 0
  second : Nat := 0
  microsecond : Nat := 0
  offset : Option Int := none
  deriving DecidableEq, Repr

namespace Timestamp

-- Powers and sums are those of the core library, `Nat.pow` and a sum from `0`, whatever other
-- instances are in scope.
attribute [local instance (high)] instPowNat Zero.ofOfNat0

/-- The number of days in a month of a year. -/
def daysInMonth (year month : Nat) : Nat :=
  if month == 2 then
    if (year % 4 == 0 && year % 100 != 0) || year % 400 == 0 then 29 else 28
  else if month == 4 || month == 6 || month == 9 || month == 11 then 30
  else 31

/-- The bytes of an ISO text read as a zero-terminated string. -/
structure IsoText where
  bytes : Array UInt8

namespace IsoText

/-- The byte at a position. -/
def byte (t : IsoText) (i : Nat) : UInt8 := t.bytes.getD i 0

/-- The byte at a position is an ASCII digit. -/
def digitAt (t : IsoText) (i : Nat) : Bool := 48 ≤ t.byte i && t.byte i ≤ 57

/-- The byte at a position is the given ASCII character. -/
def holds (t : IsoText) (i : Nat) (c : Char) : Bool := t.byte i == c.toNat.toUInt8

/-- Reads `count` digits from `pos` onto `acc`: the value and the position after them. -/
def digits (t : IsoText) (pos : Nat) : Nat → Nat → Option (Nat × Nat)
  | 0, acc => some (acc, pos)
  | count + 1, acc =>
    if t.digitAt pos then t.digits (pos + 1) count (acc * 10 + (t.byte pos).toNat - 48) else none

/-- The first position from `pos` on, before `limit`, whose byte is no digit. -/
def firstNonDigit (t : IsoText) (pos limit : Nat) : Nat :=
  go pos (limit - pos)
where
  /-- The search with the positions left to look at. -/
  go (i : Nat) : Nat → Nat
    | 0 => i
    | left + 1 => if t.digitAt i then go (i + 1) left else i

/-- The position after a run of digits starting at `pos`, which ends within `fuel` bytes. -/
def skipDigits (t : IsoText) (pos : Nat) : Nat → Nat
  | 0 => pos
  | fuel + 1 => if t.digitAt pos then t.skipDigits (pos + 1) fuel else pos

/-- Where the date ends and the separator stands, by the date's form. -/
def separator? (t : IsoText) (len : Nat) : Option Nat :=
  if len == 7 then some 7
  else if t.holds 4 '-' then
    if t.holds 5 'W' then
      if len < 8 then none
      else if len > 8 && t.holds 8 '-' then
        if len == 9 then none
        else if len > 10 && t.digitAt 10 then some 8
        else some 10
      else some 8
    else some 10
  else if t.holds 4 'W' then
    let idx := t.firstNonDigit 7 len
    if idx < 9 then some idx
    else if idx % 2 == 0 then some 7
    else some 8
  else some 8

end IsoText

/-- Days before the first day of a year, counted from 0001-01-01. -/
def daysBeforeYear (year : Nat) : Nat :=
  let y := year - 1
  y * 365 + y / 4 - y / 100 + y / 400

/-- Days of a year before the first day of a month. -/
def daysBeforeMonth (year month : Nat) : Nat :=
  ((List.range (month - 1)).map fun m => daysInMonth year (m + 1)).sum

/-- The ordinal of a date: 0001-01-01 is day 1. -/
def ordinal (year month day : Nat) : Nat := daysBeforeYear year + daysBeforeMonth year month + day

/-- The month and day of a day of a year counted from 0, searching the months from `month`. -/
def monthDay (year : Nat) (month : Nat) (dayOfYear : Nat) : Nat → Nat × Nat
  | 0 => (month, dayOfYear + 1)
  | fuel + 1 =>
    if dayOfYear < daysInMonth year month || month ≥ 12 then (month, dayOfYear + 1)
    else monthDay year (month + 1) (dayOfYear - daysInMonth year month) fuel

/-- The date of an ordinal at least 1. -/
def ofOrdinal (ord : Nat) : Nat × Nat × Nat :=
  let n := ord - 1
  let n400 := n / 146097
  let r400 := n % 146097
  let n100 := r400 / 36524
  let r100 := r400 % 36524
  let n4 := r100 / 1461
  let r4 := r100 % 1461
  let n1 := r4 / 365
  let r1 := r4 % 365
  let year := n400 * 400 + 1 + n100 * 100 + n4 * 4 + n1
  if n1 == 4 || n100 == 4 then (year - 1, 12, 31)
  else
    let (month, day) := monthDay year 1 r1 12
    (year, month, day)

/-- The date of an ISO week date, when the week and the weekday exist. -/
def ofIsoWeek? (year week weekday : Nat) : Option (Nat × Nat × Nat) :=
  let first := ordinal year 1 1
  let firstWeekday := (first + 6) % 7
  let leap := (year % 4 == 0 && year % 100 != 0) || year % 400 == 0
  let weekValid := (1 ≤ week && week < 53) ||
    (week == 53 && (firstWeekday == 3 || (firstWeekday == 2 && leap)))
  if !weekValid || weekday == 0 || weekday ≥ 8 then none
  else
    let mondayBefore := first - firstWeekday
    let weekOneMonday := if firstWeekday > 3 then mondayBefore + 7 else mondayBefore
    some (ofOrdinal (weekOneMonday + (week - 1) * 7 + weekday - 1))

/-- Reads the date that ends at `len`: year, month and day. -/
def readDate (t : IsoText) (len : Nat) : Option (Nat × Nat × Nat) := do
  let (year, p) ← t.digits 0 4 0
  let dashed := t.holds p '-'
  let p := if dashed then p + 1 else p
  if t.holds p 'W' then
    let (week, p) ← t.digits (p + 1) 2 0
    let weekday ← if p < len then do
        if dashed && !t.holds p '-' then none
        let (weekday, _) ← t.digits (if dashed then p + 1 else p) 1 0
        pure weekday
      else pure 1
    ofIsoWeek? year week weekday
  else
    let (month, p) ← t.digits p 2 0
    if dashed && !t.holds p '-' then none
    let (day, _) ← t.digits (if dashed then p + 1 else p) 2 0
    pure (year, month, day)

/-- A time of day as read, and whether the text goes on past what was read. -/
structure Clock where
  hour : Nat := 0
  minute : Nat := 0
  second : Nat := 0
  microsecond : Nat := 0
  more : Bool := false

/-- Reads the fraction of a second: six digits scaled to microseconds, the rest skipped. -/
def readFraction (t : IsoText) (p stop : Nat) (clock : Clock) : Option Clock := do
  let count := min 6 (stop - p)
  let (micro, p) ← t.digits p count 0
  let p := t.skipDigits p t.bytes.size
  pure { clock with microsecond := micro * 10 ^ (6 - count), more := t.byte p != 0 }

/-- Reads `HH[:MM[:SS]][.fraction]` from `p` to `stop`, the colons used throughout or not at all. -/
def readClock (t : IsoText) (p stop : Nat) : Option Clock :=
  field 0 p true {}
where
  /-- Reads field `i` at `p`, with whether the first field was followed by a colon. -/
  field (i p : Nat) (colons : Bool) (clock : Clock) : Option Clock :=
    if i ≥ 3 then readFraction t p stop clock
    else do
      let (value, p) ← t.digits p 2 0
      let clock := match i with
        | 0 => { clock with hour := value }
        | 1 => { clock with minute := value }
        | _ => { clock with second := value }
      let c := t.byte p
      let colons := if i == 0 then c == ':'.toNat.toUInt8 else colons
      if p + 1 ≥ stop then pure { clock with more := c != 0 }
      else if colons && c == ':'.toNat.toUInt8 then field (i + 1) (p + 1) colons clock
      else if c == '.'.toNat.toUInt8 || c == ','.toNat.toUInt8 then
        readFraction t (p + 1) stop clock
      else if !colons then field (i + 1) p colons clock
      else none
  termination_by 3 - i

/-- The first position from `p` on whose byte marks an offset (`Z`, `+` or `-`). -/
def offsetStart (t : IsoText) (p stop : Nat) : Nat :=
  if t.holds p 'Z' || t.holds p '+' || t.holds p '-' then p
  else go (p + 1) (stop - (p + 1))
where
  /-- The search with the positions left to look at. -/
  go (i : Nat) : Nat → Nat
    | 0 => max i stop
    | left + 1 => if t.holds i 'Z' || t.holds i '+' || t.holds i '-' then i else go (i + 1) left

/-- Reads the time from `p` to `stop`: the clock, and the offset when there is one. -/
def readTime (t : IsoText) (p stop : Nat) : Option (Clock × Option (Int × Int)) := do
  let zone := offsetStart t p stop
  let clock ← readClock t p zone
  if zone == stop then
    if clock.more then none else pure (clock, none)
  else if t.holds zone 'Z' then
    if t.byte (zone + 1) != 0 then none else pure (clock, some (0, 0))
  else
    let sign : Int := if t.holds zone '-' then -1 else 1
    let offset ← readClock t (zone + 1) stop
    if offset.more then none
    else
      pure (clock, some (sign * ((offset.hour * 3600 + offset.minute * 60 + offset.second : Nat)),
        sign * (offset.microsecond : Int)))

/-- Why a text is no timestamp. -/
inductive IsoProblem where
  /-- The text is not in any of the accepted forms. -/
  | malformed
  /-- The offset from UTC, in microseconds, is a day or more. -/
  | offsetRange (micros : Int)
  /-- The year is outside 1 to 9999. -/
  | yearRange (year : Nat)
  | monthRange
  | dayRange
  | hourRange
  | minuteRange
  | secondRange
  deriving DecidableEq, Repr

/-- Reads a timestamp from ISO 8601 text: offset checked first, then the date, then the time. -/
def fromIso (text : String) : Except IsoProblem Timestamp := do
  if text.length < 7 then throw .malformed
  let chars := text.toList
  let isHeld := fun (c : Char) => (Text.heldSurrogate? c).isSome
  let chars := match [7, 8, 10].find? fun pos => (chars[pos]?.map isHeld).getD false with
    | some pos => chars.set pos 'T'
    | none => chars
  if chars.any isHeld then throw .malformed
  let t : IsoText := ⟨(String.ofList chars).toUTF8.data⟩
  let len := t.bytes.size
  let some sep := t.separator? len | throw .malformed
  let some (year, month, day) := readDate t sep | throw .malformed
  let (clock, zone) ← if len > sep then
      match readTime t (sep + 1) len with
      | some result => pure result
      | none => throw .malformed
    else pure ({}, none)
  let offset ← match zone with
    | none => pure none
    | some (seconds, micros) =>
      if seconds == 0 then pure (some 0)
      else
        let total := seconds * 1000000 + micros
        if total.natAbs ≥ 86400000000 then throw (.offsetRange total) else pure (some total)
  if year == 0 || year > 9999 then throw (.yearRange year)
  if month == 0 || month > 12 then throw .monthRange
  if day == 0 || day > daysInMonth year month then throw .dayRange
  if clock.hour > 23 then throw .hourRange
  if clock.minute > 59 then throw .minuteRange
  if clock.second > 59 then throw .secondRange
  pure { year, month, day, hour := clock.hour, minute := clock.minute, second := clock.second,
         microsecond := clock.microsecond, offset }

/-- A natural number written with at least `width` digits. -/
def padded (width n : Nat) : String :=
  let digits := toString n
  String.ofList (List.replicate (width - digits.length) '0') ++ digits

/-- The text of an offset from UTC: sign, hours and minutes, then any seconds and microseconds. -/
def offsetText (offset : Int) : String :=
  let sign := if offset < 0 then "-" else "+"
  let total := offset.natAbs
  let micro := total % 1000000
  let seconds := total / 1000000
  let base := sign ++ padded 2 (seconds / 3600) ++ ":" ++ padded 2 (seconds / 60 % 60)
  if micro != 0 then base ++ ":" ++ padded 2 (seconds % 60) ++ "." ++ padded 6 micro
  else if seconds % 60 != 0 then base ++ ":" ++ padded 2 (seconds % 60)
  else base

/-- The ISO 8601 text of a timestamp, with the given separator between date and time. -/
def isoText (t : Timestamp) (separator : Char := 'T') : String :=
  padded 4 t.year ++ "-" ++ padded 2 t.month ++ "-" ++ padded 2 t.day ++
    String.singleton separator ++
    padded 2 t.hour ++ ":" ++ padded 2 t.minute ++ ":" ++ padded 2 t.second ++
    (if t.microsecond != 0 then "." ++ padded 6 t.microsecond else "") ++
    (match t.offset with
      | some offset => offsetText offset
      | none => "")

/-- Days from 0001-01-01 to the date, for comparing instants. -/
def dayNumber (t : Timestamp) : Nat :=
  let y := t.year - 1
  let beforeYear := y * 365 + y / 4 - y / 100 + y / 400
  let beforeMonth := ((List.range (t.month - 1)).map fun m => daysInMonth t.year (m + 1)).sum
  beforeYear + beforeMonth + (t.day - 1)

/-- Microseconds from 0001-01-01T00:00:00 in the timestamp's own clock. -/
def localMicros (t : Timestamp) : Int :=
  ((((t.dayNumber * 24 + t.hour) * 60 + t.minute) * 60 + t.second) * 1000000 + t.microsecond
    : Nat)

/-- Two timestamps denote one moment: equal clocks without offsets, or one UTC instant. -/
def sameMoment (a b : Timestamp) : Bool :=
  match a.offset, b.offset with
  | none, none => a.localMicros == b.localMicros
  | some x, some y => a.localMicros - x == b.localMicros - y
  | _, _ => false

end Timestamp

end CloudClient

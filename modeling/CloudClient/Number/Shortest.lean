import CloudClient.Number.Binary

namespace CloudClient.Number

-- The core library's powers, as in `CloudClient.Number.Binary`.
attribute [local instance (high)] instPowNat

/-- The number of decimal digits of a natural number (one for zero). -/
def digitCount (n : Nat) : Nat :=
  if n < 10 then 1 else digitCount (n / 10) + 1
termination_by n
decreasing_by omega

/-- Compares the decimal `d * 10 ^ k` with the binary multiple `c * 2 ^ (e - 2)`. -/
def compareDecimal (d : Nat) (k : Int) (c : Nat) (e : Int) : Ordering :=
  let left := d * 10 ^ (max k 0).toNat * 2 ^ (max (2 - e) 0).toNat
  let right := c * 10 ^ (max (-k) 0).toNat * 2 ^ (max (e - 2) 0).toNat
  compare left right

/-- The interval of reals that read back as `m * 2 ^ e`, in units of `2 ^ (e - 2)`. -/
structure Rounding where
  lower : Nat
  upper : Nat
  closed : Bool

/-- The rounding interval of a positive finite double. -/
def roundingOf (m : Nat) (e : Int) : Rounding :=
  let lowerGap := if m == 2 ^ fractionBits && e > leastExponent then 1 else 2
  { lower := 4 * m - lowerGap, upper := 4 * m + 2, closed := m % 2 == 0 }

/-- The decimal `d * 10 ^ k` lies in the rounding interval of `m * 2 ^ e`. -/
def readsBack (m : Nat) (e : Int) (d : Nat) (k : Int) : Bool :=
  let r := roundingOf m e
  let aboveLower := compareDecimal d k r.lower e
  let belowUpper := compareDecimal d k r.upper e
  if r.closed then aboveLower != .lt && belowUpper != .gt
  else aboveLower == .gt && belowUpper == .lt

/-- The floor of the decimal logarithm of `m * 2 ^ e`. -/
def decimalExponent (m : Nat) (e : Int) : Int :=
  -- scaled by 10 ^ 400, every positive double becomes at least one
  let scaled :=
    if e ≥ 0 then m * 2 ^ e.toNat * 10 ^ (400 : Nat) else m * 10 ^ (400 : Nat) / 2 ^ (-e).toNat
  (digitCount scaled : Int) - 1 - 400

/-- The decimal of the given number of significant digits at or just below `m * 2 ^ e`. -/
def floorDigits (m : Nat) (e : Int) (k : Int) : Nat :=
  let num := m * 2 ^ (max e 0).toNat * 10 ^ (max (-k) 0).toNat
  let den := 2 ^ (max (-e) 0).toNat * 10 ^ (max k 0).toNat
  num / den

/-- Of two decimals on the grid `10 ^ k` that both read back, the nearer one, even on a tie. -/
def nearer (m : Nat) (e : Int) (k : Int) (below : Nat) : Nat :=
  -- the double and the two grid points, all scaled to integers by the same factor
  let scale := 10 ^ (max k 0).toNat * 2 ^ (max (2 - e) 0).toNat
  let scaledValue := 4 * m * 10 ^ (max (-k) 0).toNat * 2 ^ (max (e - 2) 0).toNat
  let gapBelow := scaledValue - below * scale
  let gapAbove := (below + 1) * scale - scaledValue
  if gapBelow < gapAbove then below
  else if gapAbove < gapBelow then below + 1
  else if below % 2 == 0 then below else below + 1

/-- The decimal of `digits` significant digits that reads back as `m * 2 ^ e`, if one does. -/
def candidate (m : Nat) (e : Int) (digits : Nat) : Option (Nat × Int) :=
  let k := decimalExponent m e - digits + 1
  let below := floorDigits m e k
  match readsBack m e below k, readsBack m e (below + 1) k with
  | true, true => some (nearer m e k below, k)
  | true, false => some (below, k)
  | false, true => some (below + 1, k)
  | false, false => none

/-- Removes the trailing zeros of `d * 10 ^ k`, keeping its value. -/
def dropTrailingZeros (d : Nat) (k : Int) : Nat × Int :=
  if h : d % 10 = 0 ∧ d ≠ 0 then dropTrailingZeros (d / 10) (k + 1) else (d, k)
termination_by d
decreasing_by omega

/-- The shortest decimal that reads back as the positive double `m * 2 ^ e`, the nearest of them. -/
def shortestDecimal (m : Nat) (e : Int) : Nat × Int :=
  let found := (List.range 17).findSome? fun i => candidate m e (i + 1)
  match found with
  | some (d, k) => dropTrailingZeros d k
  | none =>
    let k := decimalExponent m e - 16
    dropTrailingZeros (floorDigits m e k) k

end CloudClient.Number

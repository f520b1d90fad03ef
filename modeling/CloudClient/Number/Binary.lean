namespace CloudClient.Number

-- Powers are those of the core library, `Nat.pow` and `Int.pow`, whatever other instances are
-- in scope; a literal exponent is written as a natural number so that no default instance
-- chooses its type.
attribute [local instance (high)] instPowNat

/-- What a double is: not a number, an infinity, or `(-1) ^ sign * mantissa * 2 ^ exponent`. -/
inductive Shape where
  | nan
  | infinite (negative : Bool)
  | finite (negative : Bool) (mantissa : Nat) (exponent : Int)
  deriving DecidableEq, Repr

/-- The width of the fraction field of a double. -/
def fractionBits : Nat := 52

/-- The exponent of the least subnormal double, `2 ^ -1074`. -/
def leastExponent : Int := -1074

/-- Reads the value class, sign, mantissa and exponent of a double from its bits. -/
def shape (x : Float) : Shape :=
  let bits : Nat := x.toBits.toNat
  let negative := bits / 2 ^ (63 : Nat) % 2 == 1
  let biased : Nat := bits / 2 ^ (52 : Nat) % 2 ^ (11 : Nat)
  let fraction : Nat := bits % 2 ^ (52 : Nat)
  if biased == 2047 then
    if fraction == 0 then .infinite negative else .nan
  else if biased == 0 then .finite negative fraction leastExponent
  else .finite negative (fraction + 2 ^ (52 : Nat)) ((biased : Int) - 1075)

/-- A double is finite when it is neither an infinity nor not a number. -/
def isFiniteValue (x : Float) : Bool :=
  match shape x with
  | .finite .. => true
  | _ => false

/-- A double is not a number. -/
def isNaNValue (x : Float) : Bool := shape x == .nan

/-- Integer division of a fraction, rounding an exact half to the even quotient. -/
def roundHalfEven (num den : Nat) : Nat :=
  let q := num / den
  let r := num % den
  if 2 * r < den then q
  else if den < 2 * r then q + 1
  else if q % 2 == 0 then q else q + 1

/-- The floor of the base-two logarithm of a positive fraction `num / den`. -/
def log2Ratio (num den : Nat) : Int :=
  let guess : Int := (Nat.log2 num : Int) - (Nat.log2 den : Int)
  -- `guess` is the answer or one more than it
  if guess ≥ 0 then
    if num ≥ den * 2 ^ guess.toNat then guess else guess - 1
  else
    if num * 2 ^ (-guess).toNat ≥ den then guess else guess - 1

/-- The bits of the double with the given sign, biased exponent and fraction field. -/
def assemble (negative : Bool) (biased : Nat) (fraction : Nat) : Float :=
  Float.ofBits (UInt64.ofNat
    ((if negative then 2 ^ (63 : Nat) else 0) + biased * 2 ^ (52 : Nat) + fraction))

/-- The infinity of a given sign. -/
def infinity (negative : Bool) : Float := assemble negative 2047 0

/-- The double nearest to `num / den` with the given sign, ties to even, overflowing to infinity. -/
def ofRatio (negative : Bool) (num den : Nat) : Float :=
  if num == 0 || den == 0 then assemble negative 0 0
  else
    let e := log2Ratio num den
    -- the exponent of the last mantissa bit
    let q : Int := if e - 52 < leastExponent then leastExponent else e - 52
    let m :=
      if q ≥ 0 then roundHalfEven num (den * 2 ^ q.toNat)
      else roundHalfEven (num * 2 ^ (-q).toNat) den
    -- rounding may carry into a new bit
    let (m, q) := if m == 2 ^ (53 : Nat) then (2 ^ (52 : Nat), q + 1) else (m, q)
    if m < 2 ^ (52 : Nat) then assemble negative 0 m
    else if q + 1075 ≥ 2047 then infinity negative
    else assemble negative (q + 1075).toNat (m - 2 ^ (52 : Nat))

/-- The integer part of a finite double, rounding toward zero. -/
def truncate (negative : Bool) (mantissa : Nat) (exponent : Int) : Int :=
  let magnitude : Nat :=
    if exponent ≥ 0 then mantissa * 2 ^ exponent.toNat else mantissa / 2 ^ (-exponent).toNat
  if negative then -(magnitude : Int) else magnitude

/-- The double nearest to an integer, or none when it is too large for the format. -/
def ofInt? (n : Int) : Option Float :=
  let x := ofRatio (n < 0) n.natAbs 1
  if isFiniteValue x then some x else none

/-- Compares a finite double `± mantissa * 2 ^ exponent` with an integer exactly. -/
def finiteEqualsInt (negative : Bool) (mantissa : Nat) (exponent : Int) (n : Int) : Bool :=
  if mantissa == 0 then n == 0
  else if negative != (n < 0) then false
  else
    let k := n.natAbs
    if exponent ≥ 0 then mantissa * 2 ^ exponent.toNat == k
    else mantissa == k * 2 ^ (-exponent).toNat

/-- A double equals an integer when it is finite and has exactly that value. -/
def floatEqualsInt (x : Float) (n : Int) : Bool :=
  match shape x with
  | .finite negative mantissa exponent => finiteEqualsInt negative mantissa exponent n
  | _ => false

/-- Two doubles are equal as numbers: not-a-number equals nothing, and the two zeros are equal. -/
def floatEquals (x y : Float) : Bool :=
  match shape x, shape y with
  | .finite n₁ m₁ e₁, .finite n₂ m₂ e₂ =>
    if m₁ == 0 && m₂ == 0 then true
    else n₁ == n₂ && (if e₁ ≤ e₂ then m₁ == m₂ * 2 ^ (e₂ - e₁).toNat
      else m₁ * 2 ^ (e₁ - e₂).toNat == m₂)
  | .infinite n₁, .infinite n₂ => n₁ == n₂
  | _, _ => false

end CloudClient.Number

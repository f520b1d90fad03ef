import CloudClient.Number.Shortest

namespace CloudClient.Number

/-- The decisions of a double's text beyond its digits: when to write it without an exponent. -/
structure FloatLayout where
  lowestPoint : Int
  highestPoint : Int
  exponentDigits : Nat
  infinityText : String
  nanText : String

/-- Positional from `0.0001` up to just below `1e16`, a signed exponent of two digits otherwise. -/
def FloatLayout.display : FloatLayout :=
  { lowestPoint := -3, highestPoint := 16, exponentDigits := 2,
    infinityText := "inf", nanText := "nan" }

/-- As `display`, with `Infinity` and `NaN` for the values that are not finite. -/
def FloatLayout.json : FloatLayout :=
  { FloatLayout.display with infinityText := "Infinity", nanText := "NaN" }

/-- The decimal digits of a natural number, most significant first. -/
def decimalText (n : Nat) : String := toString n

/-- `count` copies of the digit zero. -/
def zeros (count : Nat) : String := String.ofList (List.replicate count '0')

/-- Lays out the digits `digits` with the decimal point `point` places after their left edge. -/
def FloatLayout.place (layout : FloatLayout) (digits : String) (point : Int) : String :=
  let count := digits.length
  if layout.lowestPoint ≤ point ∧ point ≤ layout.highestPoint then
    if point ≤ 0 then "0." ++ zeros (-point).toNat ++ digits
    else if point < count then
      String.ofList (digits.toList.take point.toNat) ++ "." ++
        String.ofList (digits.toList.drop point.toNat)
    else digits ++ zeros (point.toNat - count) ++ ".0"
  else
    let mantissa :=
      if count == 1 then digits
      else String.ofList (digits.toList.take 1) ++ "." ++ String.ofList (digits.toList.drop 1)
    let exponent := point - 1
    let sign := if exponent < 0 then "-" else "+"
    let magnitude := decimalText exponent.natAbs
    mantissa ++ "e" ++ sign ++ zeros (layout.exponentDigits - magnitude.length) ++ magnitude

/-- The text of a double under a layout. -/
def FloatLayout.render (layout : FloatLayout) (x : Float) : String :=
  match shape x with
  | .nan => layout.nanText
  | .infinite negative => (if negative then "-" else "") ++ layout.infinityText
  | .finite negative mantissa exponent =>
    let sign := if negative then "-" else ""
    if mantissa == 0 then sign ++ "0.0"
    else
      let (d, k) := shortestDecimal mantissa exponent
      let digits := decimalText d
      sign ++ layout.place digits (k + digits.length)

/-- The display text of a double. -/
def floatText (x : Float) : String := FloatLayout.display.render x

end CloudClient.Number

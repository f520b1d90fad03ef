namespace CloudClient.Text

/-- The first character of the range that holds lone surrogates. -/
def heldSurrogateBase : Nat := 0xFD800

/-- Whether a code point is a surrogate. -/
def isSurrogateCode (code : Nat) : Bool := 0xD800 ≤ code && code ≤ 0xDFFF

/-- The character that holds a lone surrogate. -/
def holdSurrogate (code : Nat) : Char := Char.ofNat (heldSurrogateBase + (code - 0xD800))

/-- The surrogate a character holds, if it is one of the characters that hold them. -/
def heldSurrogate? (c : Char) : Option Nat :=
  if heldSurrogateBase ≤ c.toNat && c.toNat < heldSurrogateBase + 0x800 then
    some (0xD800 + (c.toNat - heldSurrogateBase))
  else none

/-- The character of a code point: the character itself, or the one holding a surrogate. -/
def ofCodePoint (code : Nat) : Char :=
  if isSurrogateCode code then holdSurrogate code else Char.ofNat code

end CloudClient.Text

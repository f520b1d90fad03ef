namespace CloudClient.Text

/-- The replacement character that stands for a malformed part of the bytes. -/
def replacementChar : Char := '�'

/-- Bytes `0x80` to `0xBF` continue a multi-byte sequence. -/
def isContinuation (b : UInt8) : Bool := 0x80 ≤ b && b ≤ 0xBF

/-- The allowed range of the byte after a lead byte, and the count following; none for no lead. -/
def leadShape (b : UInt8) : Option (UInt8 × UInt8 × Nat) :=
  if 0xC2 ≤ b && b ≤ 0xDF then some (0x80, 0xBF, 1)
  else if b == 0xE0 then some (0xA0, 0xBF, 2)
  else if (0xE1 ≤ b && b ≤ 0xEC) || b == 0xEE || b == 0xEF then some (0x80, 0xBF, 2)
  else if b == 0xED then some (0x80, 0x9F, 2)
  else if b == 0xF0 then some (0x90, 0xBF, 3)
  else if 0xF1 ≤ b && b ≤ 0xF3 then some (0x80, 0xBF, 3)
  else if b == 0xF4 then some (0x80, 0x8F, 3)
  else none

/-- The payload bits that a lead byte of a sequence of the given length carries. -/
def leadBits (b : UInt8) (following : Nat) : Nat :=
  match following with
  | 1 => (b &&& 0x1F).toNat
  | 2 => (b &&& 0x0F).toNat
  | _ => (b &&& 0x07).toNat

/-- Reads a sequence's continuation bytes: its payload and the rest, or the rest from the misfit. -/
def takeContinuations (acc : Nat) (lo hi : UInt8) :
    Nat → List UInt8 → Sum (Nat × List UInt8) (List UInt8)
  | 0, rest => .inl (acc, rest)
  | count + 1, b :: rest =>
    if lo ≤ b && b ≤ hi then
      takeContinuations (acc * 64 + (b &&& 0x3F).toNat) 0x80 0xBF count rest
    else .inr (b :: rest)
  | _ + 1, [] => .inr []

/-- The bytes left after reading continuations, whether or not they all fit. -/
def leftover : Sum (Nat × List UInt8) (List UInt8) → List UInt8
  | .inl (_, rest) => rest
  | .inr rest => rest

theorem leftover_takeContinuations_length_le (acc : Nat) (lo hi : UInt8) (count : Nat)
    (bytes : List UInt8) :
    (leftover (takeContinuations acc lo hi count bytes)).length ≤ bytes.length := by
  induction count generalizing acc lo hi bytes with
  | zero => simp [takeContinuations, leftover]
  | succ count ih =>
    cases bytes with
    | nil => simp [takeContinuations, leftover]
    | cons b rest =>
      simp only [takeContinuations]
      by_cases fits : (lo ≤ b && b ≤ hi) = true
      · rw [if_pos fits]
        have := ih (acc * 64 + (b &&& 0x3F).toNat) 0x80 0xBF rest
        simp only [List.length_cons]
        omega
      · rw [if_neg fits]
        simp [leftover]

/-- Decodes bytes as UTF-8, one replacement character for each maximal ill-formed subpart. -/
def decodeLossy (bytes : List UInt8) : List Char :=
  match bytes with
  | [] => []
  | b :: rest =>
    if b < 0x80 then Char.ofNat b.toNat :: decodeLossy rest
    else
      match leadShape b with
      | none => replacementChar :: decodeLossy rest
      | some (lo, hi, following) =>
        match h : takeContinuations (leadBits b following) lo hi following rest with
        | .inl (code, after) =>
          have : after.length < rest.length + 1 := by
            have := leftover_takeContinuations_length_le (leadBits b following) lo hi following rest
            rw [h] at this
            simp only [leftover] at this
            omega
          Char.ofNat code :: decodeLossy after
        | .inr after =>
          have : after.length < rest.length + 1 := by
            have := leftover_takeContinuations_length_le (leadBits b following) lo hi following rest
            rw [h] at this
            simp only [leftover] at this
            omega
          replacementChar :: decodeLossy after
termination_by bytes.length

/-- The UTF-8 bytes of a text. -/
def encodeUtf8 (text : String) : List UInt8 := text.toUTF8.toList

end CloudClient.Text

import CloudClient.Value.Coerce

namespace CloudClient

namespace Value

-- The core library's powers, as in `CloudClient.Number.Binary`.
attribute [local instance (high)] instPowNat

/-- The modulus of the hashes of numbers: the Mersenne prime `2 ^ 61 - 1`. -/
def hashModulus : Nat := 2 ^ (61 : Nat) - 1

/-- The hash of the exact number `± magnitude * 2 ^ exponent`. -/
def numberHash (negative : Bool) (magnitude : Nat) (exponent : Int) : Int :=
  let shift := (exponent % 61).toNat
  let residue : Nat := magnitude % hashModulus * (2 ^ shift % hashModulus) % hashModulus
  let signed : Int := if negative then -(residue : Int) else residue
  if signed == -1 then -2 else signed

/-- A hash as the 64-bit word that tables and tuples work with. -/
def hashWord (h : Int) : UInt64 := UInt64.ofNat (h % (2 ^ (64 : Nat) : Int)).toNat

/-- The hash of a double: exact for finite values, `± 314159` for the infinities, zero for NaN. -/
def floatHash (x : Float) : Int :=
  match Number.shape x with
  | .nan => 0
  | .infinite negative => if negative then -314159 else 314159
  | .finite negative mantissa exponent => numberHash negative mantissa exponent

/-- The first multiplier of the tuple hash. -/
def tuplePrime1 : UInt64 := 11400714785074694791

/-- The multiplier of each member's hash in the tuple hash. -/
def tuplePrime2 : UInt64 := 14029467366897019727

/-- The starting value of the tuple hash. -/
def tuplePrime5 : UInt64 := 2870177450012600261

/-- Rotates a word left by 31 bits. -/
def rotateWord (x : UInt64) : UInt64 := (x <<< 31) ||| (x >>> 33)

/-- Mixes the hashes of a tuple's members, then its length; the word of `-1` is replaced. -/
def tupleWord (lanes : List UInt64) : UInt64 :=
  let acc := lanes.foldl (fun acc lane => rotateWord (acc + lane * tuplePrime2) * tuplePrime1)
    tuplePrime5
  let acc := acc + (UInt64.ofNat lanes.length ^^^ (tuplePrime5 ^^^ 3527539))
  if acc == 0xFFFFFFFFFFFFFFFF then 1546275796 else acc

/-- A fixed 64-bit FNV-1a hash of bytes, for the kinds whose real hash is drawn per process. -/
def contentWord (data : List UInt8) : UInt64 :=
  data.foldl (fun acc b => (acc ^^^ b.toUInt64) * 1099511628211) 14695981039346656037

/-- The hash word of a hashable value. -/
def hashOf : Value → UInt64
  | .none => 0
  | .bool b => if b then 1 else 0
  | .int n => hashWord (numberHash (n < 0) n.natAbs 0)
  | .float x => hashWord (floatHash x)
  | .tuple items => tupleWord (lanes items)
  | .str text => contentWord text.toUTF8.toList
  | .bytes data => contentWord data
  | .recordClass kind => contentWord kind.name.toUTF8.toList
  | .time t => contentWord (t.isoText.toUTF8.toList)
  | _ => 0
where
  /-- The hash words of the members of a tuple. -/
  lanes : List Value → List UInt64
    | [] => []
    | item :: rest => item.hashOf :: lanes rest

/-- The slots of a set's table: empty, or a member with its hash word. -/
abbrev Slots := Array (Option (Value × UInt64))

/-- The number of slots after the selected one that are tried before jumping. -/
def linearProbes : Nat := 9

/-- The slot a member goes to from slot `i`: `.inl` an empty one, `.inr` that of a same member. -/
def findSlot (slots : Slots) (same : Value × UInt64 → Bool) :
    Nat → Nat → Nat → Option (Nat ⊕ Nat)
  | 0, _, _ => Option.none
  | fuel + 1, i, perturb =>
    let mask := slots.size - 1
    let span := if i + linearProbes ≤ mask then linearProbes + 1 else 1
    match scan i span with
    | some found => some found
    | Option.none =>
      let perturb := perturb / 32
      findSlot slots same fuel ((i * 5 + 1 + perturb) % slots.size) perturb
where
  /-- Looks at `count` slots from `j` on. -/
  scan (j : Nat) : Nat → Option (Nat ⊕ Nat)
    | 0 => Option.none
    | count + 1 =>
      match slots[j]? with
      | some Option.none => some (.inl j)
      | some (some entry) => if same entry then some (.inr j) else scan (j + 1) count
      | Option.none => scan (j + 1) count

/-- The table grown for `used` members: the least power of two, at least eight, above four times. -/
def grownSize (used : Nat) : Nat :=
  go 8 (4 * used + 1)
where
  /-- Doubles `size` until it exceeds `4 * used`, at most `fuel` times. -/
  go (size : Nat) : Nat → Nat
    | 0 => size
    | fuel + 1 => if size ≤ 4 * used then go (size * 2) fuel else size

/-- Places a member in a table, in the first empty slot of its probe sequence. -/
def placeClean (slots : Slots) (entry : Value × UInt64) : Slots :=
  -- once `perturb` is zero the jumps visit every slot, and 13 jumps empty it, so this fuel
  -- is never exhausted
  match findSlot slots (fun _ => false) (slots.size + 13) (entry.2.toNat % slots.size)
      entry.2.toNat with
  | some (.inl j) => slots.set! j (some entry)
  | _ => slots

/-- A table in which members are placed again, in the slot order of an old table. -/
def regrow (old : Slots) (size : Nat) : Slots :=
  old.foldl (fun slots slot => match slot with
    | some entry => placeClean slots entry
    | Option.none => slots) (Array.replicate size Option.none)

/-- Adds a member to a table holding `used` members. -/
def addToTable (slots : Slots) (used : Nat) (item : Value) : Except Fault (Slots × Nat) := do
  requireHashable item
  let hash := item.hashOf
  let same := fun (entry : Value × UInt64) => entry.2 == hash && entry.1.equals item
  match findSlot slots same (slots.size + 13) (hash.toNat % slots.size) hash.toNat with
  | some (.inl j) =>
    let slots := slots.set! j (some (item, hash))
    let used := used + 1
    if used * 5 < (slots.size - 1) * 3 then pure (slots, used)
    else pure (regrow slots (grownSize used), used)
  | _ => pure (slots, used)

/-- The table of the given members, added in order. -/
def tableOf (items : List Value) : Except Fault Slots := do
  let (slots, _) ← items.foldlM (fun (slots, used) item => addToTable slots used item)
    (Array.replicate 8 Option.none, 0)
  pure slots

/-- The set of the given members, in the order its table holds them. -/
def setOf (items : List Value) : Except Fault Value := do
  let slots ← tableOf items
  pure (.set (slots.toList.filterMap fun slot => slot.map (·.1)))

end Value

end CloudClient

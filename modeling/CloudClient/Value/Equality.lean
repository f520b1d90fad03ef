import CloudClient.Value.Basic
import CloudClient.Number.Binary

namespace CloudClient

namespace Value

/-- The numeric value of a truth value. -/
def boolNumber (b : Bool) : Int := if b then 1 else 0

/-- Equality of payload values. -/
def equals : Value → Value → Bool
  | .none, .none => true
  | .bool a, .bool b => a == b
  | .bool a, .int b => boolNumber a == b
  | .int a, .bool b => a == boolNumber b
  | .int a, .int b => a == b
  | .bool a, .float y => Number.floatEqualsInt y (boolNumber a)
  | .float x, .bool b => Number.floatEqualsInt x (boolNumber b)
  | .int a, .float y => Number.floatEqualsInt y a
  | .float x, .int b => Number.floatEqualsInt x b
  | .float x, .float y => Number.floatEquals x y
  | .str a, .str b => a == b
  | .bytes a, .bytes b => a == b
  | .list a, .list b => sameItems a b
  | .tuple a, .tuple b => sameItems a b
  | .dict a, .dict b => a.length == b.length && entriesWithin a b
  | .set a, .set b => a.length == b.length && itemsWithin a b
  | .record k₁ f₁, .record k₂ f₂ => k₁ == k₂ && sameItems f₁ f₂
  | .recordClass a, .recordClass b => a == b
  | .time a, .time b => a.sameMoment b
  | .handle a, .handle b => a == b
  | _, _ => false
termination_by structural a => a
where
  /-- Equal member by member. -/
  sameItems : List Value → List Value → Bool
    | [], [] => true
    | x :: xs, y :: ys => equals x y && sameItems xs ys
    | _, _ => false
  termination_by structural xs => xs
  /-- Every member of the first list equals some member of the second. -/
  itemsWithin : List Value → List Value → Bool
    | [], _ => true
    | x :: xs, ys => ys.any (fun y => equals x y) && itemsWithin xs ys
  termination_by structural xs => xs
  /-- Every entry of the first mapping has its key in the second, with an equal value. -/
  entriesWithin : List (Value × Value) → List (Value × Value) → Bool
    | [], _ => true
    | (k, v) :: rest, other =>
      (match other.find? (fun entry => equals k entry.1) with
        | some entry => equals v entry.2
        | Option.none => false) && entriesWithin rest other
  termination_by structural entries => entries

/-- The first part of a value that cannot key a mapping, if there is one. -/
def unhashablePart? : Value → Option Value
  | .list items => some (.list items)
  | .dict entries => some (.dict entries)
  | .set items => some (.set items)
  | .record kind fields => some (.record kind fields)
  | .tuple items => firstUnhashable items
  | _ => Option.none
where
  /-- The first unhashable part among the members of a tuple. -/
  firstUnhashable : List Value → Option Value
    | [] => Option.none
    | item :: rest =>
      match unhashablePart? item with
      | some part => some part
      | Option.none => firstUnhashable rest

theorem equals_int (a b : Int) : equals (.int a) (.int b) = (a == b) := by simp [equals]

theorem equals_str (a b : String) : equals (.str a) (.str b) = (a == b) := by simp [equals]

end Value

end CloudClient

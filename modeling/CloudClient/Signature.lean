import CloudClient.Fault

namespace CloudClient

/-- A parameter: its name, and its default if it has one. -/
structure Parameter where
  name : String
  fallback : Option Value := Option.none

/-- The parameters of a callable. -/
structure Signature where
  /-- The qualified name that messages give the callable. -/
  callee : String
  parameters : List Parameter
  /-- Whether keywords that name no parameter are gathered instead of refused. -/
  gathersKeywords : Bool := false

/-- The arguments of a call bound to a signature. -/
structure Binding where
  /-- One value for each parameter, in order. -/
  values : List Value
  /-- The gathered keywords that name no parameter, in the order given. -/
  extras : List (String × Value)

namespace Binding

/-- The argument bound to the parameter at a position. -/
def arg (binding : Binding) (index : Nat) : Value := binding.values.getD index .none

end Binding

namespace Signature

/-- A required parameter. -/
def required (name : String) : Parameter := { name }

/-- A parameter with a default. -/
def optional (name : String) (fallback : Value) : Parameter := { name, fallback := some fallback }

/-- The number of parameters with a default. -/
def defaultCount (sig : Signature) : Nat := (sig.parameters.filter (·.fallback.isSome)).length

/-- Places the keywords in the slots of the parameters, in order. -/
def placeKeywords (sig : Signature) :
    List (Option Value) → List (String × Value) → List (String × Value) →
      Except Fault (List (Option Value) × List (String × Value))
  | slots, extras, [] => .ok (slots, extras)
  | slots, extras, (keyword, value) :: rest =>
    match sig.parameters.findIdx? (·.name == keyword) with
    | some index =>
      if (slots[index]?.getD Option.none).isSome then
        .error (.repeatedArgument sig.callee keyword)
      else placeKeywords sig (slots.set index (some value)) extras rest
    | Option.none =>
      if sig.gathersKeywords then placeKeywords sig slots (extras ++ [(keyword, value)]) rest
      else .error (.unexpectedKeyword sig.callee keyword)

/-- Fills the empty slots with defaults; the names of the parameters still without a value. -/
def fill : List Parameter → List (Option Value) → List Value × List String
  | parameter :: parameters, slot :: slots =>
    let (values, missing) := fill parameters slots
    match slot, parameter.fallback with
    | some value, _ => (value :: values, missing)
    | Option.none, some fallback => (fallback :: values, missing)
    | Option.none, Option.none => (Value.none :: values, parameter.name :: missing)
  | _, _ => ([], [])

/-- Binds positional arguments and keywords to the parameters. -/
def bind (sig : Signature) (positional : List Value) (keywords : List (String × Value)) :
    Except Fault Binding := do
  let count := sig.parameters.length
  let given := positional.take count
  let start : List (Option Value) :=
    given.map some ++ List.replicate (count - given.length) Option.none
  let (slots, extras) ← placeKeywords sig start [] keywords
  if count < positional.length then
    throw (.tooManyPositional sig.callee (count - sig.defaultCount) count positional.length)
  let (values, missing) := fill sig.parameters slots
  if !missing.isEmpty then throw (.missingArguments sig.callee missing)
  pure { values, extras }

end Signature

end CloudClient

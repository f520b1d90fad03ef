import CloudClient.Value.Equality
import CloudClient.Record.Schema
import CloudClient.Fault
import CloudClient.Number.Numeral

namespace CloudClient

namespace Value

/-- The members of a value when it is iterated. -/
def members : Value → Except Fault (List Value)
  | .list items | .tuple items | .set items => .ok items
  | .str text => .ok (text.toList.map fun c => .str (String.singleton c))
  | .dict entries => .ok (entries.map (·.1))
  | .bytes data => .ok (data.map fun b => .int b.toNat)
  | v => .error (.notIterable v)

/-- A value that can key a mapping, or the fault that says why it cannot. -/
def requireHashable (key : Value) : Except Fault Unit :=
  match key.unhashablePart? with
  | some part => .error (.unhashable part)
  | Option.none => .ok ()

/-- The value under a key among the entries of a mapping. -/
def lookup? (entries : List (Value × Value)) (key : Value) : Option Value :=
  (entries.find? fun entry => entry.1.equals key).map (·.2)

/-- Sets the value under a key, in place for an equal key, or at the end. -/
def insertEntry (entries : List (Value × Value)) (key value : Value) : List (Value × Value) :=
  if entries.any (fun entry => entry.1.equals key) then
    entries.map fun entry => if entry.1.equals key then (entry.1, value) else entry
  else entries ++ [(key, value)]

/-- The value of a mapping under a key, or a fallback. -/
def get (container key fallback : Value) : Except Fault Value :=
  match container with
  | .dict entries => do
    requireHashable key
    pure ((lookup? entries key).getD fallback)
  | v => .error (.missingAttribute v "get")

/-- `get` with a text key. -/
def field (container : Value) (key : String) (fallback : Value := .none) : Except Fault Value :=
  container.get (.str key) fallback

/-- The text of a numeral given as bytes, non-ASCII bytes as a character no numeral holds. -/
def numeralOfBytes (data : List UInt8) : String :=
  String.ofList (data.map fun b => if b < 128 then Char.ofNat b.toNat else Number.foreignMark)

/-- The integer of a number or an integer numeral, truncating a double toward zero. -/
def toInt : Value → Except Fault Int
  | .int n => .ok n
  | .bool b => .ok (boolNumber b)
  | .float x =>
    match Number.shape x with
    | .nan => .error .nanToInt
    | .infinite _ => .error .infinityToInt
    | .finite negative mantissa exponent => .ok (Number.truncate negative mantissa exponent)
  | .str text =>
    match Number.excessDigits? text, Number.readInteger? text with
    | some count, _ => .error (.digitLimit count)
    | Option.none, some n => .ok n
    | Option.none, Option.none => .error (.intLiteral (.str text))
  | .bytes data =>
    let text := numeralOfBytes data
    match Number.excessDigits? text, Number.readInteger? text with
    | some count, _ => .error (.digitLimit count)
    | Option.none, some n => .ok n
    | Option.none, Option.none => .error (.intLiteral (.bytes data))
  | v => .error (.intArgument v)

/-- The double of a number or a decimal numeral. -/
def toFloat : Value → Except Fault Float
  | .float x => .ok x
  | .int n =>
    match Number.ofInt? n with
    | some x => .ok x
    | Option.none => .error .intTooLarge
  | .bool b => .ok (if b then 1 else 0)
  | .str text =>
    match Number.readDecimal? text with
    | some x => .ok x
    | Option.none => .error (.floatLiteral (.str text))
  | .bytes data =>
    match Number.readDecimal? (numeralOfBytes data) with
    | some x => .ok x
    | Option.none => .error (.floatLiteral (.bytes data))
  | v => .error (.floatArgument v)

/-- Adds the pairs of a collection to a mapping, numbering them from `index` in messages. -/
def addPairs (entries : List (Value × Value)) (index : Nat) :
    List Value → Except Fault (List (Value × Value))
  | [] => .ok entries
  | element :: rest =>
    match element.members with
    | .error _ => .error (.pairNotSequence index)
    | .ok [key, value] => do
      requireHashable key
      addPairs (insertEntry entries key value) (index + 1) rest
    | .ok parts => .error (.pairLength index parts.length)

/-- The entries of the mapping built from a value, later pairs overriding equal keys. -/
def toEntries : Value → Except Fault (List (Value × Value))
  | .dict entries => .ok entries
  | v => do addPairs [] 0 (← v.members)

/-- The mapping of the given pairs, later pairs overriding earlier ones with an equal key. -/
def dictOf : List (Value × Value) → Except Fault (List (Value × Value)) :=
  go []
where
  /-- Adds the pairs one by one. -/
  go (entries : List (Value × Value)) :
      List (Value × Value) → Except Fault (List (Value × Value))
    | [] => .ok entries
    | (key, value) :: rest => do
      requireHashable key
      go (insertEntry entries key value) rest

/-- The list of the members of a value. -/
def toList (v : Value) : Except Fault Value := .list <$> v.members

/-- The member of a value under a text key. -/
def index (container : Value) (key : String) : Except Fault Value :=
  match container with
  | .dict entries =>
    match lookup? entries (.str key) with
    | some value => .ok value
    | Option.none => .error (.missingKey (.str key))
  | .list _ | .tuple _ | .str _ | .bytes _ => .error (.textIndex container)
  | v => .error (.notSubscriptable v)

/-- The value of a named field of a record, or the shared default of a record kind's field. -/
def attr? (v : Value) (name : String) : Option Value :=
  match v with
  | .record kind fields =>
    ((kind.fieldNames.zip fields).find? (·.1 == name)).map (·.2)
  | .recordClass kind => kind.classAttribute? name
  | _ => Option.none

/-- The value of a named field, or the fault of a value without it. -/
def attr (v : Value) (name : String) : Except Fault Value :=
  match v.attr? name with
  | some value => .ok value
  | Option.none => .error (.missingAttribute v name)

/-- Whether text or bytes start with a prefix of their kind, or one of a tuple of them. -/
def startsWith (subject : Value) (prefixes : Value) : Except Fault Bool :=
  match subject with
  | .str text =>
    match prefixes with
    | .str start => .ok (text.startsWith start)
    | .tuple options => textOptions text options
    | other => .error (.prefixArgument other)
  | .bytes data =>
    match prefixes with
    | .bytes start => .ok (start.isPrefixOf data)
    | .tuple options => byteOptions data options
    | other => .error (.bytesPrefixArgument other)
  | v => .error (.missingAttribute v "startswith")
where
  /-- Tries the text prefixes of a tuple in order. -/
  textOptions (text : String) : List Value → Except Fault Bool
    | [] => .ok false
    | .str start :: rest => if text.startsWith start then .ok true else textOptions text rest
    | other :: _ => .error (.prefixTupleMember other)
  /-- Tries the byte prefixes of a tuple in order. -/
  byteOptions (data : List UInt8) : List Value → Except Fault Bool
    | [] => .ok false
    | .bytes start :: rest => if start.isPrefixOf data then .ok true else byteOptions data rest
    | other :: _ => .error (.bytesLike other)

/-- Whether `part` occurs as a run of consecutive members of a list. -/
def hasRun {α : Type} [BEq α] (part : List α) : List α → Bool
  | [] => part.isEmpty
  | x :: rest => part.isPrefixOf (x :: rest) || hasRun part rest

/-- Membership: a key of a mapping, a member of a collection, or a run of text or bytes. -/
def contains (container item : Value) : Except Fault Bool :=
  match container with
  | .dict entries => do
    requireHashable item
    pure (entries.any fun entry => entry.1.equals item)
  | .set items => do
    requireHashable item
    pure (items.any (·.equals item))
  | .list items | .tuple items => .ok (items.any (·.equals item))
  | .str text =>
    match item with
    | .str part => .ok (hasRun part.toList text.toList)
    | other => .error (.textMembership other)
  | .bytes data =>
    match item with
    | .bytes part => .ok (hasRun part data)
    | .int n =>
      if 0 ≤ n && n < 256 then .ok (data.any (·.toNat == n.toNat)) else .error .byteRange
    | .bool b => .ok (data.any (·.toNat == (if b then 1 else 0)))
    | other => .error (.bytesLike other)
  | other => .error (.notContainer other)

/-- The two parts of a tuple that must have exactly two. -/
def unpackPair (items : List Value) : Except Fault (Value × Value) :=
  match items with
  | [first, second] => .ok (first, second)
  | _ =>
    if items.length > 2 then .error (.tooManyToUnpack 2)
    else .error (.tooFewToUnpack 2 items.length)

end Value

end CloudClient

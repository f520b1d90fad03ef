import CloudClient.Fault
import CloudClient.Text.Surrogate

namespace CloudClient.Json

open CloudClient

/-- The separators of written JSON. -/
structure Layout where
  /-- Between the items of an array or the members of an object. -/
  itemSeparator : String
  /-- Between a key and its value. -/
  keySeparator : String

/-- A comma and a colon, each followed by a space. -/
def Layout.spaced : Layout := ⟨", ", ": "⟩

/-- A bare comma and a bare colon. -/
def Layout.compact : Layout := ⟨",", ":"⟩

/-- The escape of a code unit below `0x10000`: four lower-case hexadecimal digits. -/
def unitEscape (unit : Nat) : String := "\\u" ++ hexDigits 4 unit

/-- The written form of one character of a string. -/
def escapeChar (c : Char) : String :=
  if c == '"' then "\\\""
  else if c == '\\' then "\\\\"
  else if c == '\n' then "\\n"
  else if c == '\r' then "\\r"
  else if c == '\t' then "\\t"
  else if c == '\x08' then "\\b"
  else if c == '\x0c' then "\\f"
  else if let some code := Text.heldSurrogate? c then unitEscape code
  else if c.toNat < 0x20 || 0x7f ≤ c.toNat then
    if c.toNat < 0x10000 then unitEscape c.toNat
    else
      let offset := c.toNat - 0x10000
      unitEscape (0xD800 + offset / 0x400) ++ unitEscape (0xDC00 + offset % 0x400)
  else String.singleton c

/-- A string written between double quotes. -/
def quoteString (text : String) : String :=
  "\"" ++ String.join (text.toList.map escapeChar) ++ "\""

/-- The text of a double. -/
def floatText (x : Float) : String := Number.FloatLayout.json.render x

/-- The text that stands for a mapping key, or the fault of a key that cannot be written. -/
def keyText : Value → Except Fault String
  | .str text => .ok text
  | .float x => .ok (floatText x)
  | .bool true => .ok "true"
  | .bool false => .ok "false"
  | .none => .ok "null"
  | .int n => .ok (toString n)
  | key => .error (.keyNotSerializable key)

/-- Joins written parts with the item separator between brackets. -/
def enclose (layout : Layout) (opening closing : String) (parts : List String) : String :=
  opening ++ layout.itemSeparator.intercalate parts ++ closing

/-- Writes a member of an object. -/
def member (layout : Layout) (key value : String) : String :=
  quoteString key ++ layout.keySeparator ++ value

mutual

/-- The JSON text of a value by JSON's own rules, handing any value they do not cover to `other`. -/
def writeWith (layout : Layout) (other : Value → Except Fault String) :
    Value → Except Fault String
  | .none => .ok "null"
  | .bool true => .ok "true"
  | .bool false => .ok "false"
  | .int n => .ok (toString n)
  | .float x => .ok (floatText x)
  | .str text => .ok (quoteString text)
  | .list items => enclose layout "[" "]" <$> writeItemsWith layout other items
  | .tuple items => enclose layout "[" "]" <$> writeItemsWith layout other items
  | .dict entries => enclose layout "\x7b" "\x7d" <$> writeEntriesWith layout other entries
  | v => other v

/-- The JSON texts of the items of an array, stopping at the first fault. -/
def writeItemsWith (layout : Layout) (other : Value → Except Fault String) :
    List Value → Except Fault (List String)
  | [] => .ok []
  | item :: rest => do
    let first ← writeWith layout other item
    pure (first :: (← writeItemsWith layout other rest))

/-- The members of an object written from the entries of a mapping, each key before its value. -/
def writeEntriesWith (layout : Layout) (other : Value → Except Fault String) :
    List (Value × Value) → Except Fault (List String)
  | [] => .ok []
  | (key, value) :: rest => do
    let keyPart ← keyText key
    let valuePart ← writeWith layout other value
    pure (member layout keyPart valuePart :: (← writeEntriesWith layout other rest))

end

/-- The refusal of a value JSON's own rules cannot write. -/
def refuse (v : Value) : Except Fault String := .error (.notSerializable v)

/-- The JSON text of a value by JSON's own rules alone. -/
def writeNative (layout : Layout) : Value → Except Fault String := writeWith layout refuse

mutual

/-- What `dataclasses.asdict` makes of a value: records become field maps, containers rebuilt. -/
def asdict : Value → Value
  | .record kind fields => .dict (asdictFields kind.fieldNames fields)
  | .list items => .list (asdictAll items)
  | .tuple items => .tuple (asdictAll items)
  | .dict entries => .dict (asdictEntries entries)
  | v => v

/-- What `asdict` makes of the items of a list or tuple. -/
def asdictAll : List Value → List Value
  | [] => []
  | item :: rest => asdict item :: asdictAll rest

/-- What `asdict` makes of the entries of a mapping, key and value. -/
def asdictEntries : List (Value × Value) → List (Value × Value)
  | [] => []
  | (key, value) :: rest => (asdict key, asdict value) :: asdictEntries rest

/-- The entries of a record's field map: each name, as text, with `asdict` of its value. -/
def asdictFields : List String → List Value → List (Value × Value)
  | name :: names, value :: rest => (.str name, asdict value) :: asdictFields names rest
  | _, _ => []

end

/-- The default hook of the result writer: a record becomes its field map, others are refused. -/
def toJsonable : Value → Except Fault Value
  | .record kind fields => .ok (asdict (.record kind fields))
  | v => .error (.notSerializable v)

/-- A value JSON's own rules cannot write, written through the default hook. -/
def viaHook (layout : Layout) (v : Value) : Except Fault String := do
  writeNative layout (← toJsonable v)

/-- The JSON text of a result, as `json.dumps` writes it with `toJsonable` as its default hook. -/
def write (layout : Layout) : Value → Except Fault String := writeWith layout (viaHook layout)

end CloudClient.Json

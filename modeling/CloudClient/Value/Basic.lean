import CloudClient.Record.Kind
import CloudClient.Timestamp

namespace CloudClient

/-- An object of the program with no payload form: an attribute of a service or a call's result. -/
inductive Handle where
  /-- The API client. -/
  | client
  /-- The tracker of created resources. -/
  | tracker
  /-- The factory of object storage clients. -/
  | storageFactory
  /-- An object storage client. -/
  | storageClient
  /-- An object of a service class. -/
  | service (className : String)
  /-- A class. -/
  | classObject (className : String)
  /-- Something callable, such as a method bound to an object, known by its type name. -/
  | callable (typeName : String)
  /-- The answer of a comparison that is not implemented. -/
  | notImplemented
  deriving Inhabited, BEq, DecidableEq

namespace Handle

/-- The type name of an object. -/
def typeName : Handle → String
  | .client => "DigitalOceanAPI"
  | .tracker => "ResourceTracker"
  | .storageFactory => "FakeSpacesFactory"
  | .storageClient => "FakeS3"
  | .service className => className
  | .classObject _ => "type"
  | .callable typeName => typeName
  | .notImplemented => "NotImplementedType"

end Handle

/-- A dynamic payload value. -/
inductive Value where
  | none
  | bool (b : Bool)
  | int (n : Int)
  | float (x : Float)
  | str (text : String)
  | bytes (data : List UInt8)
  | list (items : List Value)
  | tuple (items : List Value)
  | dict (entries : List (Value × Value))
  | set (items : List Value)
  | record (kind : RecordKind) (fields : List Value)
  | recordClass (kind : RecordKind)
  | time (t : Timestamp)
  | handle (h : Handle)
  deriving Inhabited

namespace Value

/-- The type name that messages about a value use. -/
def typeName : Value → String
  | .none => "NoneType"
  | .bool _ => "bool"
  | .int _ => "int"
  | .float _ => "float"
  | .str _ => "str"
  | .bytes _ => "bytes"
  | .list _ => "list"
  | .tuple _ => "tuple"
  | .dict _ => "dict"
  | .set _ => "set"
  | .record kind _ => kind.name
  | .recordClass _ => "type"
  | .time _ => "datetime.datetime"
  | .handle h => h.typeName

/-- The short name of a value's type: the type name without its module. -/
def shortTypeName : Value → String
  | .time _ => "datetime"
  | v => v.typeName

/-- The truth value of a value. -/
def truthy : Value → Bool
  | .none => false
  | .bool b => b
  | .int n => n != 0
  | .float x => !(x == 0)
  | .str text => !text.isEmpty
  | .bytes data => !data.isEmpty
  | .list items => !items.isEmpty
  | .tuple items => !items.isEmpty
  | .dict entries => !entries.isEmpty
  | .set items => !items.isEmpty
  | .record _ _ => true
  | .recordClass _ => true
  | .time _ => true
  | .handle _ => true

/-- A value, or a fallback when it is false: the `x or fallback` of the payload language. -/
def orElse (v fallback : Value) : Value := if v.truthy then v else fallback

/-- Text as a value. -/
instance : Coe String Value := ⟨Value.str⟩

@[simp] theorem truthy_none : Value.none.truthy = false := rfl

@[simp] theorem orElse_of_truthy {v : Value} (h : v.truthy = true) (fallback : Value) :
    v.orElse fallback = v := by simp [orElse, h]

@[simp] theorem orElse_of_falsy {v : Value} (h : v.truthy = false) (fallback : Value) :
    v.orElse fallback = fallback := by simp [orElse, h]

end Value

end CloudClient

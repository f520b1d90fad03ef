import CloudClient.Service.Operation

namespace CloudClient

/-- The attributes of an object: a mapping from names, or from any keys once replaced whole. -/
abbrev Attributes := List (Value × Value)

/-- A service object: the service it is, its class, and its attributes. -/
structure ServiceObject where
  service : String
  cls : ServiceClass
  attributes : Attributes

/-- The methods that every object has from the base object. -/
inductive Builtin where
  /-- `__getattribute__`: reads an attribute. -/
  | getAttribute
  /-- `__setattr__`: sets an attribute. -/
  | setAttribute
  /-- `__delattr__`: deletes an attribute. -/
  | deleteAttribute
  /-- A rich comparison such as `__eq__`. -/
  | compare (name : String)
  /-- `__repr__` or `__str__`: the text of the object. -/
  | describe (name : String)
  /-- `__hash__`. -/
  | hash
  /-- `__init_subclass__`: does nothing. -/
  | initSubclass
  /-- `__subclasshook__`: not implemented. -/
  | subclassHook
  /-- `__getstate__`: the attributes, or nothing when there are none. -/
  | getState
  /-- `__sizeof__`: the size of the object in bytes. -/
  | sizeOf
  /-- `__reduce__`: how to copy the object in the first copying protocols. -/
  | reduce
  /-- `__reduce_ex__`: how to copy the object in a given protocol. -/
  | reduceEx
  /-- `__dir__`: the names the object answers. -/
  | listNames
  /-- `__format__`: the object formatted by a specification. -/
  | format
  /-- `__new__`: a bare object of a class. -/
  | new

namespace Builtin

/-- The names of the base object's attributes, in the order it holds them. -/
def baseNames : List String :=
  ["__new__", "__repr__", "__hash__", "__str__", "__getattribute__", "__setattr__",
    "__delattr__", "__lt__", "__le__", "__eq__", "__ne__", "__gt__", "__ge__", "__init__",
    "__reduce_ex__", "__reduce__", "__getstate__", "__subclasshook__", "__init_subclass__",
    "__format__", "__sizeof__", "__dir__", "__class__", "__doc__"]

/-- The names of the rich comparisons. -/
def comparisons : List String := ["__lt__", "__le__", "__eq__", "__ne__", "__gt__", "__ge__"]

/-- The method of the base object that a name reads. -/
def ofName? (name : String) : Option Builtin :=
  if comparisons.contains name then some (.compare name)
  else
    match name with
    | "__getattribute__" => some .getAttribute
    | "__setattr__" => some .setAttribute
    | "__delattr__" => some .deleteAttribute
    | "__repr__" => some (.describe name)
    | "__str__" => some (.describe name)
    | "__hash__" => some .hash
    | "__init_subclass__" => some .initSubclass
    | "__subclasshook__" => some .subclassHook
    | "__getstate__" => some .getState
    | "__sizeof__" => some .sizeOf
    | "__reduce__" => some .reduce
    | "__reduce_ex__" => some .reduceEx
    | "__dir__" => some .listNames
    | "__format__" => some .format
    | "__new__" => some .new
    | _ => Option.none

/-- The type name of a method when read: wrappers for the object's slots, built-ins otherwise. -/
def typeName : Builtin → String
  | .getAttribute | .setAttribute | .deleteAttribute | .compare _ | .describe _ | .hash =>
    "method-wrapper"
  | _ => "builtin_function_or_method"

end Builtin

/-- What an attribute of a service object is. -/
inductive Member where
  /-- A value held by the object or its class. -/
  | value (v : Value)
  /-- A method of the class. -/
  | method (operation : Operation)
  /-- The initializer of the class. -/
  | initializer
  /-- A method of the base object. -/
  | builtin (b : Builtin)

/-- A member as a value: a method read from an object is bound to it. -/
def Member.toValue : Member → Value
  | .value v => v
  | .method _ | .initializer => .handle (.callable "method")
  | .builtin b => .handle (.callable b.typeName)

/-- A type error with a message. -/
def typeError (text : String) : Fault := .raised "TypeError" (.str text)

/-- The arguments of a slot of the base object: no keywords, exactly `count` positional ones. -/
def slotArguments (name : String) (count : Nat) (unpacks : Bool) (positional : List Value)
    (keywords : List (String × Value)) : Except Fault (List Value) :=
  if !keywords.isEmpty then
    .error (typeError ("wrapper " ++ name ++ "() takes no keyword arguments"))
  else if positional.length != count then
    .error (typeError ((if unpacks then " " else "") ++ "expected " ++ toString count ++
      " argument" ++ Fault.plural count ++ ", got " ++ toString positional.length))
  else .ok positional

/-- The arguments of a built-in method that takes none. -/
def noArguments (callee : String) (positional : List Value) (keywords : List (String × Value)) :
    Except Fault Unit :=
  if !keywords.isEmpty then .error (typeError (callee ++ "() takes no keyword arguments"))
  else if !positional.isEmpty then
    .error (typeError (callee ++ "() takes no arguments (" ++ toString positional.length ++
      " given)"))
  else .ok ()

/-- The argument of a built-in method that takes exactly one. -/
def oneArgument (callee : String) (positional : List Value) (keywords : List (String × Value)) :
    Except Fault Value :=
  if !keywords.isEmpty then .error (typeError (callee ++ "() takes no keyword arguments"))
  else
    match positional with
    | [argument] => .ok argument
    | _ => .error (typeError (callee ++ "() takes exactly one argument (" ++
      toString positional.length ++ " given)"))

/-- An attribute name, which must be text. -/
def attributeName : Value → Except Fault String
  | .str name => .ok name
  | other => .error (typeError ("attribute name must be string, not '" ++ other.typeName ++ "'"))

/-- A copying protocol, which must be an integer that fits a machine word of 32 bits. -/
def protocolOf : Value → Except Fault Int
  | .int n =>
    if n < -2147483648 || n > 2147483647 then
      .error (.raised "OverflowError" (.str "Python int too large to convert to C int"))
    else .ok n
  | .bool b => .ok (if b then 1 else 0)
  | other =>
    .error (typeError ("'" ++ other.typeName ++ "' object cannot be interpreted as an integer"))

/-- A bare object of a class, made without its initializer. -/
def bareObject : List Value → Except Fault Value
  | [] => .error (typeError "object.__new__(): not enough arguments")
  | .recordClass kind :: _ => .ok (.record kind (kind.fieldNames.map fun _ => .none))
  | .handle (.classObject name) :: _ => .ok (.handle (.service name))
  | other :: _ =>
    .error (typeError ("object.__new__(X): X is not a type object (" ++ other.typeName ++ ")"))

/-- Adds a name to a list of names unless it is there already. -/
def addName (names : List Value) (name : Value) : List Value :=
  if names.any (·.equals name) then names else names ++ [name]

/-- Calls a value: a service class makes a new object of itself, anything else is called. -/
def callValue (callee : Value) (positional : List Value) (keywords : List (String × Value)) :
    Api Value :=
  match callee with
  | .handle (.classObject name) =>
    match ServiceClass.ofName? name with
    | some cls => do
      let _ ← Api.lift (cls.initializer.bind (.none :: positional) keywords)
      pure (.handle (.service name))
    | Option.none =>
      if positional.isEmpty && keywords.isEmpty then pure (.handle (.service name))
      else throw (typeError (name ++ "() takes no arguments"))
  | other => callObject other positional keywords

namespace ServiceObject

/-- The object as a value. -/
def value (object : ServiceObject) : Value := .handle (.service object.cls.name)

/-- The fault of reading an attribute the object does not have. -/
def missing (object : ServiceObject) (name : String) : Fault := .missingAttribute object.value name

/-- The fault of writing the attribute that no object lets be written. -/
def notWritable (object : ServiceObject) : Fault :=
  .raised "AttributeError"
    (.str ("attribute '__weakref__' of '" ++ object.cls.name ++ "' objects is not writable"))

/-- An attribute held by the object. -/
def held? (object : ServiceObject) (name : String) : Option Value :=
  Value.lookup? object.attributes (.str name)

/-- An attribute held by the object, or the fault of reading one it does not hold. -/
def held (object : ServiceObject) (name : String) : Except Fault Value :=
  match object.held? name with
  | some v => .ok v
  | Option.none => .error (object.missing name)

/-- What the object's methods work with, its attributes looked up before its own methods. -/
def cloud (object : ServiceObject) (client : Client) : Cloud :=
  { client, api := object.held "api", tracker := object.held "tracker",
    clientFactory := object.held "client_factory",
    overrides := fun name => (object.held? name).map fun v arguments => callValue v arguments [] }

/-- The methods of the object's class, run with what the object holds. -/
def methods (object : ServiceObject) (client : Client) : List (String × Operation) :=
  (object.cloud client).methods object.service

/-- The class's documentation as a value. -/
def doc (object : ServiceObject) : Value :=
  match object.cls.doc with
  | some text => .str text
  | Option.none => .none

/-- The names of the class's own attributes, in order; a class without documentation gets one. -/
def classNames (object : ServiceObject) (client : Client) : List String :=
  let documented := object.cls.doc.isSome
  ["__module__"] ++ (if documented then ["__doc__"] else []) ++ ["__init__"] ++
    (object.methods client).map (·.1) ++ ["__dict__", "__weakref__"] ++
    (if documented then [] else ["__doc__"])

/-- Reads an attribute. -/
def member? (object : ServiceObject) (client : Client) (name : String) : Option Member :=
  match name with
  | "__class__" => some (.value (.handle (.classObject object.cls.name)))
  | "__dict__" => some (.value (.dict object.attributes))
  | "__weakref__" => some (.value .none)
  | _ =>
    match object.held? name with
    | some v => some (.value v)
    | Option.none =>
      if name == "__init__" then some .initializer
      else
        match (object.methods client).lookup name with
        | some operation => some (.method operation)
        | Option.none =>
          match name with
          | "__doc__" => some (.value object.doc)
          | "__module__" => some (.value (.str object.cls.module))
          | _ => (Builtin.ofName? name).map .builtin

/-- The attributes after the initializer ran with the given arguments. -/
def initAttributes (object : ServiceObject) (positional : List Value)
    (keywords : List (String × Value)) : Except Fault Attributes := do
  let binding ← object.cls.initializer.bind (.none :: positional) keywords
  pure ((object.cls.fields.zip (binding.values.drop 1)).foldl
    (fun attributes (parameter, value) => Value.insertEntry attributes (.str parameter.name) value)
    object.attributes)

/-- The attributes after one is set. -/
def setAttribute (object : ServiceObject) (name : String) (value : Value) :
    Except Fault Attributes :=
  match name with
  | "__class__" =>
    match value with
    | .recordClass _ | .handle (.classObject _) =>
      .error (typeError
        "__class__ assignment only supported for mutable types or ModuleType subclasses")
    | other =>
      .error (typeError ("__class__ must be set to a class, not '" ++ other.typeName ++ "' object"))
  | "__dict__" =>
    match value with
    | .dict entries => .ok entries
    | other =>
      .error (typeError ("__dict__ must be set to a dictionary, not a '" ++ other.typeName ++ "'"))
  | "__weakref__" => .error object.notWritable
  | _ => .ok (Value.insertEntry object.attributes (.str name) value)

/-- The attributes after one is deleted; deleting the mapping empties it. -/
def deleteAttribute (object : ServiceObject) (name : String) : Except Fault Attributes :=
  match name with
  | "__class__" => .error (typeError "can't delete __class__ attribute")
  | "__dict__" => .ok []
  | "__weakref__" => .error object.notWritable
  | _ =>
    if (object.held? name).isSome then
      .ok (object.attributes.filter fun (key, _) => !key.equals (.str name))
    else .error (object.missing name)

/-- The state of the object for copying: its attributes, or nothing when it has none. -/
def state (object : ServiceObject) : Value :=
  if object.attributes.isEmpty then .none else .dict object.attributes

/-- How to copy the object in a protocol: by its class from protocol two, else by the base. -/
def reduction (object : ServiceObject) (protocol : Int) : Value :=
  let cls : Value := .handle (.classObject object.cls.name)
  let function : Value := .handle (.callable "function")
  if protocol ≥ 2 then .tuple [function, .tuple [cls], object.state, .none, .none]
  else
    let arguments : Value := .tuple [cls, .handle (.classObject "object"), .none]
    if object.attributes.isEmpty then .tuple [function, arguments]
    else .tuple [function, arguments, .dict object.attributes]

/-- The names the object answers: its attributes, then its class's, then the base object's. -/
def names (object : ServiceObject) (client : Client) : List Value :=
  ((object.classNames client ++ Builtin.baseNames).map Value.str).foldl addName
    (object.attributes.map (·.1))

/-- The text of the object. -/
def text (object : ServiceObject) : String :=
  "<" ++ object.cls.module ++ "." ++ object.cls.name ++ " object>"

/-- Calls a method of the base object: its result and the attributes after it. -/
def callBuiltin (object : ServiceObject) (client : Client) (builtin : Builtin)
    (positional : List Value) (keywords : List (String × Value)) :
    Except Fault (Value × Attributes) := do
  let keep := fun (result : Value) => (result, object.attributes)
  let callee := fun (name : String) => object.cls.name ++ "." ++ name
  match builtin with
  | .getAttribute =>
    let arguments ← slotArguments "__getattribute__" 1 false positional keywords
    let name ← attributeName (arguments.headD .none)
    match object.member? client name with
    | some member => pure (keep member.toValue)
    | Option.none => throw (object.missing name)
  | .setAttribute =>
    let arguments ← slotArguments "__setattr__" 2 true positional keywords
    let name ← attributeName (arguments.headD .none)
    pure (.none, ← object.setAttribute name (arguments.getD 1 .none))
  | .deleteAttribute =>
    let arguments ← slotArguments "__delattr__" 1 false positional keywords
    let name ← attributeName (arguments.headD .none)
    pure (.none, ← object.deleteAttribute name)
  | .compare name =>
    let _ ← slotArguments name 1 false positional keywords
    pure (keep (.handle .notImplemented))
  | .describe name =>
    let _ ← slotArguments name 0 false positional keywords
    pure (keep (.str object.text))
  | .hash =>
    let _ ← slotArguments "__hash__" 0 false positional keywords
    pure (keep (.int 0))
  | .initSubclass =>
    noArguments (callee "__init_subclass__") positional keywords
    pure (keep .none)
  | .subclassHook =>
    if keywords.isEmpty then pure (keep (.handle .notImplemented))
    else throw (typeError "__subclasshook__() takes no keyword arguments")
  | .getState =>
    noArguments (callee "__getstate__") positional keywords
    pure (keep object.state)
  | .sizeOf =>
    noArguments (callee "__sizeof__") positional keywords
    pure (keep (.int 24))
  | .reduce =>
    noArguments (callee "__reduce__") positional keywords
    pure (keep (object.reduction 0))
  | .reduceEx =>
    let protocol ← protocolOf (← oneArgument (callee "__reduce_ex__") positional keywords)
    pure (keep (object.reduction protocol))
  | .listNames =>
    noArguments (callee "__dir__") positional keywords
    pure (keep (.list (object.names client)))
  | .format =>
    match ← oneArgument (callee "__format__") positional keywords with
    | .str spec =>
      if spec.isEmpty then pure (keep (.str object.text))
      else throw (typeError ("unsupported format string passed to " ++ object.cls.name ++
        ".__format__"))
    | other => throw (typeError ("__format__() argument must be str, not " ++ other.typeName))
  | .new => pure (keep (← bareObject positional))

end ServiceObject

namespace ServiceObject

/-- Calls a member of the object: its result and the attributes after it. -/
def callMember (object : ServiceObject) (client : Client) (member : Member)
    (positional : List Value) (keywords : List (String × Value)) : Api (Value × Attributes) :=
  match member with
  | .value v => do pure (← callValue v positional keywords, object.attributes)
  | .method operation => do pure (← operation.invoke positional keywords, object.attributes)
  | .initializer => do pure (.none, ← Api.lift (object.initAttributes positional keywords))
  | .builtin b => Api.lift (object.callBuiltin client b positional keywords)

/-- Reads an attribute of the object and calls it. -/
def call (object : ServiceObject) (client : Client) (name : String) (positional : List Value)
    (keywords : List (String × Value)) : Api (Value × Attributes) :=
  match object.member? client name with
  | some member => object.callMember client member positional keywords
  | Option.none => throw (object.missing name)

end ServiceObject

end CloudClient

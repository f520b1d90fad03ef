import CloudClient.Value.Text
import CloudClient.Json.Error

namespace CloudClient

/-- The cause of a failed operation. -/
inductive Fault where
  /-- Iterating over a value that is no collection. -/
  | notIterable (subject : Value)
  /-- Using a mutable value as a key. -/
  | unhashable (subject : Value)
  /-- Indexing a value that cannot be indexed. -/
  | notSubscriptable (subject : Value)
  /-- Indexing a sequence by text. -/
  | textIndex (subject : Value)
  /-- Converting an integer numeral of more digits than may be converted. -/
  | digitLimit (count : Nat)
  /-- Ordering two values of kinds that have no order between them. -/
  | unorderable (operator : String) (left right : Value)
  /-- Testing membership in a value that is no collection. -/
  | notContainer (subject : Value)
  /-- Testing membership in text of a value that is no text. -/
  | textMembership (item : Value)
  /-- Using a value that is not bytes where bytes are needed. -/
  | bytesLike (subject : Value)
  /-- Testing bytes for a prefix that is neither bytes nor a tuple. -/
  | bytesPrefixArgument (subject : Value)
  /-- Testing bytes for a byte value outside 0 to 255. -/
  | byteRange
  /-- Reading an attribute that a value does not have. -/
  | missingAttribute (subject : Value) (name : String)
  /-- Looking up a key that a mapping does not hold. -/
  | missingKey (key : Value)
  /-- Making an integer of a value that is no number. -/
  | intArgument (subject : Value)
  /-- Making a double of a value that is no number. -/
  | floatArgument (subject : Value)
  /-- Reading an integer from text that is no integer numeral. -/
  | intLiteral (text : Value)
  /-- Reading a double from text that is no decimal numeral. -/
  | floatLiteral (text : Value)
  /-- Making an integer of not-a-number. -/
  | nanToInt
  /-- Making an integer of an infinity. -/
  | infinityToInt
  /-- Making a double of an integer beyond its range. -/
  | intTooLarge
  /-- A member of the pairs that build a mapping is no collection. -/
  | pairNotSequence (index : Nat)
  /-- A member of the pairs that build a mapping does not have two parts. -/
  | pairLength (index : Nat) (length : Nat)
  /-- Unpacking more parts than expected. -/
  | tooManyToUnpack (expected : Nat)
  /-- Unpacking fewer parts than expected. -/
  | tooFewToUnpack (expected got : Nat)
  /-- A prefix test with a prefix that is no text. -/
  | prefixArgument (subject : Value)
  /-- A prefix test with a tuple that holds something that is no text. -/
  | prefixTupleMember (subject : Value)
  /-- Trimming bytes by text. -/
  | bytesNeeded
  /-- A call that leaves required parameters without arguments. -/
  | missingArguments (callee : String) (names : List String)
  /-- A call with more positional arguments than parameters. -/
  | tooManyPositional (callee : String) (least most given : Nat)
  /-- A call with a keyword that names no parameter. -/
  | unexpectedKeyword (callee : String) (name : String)
  /-- A call that gives one parameter two arguments. -/
  | repeatedArgument (callee : String) (name : String)
  /-- Passing a keyword argument twice in one call. -/
  | repeatedKeyword (callee : String) (name : String)
  /-- A mapping key that JSON cannot write. -/
  | keyNotSerializable (key : Value)
  /-- A value that JSON cannot write. -/
  | notSerializable (subject : Value)
  /-- Text that is no JSON. -/
  | malformedJson (error : Json.ReadError)
  /-- An API client built without a token. -/
  | emptyToken
  /-- A response whose status the client rejects. -/
  | rejected (status : Value) (message : Value) (errorId requestId : Value)
  /-- A request that got no response. -/
  | unreachable (method : Value) (url : String) (kind : String) (detail : Value)
  /-- An action that ended in the errored state. -/
  | actionErrored (text : String)
  /-- An action still running when the wait gave up. -/
  | actionTimedOut (actionId : Value)
  /-- A key addressed by something that is neither an identifier nor a fingerprint. -/
  | keyAddressType (subject : Value)
  /-- A key addressed by an empty fingerprint. -/
  | emptyFingerprint
  /-- A floating IP reserved with both or neither of a region and a droplet. -/
  | floatingIpTarget
  /-- Snapshots listed by a resource type that has none. -/
  | snapshotResourceType (given : Value)
  /-- Object storage that rejected the listing of buckets. -/
  | spacesRejected (region : Value) (detail : String) (status errorId : Value)
  /-- Object storage that could not be reached. -/
  | spacesUnreachable (region : Value) (kind : String) (detail : String)
  /-- No scripted object storage answer left. -/
  | spacesExhausted
  /-- No API token in the environment or the settings file. -/
  | tokenNotFound (path : String)
  /-- No object storage keys in the environment or the settings file. -/
  | spacesKeysNotFound (path : String)
  /-- Calling a value that is no function. -/
  | notCallable (typeName : String)
  /-- A scripted step names no known operation. -/
  | unknownTarget (name : String)
  /-- A failure of the given class that a scripted answer raises. -/
  | raised (kind : String) (detail : Value)
  deriving Inhabited

namespace Fault

/-- `s` when a count is not one. -/
def plural (count : Nat) : String := if count == 1 then "" else "s"

/-- Joins quoted names the way messages list them: `'a'`, `'a' and 'b'`, `'a', 'b', and 'c'`. -/
def listNames (names : List String) : String :=
  let quotedNames := names.map fun name => "'" ++ name ++ "'"
  match quotedNames with
  | [] => ""
  | [one] => one
  | [one, two] => one ++ " and " ++ two
  | _ =>
    ", ".intercalate (quotedNames.take (quotedNames.length - 2)) ++ ", " ++
      ", and ".intercalate (quotedNames.drop (quotedNames.length - 2))

/-- The text of the attribute error of a value. -/
def attributeText (subject : Value) (name : String) : String :=
  match subject with
  | .recordClass kind => "type object '" ++ kind.name ++ "' has no attribute '" ++ name ++ "'"
  | _ => "'" ++ subject.typeName ++ "' object has no attribute '" ++ name ++ "'"

/-- The class of a fault. -/
def className : Fault → String
  | .notIterable _ | .unhashable _ | .notSubscriptable _ | .textIndex _ | .intArgument _
  | .floatArgument _ | .pairNotSequence _ | .prefixArgument _ | .prefixTupleMember _
  | .bytesNeeded | .missingArguments .. | .tooManyPositional .. | .unexpectedKeyword ..
  | .repeatedArgument .. | .repeatedKeyword .. | .keyNotSerializable _ | .notSerializable _
  | .keyAddressType _ | .notCallable _ | .notContainer _ | .textMembership _ | .bytesLike _
  | .bytesPrefixArgument _ | .unorderable .. => "TypeError"
  | .byteRange | .digitLimit _ => "ValueError"
  | .intLiteral _ | .floatLiteral _ | .nanToInt | .pairLength .. | .tooManyToUnpack _
  | .tooFewToUnpack .. | .emptyToken | .emptyFingerprint | .floatingIpTarget
  | .snapshotResourceType _ | .tokenNotFound _ | .spacesKeysNotFound _ => "ValueError"
  | .infinityToInt | .intTooLarge => "OverflowError"
  | .missingAttribute .. => "AttributeError"
  | .missingKey _ => "KeyError"
  | .malformedJson error => error.className
  | .rejected .. | .unreachable .. | .spacesRejected .. | .spacesUnreachable .. =>
    "DigitalOceanAPIError"
  | .actionErrored _ => "ActionErroredError"
  | .actionTimedOut _ => "ActionTimeoutError"
  | .spacesExhausted => "RuntimeError"
  | .unknownTarget _ => "LookupError"
  | .raised kind _ => kind

/-- The text of an API error: the status and a space before the message, when there is one. -/
def apiText (status : Value) (message : String) : String :=
  match status with
  | .none => message
  | _ => status.plain ++ " " ++ message

/-- The message of a fault. -/
def message : Fault → String
  | .notIterable v => "'" ++ v.typeName ++ "' object is not iterable"
  | .unhashable v => "unhashable type: '" ++ v.typeName ++ "'"
  | .notSubscriptable v =>
    match v with
    | .recordClass kind => "type '" ++ kind.name ++ "' is not subscriptable"
    | _ => "'" ++ v.typeName ++ "' object is not subscriptable"
  | .textIndex v =>
    match v with
    | .str _ => "string indices must be integers, not 'str'"
    | .bytes _ => "byte indices must be integers or slices, not str"
    | _ => v.typeName ++ " indices must be integers or slices, not str"
  | .unorderable operator left right =>
    "'" ++ operator ++ "' not supported between instances of '" ++ left.typeName ++ "' and '" ++
      right.typeName ++ "'"
  | .notContainer v => "argument of type '" ++ v.typeName ++ "' is not iterable"
  | .textMembership v => "'in <string>' requires string as left operand, not " ++ v.typeName
  | .bytesLike v => "a bytes-like object is required, not '" ++ v.typeName ++ "'"
  | .bytesPrefixArgument v =>
    "startswith first arg must be bytes or a tuple of bytes, not " ++ v.typeName
  | .byteRange => "byte must be in range(0, 256)"
  | .digitLimit count => Number.digitLimitText count
  | .missingAttribute v name => attributeText v name
  | .missingKey key => key.quoted
  | .intArgument v =>
    "int() argument must be a string, a bytes-like object or a real number, not '" ++
      v.typeName ++ "'"
  | .floatArgument v =>
    "float() argument must be a string or a real number, not '" ++ v.typeName ++ "'"
  | .intLiteral text =>
    "invalid literal for int() with base 10: " ++ String.ofList (text.quoted.toList.take 200)
  | .floatLiteral text => "could not convert string to float: " ++ text.quoted
  | .nanToInt => "cannot convert float NaN to integer"
  | .infinityToInt => "cannot convert float infinity to integer"
  | .intTooLarge => "int too large to convert to float"
  | .pairNotSequence index =>
    "cannot convert dictionary update sequence element #" ++ toString index ++ " to a sequence"
  | .pairLength index length =>
    "dictionary update sequence element #" ++ toString index ++ " has length " ++
      toString length ++ "; 2 is required"
  | .tooManyToUnpack expected =>
    "too many values to unpack (expected " ++ toString expected ++ ")"
  | .tooFewToUnpack expected got =>
    "not enough values to unpack (expected " ++ toString expected ++ ", got " ++
      toString got ++ ")"
  | .prefixArgument v =>
    "startswith first arg must be str or a tuple of str, not " ++ v.typeName
  | .prefixTupleMember v => "tuple for startswith must only contain str, not " ++ v.typeName
  | .bytesNeeded => "a bytes-like object is required, not 'str'"
  | .missingArguments callee names =>
    callee ++ "() missing " ++ toString names.length ++ " required positional argument" ++
      plural names.length ++ ": " ++ listNames names
  | .tooManyPositional callee least most given =>
    let takes := if least == most then toString most else
      "from " ++ toString least ++ " to " ++ toString most
    callee ++ "() takes " ++ takes ++ " positional argument" ++
      (if least == most then plural most else "s") ++ " but " ++ toString given ++
      (if given == 1 then " was" else " were") ++ " given"
  | .unexpectedKeyword callee name =>
    callee ++ "() got an unexpected keyword argument '" ++ name ++ "'"
  | .repeatedArgument callee name =>
    callee ++ "() got multiple values for argument '" ++ name ++ "'"
  | .repeatedKeyword callee name =>
    callee ++ "() got multiple values for keyword argument '" ++ name ++ "'"
  | .keyNotSerializable key =>
    "keys must be str, int, float, bool or None, not " ++ key.typeName
  | .notSerializable v => "Object of type " ++ v.shortTypeName ++ " is not JSON serializable"
  | .malformedJson error => error.message
  | .emptyToken => "DigitalOcean API token cannot be empty"
  | .rejected status message _ _ => status.plain ++ " " ++ message.plain
  | .unreachable method url kind detail =>
    method.plain ++ " " ++ url ++ " failed: " ++
      (if kind == "KeyError" then detail.quoted else detail.plain)
  | .actionErrored text => text
  | .actionTimedOut actionId =>
    "timed out waiting for action " ++ actionId.plain ++ " to complete"
  | .keyAddressType v =>
    "key must be addressed by ID (int) or fingerprint (str), got " ++ v.shortTypeName
  | .emptyFingerprint => "key fingerprint cannot be empty"
  | .floatingIpTarget => "floating IP needs exactly one of region or droplet_id"
  | .snapshotResourceType given =>
    "resource_type must be one of ('droplet', 'volume'), got " ++ given.quoted
  | .spacesRejected region detail status _ =>
    apiText status ("Failed to list Spaces in " ++ region.plain ++ ": " ++ detail)
  | .spacesUnreachable region _ detail =>
    "Failed to list Spaces in " ++ region.plain ++ ": " ++ detail
  | .spacesExhausted => "no scripted spaces response left"
  | .tokenNotFound path => "DigitalOcean API token not found in " ++ path
  | .spacesKeysNotFound path => "Spaces credentials not found in " ++ path
  | .notCallable typeName => "'" ++ typeName ++ "' object is not callable"
  | .unknownTarget name => "unknown call target " ++ name
  | .raised kind detail => if kind == "KeyError" then detail.quoted else detail.plain

/-- The status, error identifier and request identifier of an API error. -/
def apiFields? : Fault → Option (Value × Value × Value)
  | .rejected status _ errorId requestId => some (status, errorId, requestId)
  | .unreachable .. => some (.none, .none, .none)
  | .actionErrored _ => some (.none, .none, .none)
  | .spacesRejected _ _ status errorId => some (status, errorId, .none)
  | .spacesUnreachable .. => some (.none, .none, .none)
  | _ => Option.none

/-- The class of the fault that caused this one, if it was caused by another. -/
def cause? : Fault → Option String
  | .unreachable _ _ kind _ => some kind
  | .actionTimedOut _ => some "RetryError"
  | .spacesRejected .. => some "ClientError"
  | .spacesUnreachable _ kind _ => some kind
  | _ => Option.none

end Fault

end CloudClient

import CloudClient.Fault

namespace CloudClient

/-- A scripted answer to a request. -/
inductive Reply where
  /-- A response with a status, a reason phrase, headers and a body. -/
  | response (status : Value) (reason : Value) (headers : List (String × Value))
      (body : List UInt8)
  /-- A failure of the given class raised instead of a response. -/
  | failure (kind : String) (detail : Value)
  deriving Inhabited

/-- A request as the client sent it. -/
structure Exchange where
  method : Value
  url : String
  timeout : Value
  /-- The extra keyword arguments the client passed, in order. -/
  options : List (String × Value)
  deriving Inhabited

/-- A failure of the object storage client that is not a rejection by the server. -/
inductive StorageFailure where
  | noCredentials
  | endpointConnection (endpointUrl : Value)
  | connectTimeout (endpointUrl : Value)
  | paramValidation (report : Value)
  deriving Inhabited

/-- A scripted answer of object storage to a listing of buckets. -/
inductive Listing where
  /-- The answer, returned as it is. -/
  | answer (response : Value)
  /-- A rejection by the server, with its error response. -/
  | rejection (response : Value)
  /-- A failure of the storage client. -/
  | unreachable (failure : StorageFailure)
  /-- A failure of the given class raised instead of an answer. -/
  | failure (kind : String) (detail : Value)
  deriving Inhabited

/-- The resources created and not deleted, as pairs of kind and identifier, oldest first. -/
structure Tracker where
  alive : List (Value × Value) := []
  deriving Inhabited

/-- Everything outside the client. -/
structure World where
  /-- The scripted replies still to come. -/
  replies : List Reply := []
  /-- The requests sent, oldest first. -/
  sent : List Exchange := []
  /-- The scripted object storage answers still to come. -/
  listings : List Listing := []
  /-- The regions object storage was asked about, oldest first. -/
  regionsAsked : List Value := []
  /-- The tracker of created resources. -/
  tracker : Tracker := {}
  /-- The lines written out, oldest first. -/
  lines : List String := []
  deriving Inhabited

/-- An operation on the world that may stop with a fault. -/
abbrev Api := ExceptT Fault (StateM World)

namespace Api

/-- Records a request and takes the next scripted reply, if any is left. -/
def exchange (request : Exchange) : Api (Option Reply) := do
  let world ← get
  set { world with sent := world.sent ++ [request], replies := world.replies.drop 1 }
  pure world.replies.head?

/-- Records a region that a storage client was made for. -/
def askStorage (region : Value) : Api Unit :=
  modify fun world => { world with regionsAsked := world.regionsAsked ++ [region] }

/-- Takes the next scripted storage answer, if any is left. -/
def nextListing : Api (Option Listing) := do
  let world ← get
  set { world with listings := world.listings.drop 1 }
  pure world.listings.head?

/-- Writes a line out. -/
def say (line : String) : Api Unit :=
  modify fun world => { world with lines := world.lines ++ [line] }

/-- Runs an operation from a world: its outcome and the world after it. -/
def run {α : Type} (operation : Api α) (world : World) : Except Fault α × World :=
  (ExceptT.run operation).run world

/-- Lifts a computation that may fail. -/
def lift {α : Type} (outcome : Except Fault α) : Api α :=
  match outcome with
  | .ok value => pure value
  | .error fault => throw fault

end Api

end CloudClient

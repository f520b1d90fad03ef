import CloudClient.Service.Object

namespace CloudClient

open Operation Signature

/-- The objects of a session: its client, whether it tracks, and its services' attributes. -/
structure Facade where
  client : Client
  tracking : Bool
  services : List ServiceObject

namespace Facade

/-- A service's first attributes: the client as its API, the tracker or nothing, the factory. -/
def initialAttributes (tracking : Bool) (cls : ServiceClass) : Attributes :=
  cls.fields.map fun parameter =>
    (.str parameter.name, match parameter.name with
      | "api" => .handle .client
      | "tracker" => if tracking then .handle .tracker else .none
      | _ => .handle .storageFactory)

/-- The objects of a new session. -/
def create (client : Client) (tracking : Bool) : Facade :=
  { client, tracking,
    services := ServiceClass.catalog.map fun (service, cls) =>
      { service, cls, attributes := initialAttributes tracking cls } }

/-- A service by its name. -/
def service? (facade : Facade) (name : String) : Option ServiceObject :=
  facade.services.find? (·.service == name)

/-- The objects after a service's attributes changed. -/
def withAttributes (facade : Facade) (name : String) (attributes : Attributes) : Facade :=
  { facade with
    services := facade.services.map fun object =>
      if object.service == name then { object with attributes } else object }

/-- Reads an attribute of a service and calls it. -/
def callService (facade : Facade) (object : ServiceObject) (name : String)
    (positional : List Value) (keywords : List (String × Value)) : Api (Value × Facade) := do
  let (result, attributes) ← object.call facade.client name positional keywords
  pure (result, facade.withAttributes object.service attributes)

/-- Calls a method of a service by the names of both, as the overview helpers do. -/
def ask (facade : Facade) (service name : String) : Api Value :=
  match facade.service? service with
  | some object => do pure (← facade.callService object name [] []).1
  | Option.none => throw (.unknownTarget (service ++ "." ++ name))

end Facade

namespace Cloud

/-- The operations of the client itself. -/
def clientOperations (client : Client) : List (String × Operation) :=
  let owner := "DigitalOceanAPI"
  [gatheringMethod owner "request" [required "method", required "path"] fun b =>
      client.request (b.arg 1) (b.arg 2) b.extras,
    method owner "get" [required "path", optional "params" .none] fun b =>
      client.get (b.arg 1) (b.arg 2),
    method owner "post" [required "path", optional "body" .none] fun b =>
      client.post (b.arg 1) (b.arg 2),
    method owner "put" [required "path", optional "body" .none] fun b =>
      client.put (b.arg 1) (b.arg 2),
    method owner "delete" [required "path", optional "body" .none] fun b =>
      client.delete (b.arg 1) (b.arg 2),
    method owner "iterate_list" [required "path", required "key", optional "params" .none]
      fun b => .list <$> client.listAll (b.arg 1) (b.arg 2) (b.arg 3),
    method owner "list_all" [required "path", required "key", optional "params" .none] fun b =>
      .list <$> client.listAll (b.arg 1) (b.arg 2) (b.arg 3)]

/-- The waiter's operations; the client is their first argument. -/
def waiterOperations (client : Client) : List (String × Operation) :=
  [("wait_for_action",
      { signature := Waiter.signature,
        run := fun b => Action.toValue <$> Waiter.waitCall { client } b.values [] }),
    gatheringFunction "wait_for_actions" (required "api") [required "action_links"] fun b =>
      views Action.toValue <$> Waiter.waitForActions { client } (b.arg 1) b.extras]

/-- Whether an identifier starts with a prefix, as a condition on tracked identifiers. -/
def startsWithPrefix (prefixes : Value) (id : Value) : Except Fault Bool := id.startsWith prefixes

/-- Reports the leftover resources: true when there are any. -/
def reportLeftovers : Api Value := do
  let world ← getThe World
  let lines := world.tracker.reportLines
  set { world with lines := world.lines ++ lines }
  pure (.bool !lines.isEmpty)

/-- The tracker's operations. -/
def trackerOperations : List (String × Operation) :=
  let owner := "ResourceTracker"
  [method owner "created" [required "kind", required "resource_id"] fun b =>
      nothing (Api.track (b.arg 1) (b.arg 2)),
    method owner "deleted" [required "kind", required "resource_id"] fun b =>
      nothing (Api.untrack (b.arg 1) (b.arg 2)),
    method owner "leftovers" [] fun _ => do
      let world ← getThe World
      pure (.list (world.tracker.leftovers.map fun (kind, id) => .tuple [kind, id])),
    ("deleted_where_prefix",
      closure "resolve_call.<locals>.deleted_where_prefix" [required "kind", required "prefix"]
        fun b => nothing (Api.untrackWhere (b.arg 0) (startsWithPrefix (b.arg 1)))),
    ("report_leftovers", closure "resolve_call.<locals>.<lambda>" [] fun _ => reportLeftovers)]

end Cloud

namespace Facade

/-- The overview helpers; the cloud is their first argument. -/
def overviewOperations (facade : Facade) : List (String × Operation) :=
  [function "get_do_identity" (optional "cloud" .none) [] fun _ => facade.ask "accounts" "get",
    function "list_ssh_keys" (optional "cloud" .none) [] fun _ => facade.ask "keys" "list",
    function "list_regions" (optional "cloud" .none) [] fun _ => facade.ask "regions" "list"]

/-- The operations of an owner that is no service. -/
def operations (facade : Facade) : String → List (String × Operation)
  | "api" => Cloud.clientOperations facade.client
  | "waiter" => Cloud.waiterOperations facade.client
  | "do_utils" => facade.overviewOperations
  | "tracker" => if facade.tracking then Cloud.trackerOperations else []
  | _ => []

/-- A target split at its first dot; a target without one names no attribute. -/
def splitTarget (target : String) : String × String :=
  match target.splitOn "." with
  | owner :: rest => (owner, ".".intercalate rest)
  | [] => (target, "")

/-- Calls what a target names, with the objects after the call. -/
def call (facade : Facade) (target : String) (positional : List Value)
    (keywords : List (String × Value)) : Api (Value × Facade) := do
  let (owner, name) := splitTarget target
  match facade.service? owner with
  | some object => facade.callService object name positional keywords
  | Option.none =>
    match (facade.operations owner).lookup name with
    | some operation => pure (← operation.invoke positional keywords, facade)
    | Option.none => throw (.unknownTarget target)

end Facade

end CloudClient

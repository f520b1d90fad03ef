import CloudClient.Waiter
import CloudClient.Tracker

namespace CloudClient

/-- What a service works with: the client, its `api`, tracker, factory and own attributes. -/
structure Cloud where
  client : Client
  api : Except Fault Value := .ok (.handle .client)
  tracker : Except Fault Value := .ok .none
  clientFactory : Except Fault Value := .ok (.handle .storageFactory)
  overrides : String → Option (List Value → Api Value) := fun _ => Option.none

namespace Cloud

/-- The endpoint of the service's requests. -/
def endpoint (cloud : Cloud) : Api Endpoint := do
  pure { client := cloud.client, target := ← Api.lift cloud.api }

/-- The endpoint, once its request method `name` has been read. -/
def requestMethod (cloud : Cloud) (name : String) : Api Endpoint := do
  let endpoint ← cloud.endpoint
  endpoint.method name
  pure endpoint

/-- Calls a method of the service on itself, or the attribute it holds under that name. -/
def selfCall (cloud : Cloud) (name : String) (arguments : List Value) (own : Api Value) :
    Api Value :=
  match cloud.overrides name with
  | some call => call arguments
  | Option.none => own

/-- Reads a path. -/
def get (cloud : Cloud) (path : Value) : Api Value := do (← cloud.endpoint).get path

/-- Sends a POST request. -/
def post (cloud : Cloud) (path body : Value) : Api Value := do (← cloud.endpoint).post path body

/-- Sends a PUT request. -/
def put (cloud : Cloud) (path body : Value) : Api Value := do (← cloud.endpoint).put path body

/-- Sends a DELETE request, with a body only when one is given. -/
def delete (cloud : Cloud) (path : Value) (body : Value := .none) : Api Value := do
  (← cloud.endpoint).delete path body

/-- Whether the service has a tracker. -/
def tracking (cloud : Cloud) : Api Bool := do
  match ← Api.lift cloud.tracker with
  | .none => pure false
  | _ => pure true

/-- Tells the tracker something, when the service has one; `name` is what the tracker is asked. -/
def report (cloud : Cloud) (name : String) (tell : Api Unit) : Api Unit := do
  match ← Api.lift cloud.tracker with
  | .none => pure ()
  | .handle .tracker => tell
  | other => Endpoint.lacks other name

/-- A path: fixed parts with identifiers between them, as plain text. -/
def path (parts : List Value) : Value := .str (String.join (parts.map Value.plain))

/-- A mapping with text keys. -/
def request (members : List (String × Value)) : Value :=
  .dict (members.map fun (key, value) => (.str key, value))

/-- The member of a response body that holds the resource, missing parts read as empty mappings. -/
def member (body : Value) (key : String) : Api Value :=
  Api.lift ((body.orElse (.dict [])).get (.str key) (.dict []))

/-- Reads one resource. -/
def fetch {α : Type} (cloud : Cloud) (address : Value) (key : String)
    (decode : Value → Except Fault α) : Api α := do
  let body ← cloud.get address
  Api.lift (decode (← member body key))

/-- Lists a collection, decoding each item as it arrives. -/
def collect {α : Type} (cloud : Cloud) (address : String) (key : String)
    (decode : Value → Except Fault α) (params : Value := .none) : Api (List α) :=
  do (← cloud.endpoint).walk (.str address) (.str key) params fun item => Api.lift (decode item)

/-- Records a created resource, when the service has a tracker. -/
def track (cloud : Cloud) (kind : String) (id : Value) : Api Unit :=
  cloud.report "created" (Api.track (.str kind) id)

/-- Forgets a deleted resource, when the service has a tracker. -/
def untrack (cloud : Cloud) (kind : String) (id : Value) : Api Unit :=
  cloud.report "deleted" (Api.untrack (.str kind) id)

/-- The account that owns the token. -/
def account (cloud : Cloud) : Api Account :=
  cloud.fetch (.str "/account") "account" Account.decode

/-- One action. -/
def action (cloud : Cloud) (actionId : Value) : Api Action :=
  cloud.fetch (path ["/actions/", actionId]) "action" Action.decode

/-- The action history. -/
def actions (cloud : Cloud) : Api (List Action) :=
  cloud.collect "/actions" "actions" Action.decode

/-- The regions. -/
def regions (cloud : Cloud) : Api (List Region) :=
  cloud.collect "/regions" "regions" Region.decode

/-- The droplet sizes. -/
def sizes (cloud : Cloud) : Api (List Size) :=
  cloud.collect "/sizes" "sizes" Size.decode

end Cloud

end CloudClient

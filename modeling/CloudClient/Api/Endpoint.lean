import CloudClient.Api.Client

namespace CloudClient

/-- The session's client, and the object standing where a client is expected. -/
structure Endpoint where
  client : Client
  target : Value := .handle .client

namespace Endpoint

/-- The fault of asking the target for a method it does not have. -/
def lacks {α : Type} (target : Value) (name : String) : Api α :=
  throw (.missingAttribute target name)

/-- Whether a target has a request method: the client has them all, and a mapping only `get`. -/
def offers : Value → String → Bool
  | .handle .client, _ => true
  | .dict _, "get" => true
  | _, _ => false

/-- Reads a request method of the target, as a call does before it works out its arguments. -/
def method (endpoint : Endpoint) (name : String) : Api Unit :=
  if offers endpoint.target name then pure () else lacks endpoint.target name

/-- Reads a path: a GET request through the client, or a lookup in a mapping. -/
def get (endpoint : Endpoint) (path : Value) : Api Value :=
  match endpoint.target with
  | .handle .client => endpoint.client.get path
  | .dict entries => Api.lift ((Value.dict entries).get path .none)
  | other => lacks other "get"

/-- Sends a POST request through the client. -/
def post (endpoint : Endpoint) (path body : Value) : Api Value :=
  match endpoint.target with
  | .handle .client => endpoint.client.post path body
  | other => lacks other "post"

/-- Sends a PUT request through the client. -/
def put (endpoint : Endpoint) (path body : Value) : Api Value :=
  match endpoint.target with
  | .handle .client => endpoint.client.put path body
  | other => lacks other "put"

/-- Sends a DELETE request through the client. -/
def delete (endpoint : Endpoint) (path : Value) (body : Value := .none) : Api Value :=
  match endpoint.target with
  | .handle .client => endpoint.client.delete path body
  | other => lacks other "delete"

/-- Walks a collection page by page through the client. -/
def walk {α : Type} (endpoint : Endpoint) (path key : Value) (params : Value)
    (consume : Value → Api α) : Api (List α) :=
  match endpoint.target with
  | .handle .client => endpoint.client.walk path key params consume
  | other => lacks other "iterate_list"

@[simp] theorem get_client (client : Client) (path : Value) :
    ({ client } : Endpoint).get path = client.get path := rfl

@[simp] theorem post_client (client : Client) (path body : Value) :
    ({ client } : Endpoint).post path body = client.post path body := rfl

end Endpoint

end CloudClient

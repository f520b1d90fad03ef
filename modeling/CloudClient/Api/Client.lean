import CloudClient.Api.Script
import CloudClient.Json.Read
import CloudClient.Value.Coerce

namespace CloudClient

/-- The API root used when none is given. -/
def defaultBaseUrl : String := "https://api.digitalocean.com/v2"

/-- The timeout used when none is given. -/
def defaultTimeout : Value := .int 30

/-- The number of items asked for on each page. -/
def pageSize : Int := 200

/-- The failures of the HTTP library that the client wraps into API errors. -/
def transportKinds : List String :=
  ["ConnectionError", "Timeout", "ConnectTimeout", "ReadTimeout", "HTTPError",
    "TooManyRedirects", "SSLError", "InvalidURL", "RequestException"]

/-- The failure raised when the script has no reply left. -/
def noReplyLeft : Reply := .failure "ConnectionError" (.str "no scripted response left")

namespace Value

/-- Text without the given leading characters; `name` is the method a non-text fault names. -/
def trimStart (v : Value) (name : String) (drop : Char → Bool) : Except Fault String :=
  match v with
  | .str text => .ok (String.ofList (text.toList.dropWhile drop))
  | .bytes _ => .error .bytesNeeded
  | other => .error (.missingAttribute other name)

/-- Text without the given characters at its end. -/
def trimEnd (v : Value) (name : String) (drop : Char → Bool) : Except Fault String :=
  match v with
  | .str text => .ok (String.ofList (text.toList.reverse.dropWhile drop).reverse)
  | .bytes _ => .error .bytesNeeded
  | other => .error (.missingAttribute other name)

end Value

/-- An authenticated API client. -/
structure Client where
  /-- The API root, without trailing slashes. -/
  baseUrl : String
  timeout : Value
  deriving Inhabited

namespace Client

/-- The session headers that a client with this token sends. -/
def headersFor (token : Value) : List (String × Value) :=
  [("Authorization", .str ("Bearer " ++ token.plain)), ("Content-Type", .str "application/json"),
    ("Accept", .str "application/json")]

/-- Creates a client; a false token is refused before anything else. -/
def create (token baseUrl timeout : Value) : Except Fault Client := do
  if !token.truthy then throw .emptyToken
  let base ← baseUrl.trimEnd "rstrip" (· == '/')
  pure { baseUrl := base, timeout }

/-- The address of a path. -/
def url (client : Client) (path : Value) : Except Fault String := do
  pure (client.baseUrl ++ "/" ++ (← path.trimStart "lstrip" (· == '/')))

/-- The value of a header, by a name compared without case; the last one given wins. -/
def header? (headers : List (String × Value)) (name : String) : Option Value :=
  (headers.filter (·.1.toLower == name.toLower)).getLast?.map (·.2)

/-- The body of a response read as JSON. -/
def bodyJson (body : List UInt8) : Except Fault Value :=
  match Json.readBytes body with
  | .ok value => .ok value
  | .error e => .error (.malformedJson e)

/-- The API error of a rejected response: its message is the body's, the reason's or a default. -/
def rejection (status : Value) (reason : Value) (headers : List (String × Value))
    (body : List UInt8) : Except Fault Fault := do
  let fields : List (Value × Value) ← match Json.readBytes body with
    | .ok (.dict entries) => pure entries
    | .ok _ => pure []
    | .error e => if e.isValueError then pure [] else throw (.malformedJson e)
  let field := fun (key : String) => (Value.lookup? fields (.str key)).getD .none
  let message := (field "message").orElse (reason.orElse (.str "Unknown error"))
  let requestId := (field "request_id").orElse ((header? headers "x-request-id").getD .none)
  pure (.rejected status message (field "id") requestId)

/-- Whether the HTTP library counts a status as failed: from 400 up to 600, lower bound first. -/
def isFailure (status : Value) : Except Fault Bool :=
  match status with
  | .int n => .ok (400 ≤ n && n < 600)
  | .bool _ => .ok false
  | .float x => .ok ((400 : Float) ≤ x && x < 600)
  | other => .error (.unorderable "<=" (.int 400) other)

/-- The outcome of a reply to a request with this method to this address. -/
def outcome (method : Value) (address : String) : Reply → Except Fault Value
  | .failure kind detail =>
    if transportKinds.contains kind then .error (.unreachable method address kind detail)
    else .error (.raised kind detail)
  | .response status reason headers body => do
    if ← isFailure status then throw (← rejection status reason headers body)
    if status.equals (.int 204) || body.isEmpty then pure .none
    else bodyJson body

/-- The name under which the HTTP session's request function reports its argument errors. -/
def sessionCallee : String := "FakeSession.request"

/-- The options passed on to the HTTP session, checked as that call binds them. -/
def checkOptions (options : List (String × Value)) : Except Fault Unit := do
  if options.any (·.1 == "timeout") then throw (.repeatedKeyword sessionCallee "timeout")
  match options.find? fun (name, _) => name == "method" || name == "url" with
  | some (name, _) => throw (.repeatedArgument sessionCallee name)
  | none => pure ()

/-- Sends a request and gives the decoded body. -/
def request (client : Client) (method path : Value) (options : List (String × Value)) :
    Api Value := do
  let address ← Api.lift (client.url path)
  Api.lift (checkOptions options)
  let reply ← Api.exchange { method, url := address, timeout := client.timeout, options }
  Api.lift (outcome method address (reply.getD noReplyLeft))

/-- Sends a GET request with query parameters. -/
def get (client : Client) (path : Value) (params : Value := .none) : Api Value :=
  client.request (.str "GET") path [("params", params)]

/-- Sends a POST request; a false body is sent as an empty object. -/
def post (client : Client) (path : Value) (body : Value := .none) : Api Value :=
  client.request (.str "POST") path [("json", body.orElse (.dict []))]

/-- Sends a PUT request; a false body is sent as an empty object. -/
def put (client : Client) (path : Value) (body : Value := .none) : Api Value :=
  client.request (.str "PUT") path [("json", body.orElse (.dict []))]

/-- Sends a DELETE request, with a body only when one is given. -/
def delete (client : Client) (path : Value) (body : Value := .none) : Api Value :=
  match body with
  | .none => client.request (.str "DELETE") path []
  | given => client.request (.str "DELETE") path [("json", given)]

/-- The query of a page: the caller's parameters with the page number and size set. -/
def pageQuery (params : Value) (page : Nat) : Except Fault Value := do
  let entries ← (params.orElse (.dict [])).toEntries
  let entries := Value.insertEntry entries (.str "page") (.int page)
  pure (.dict (Value.insertEntry entries (.str "per_page") (.int pageSize)))

/-- Whether a page links to a next one. -/
def hasNext (body : Value) : Except Fault Bool := do
  let links := (← body.get (.str "links") .none).orElse (.dict [])
  let pages := (← links.get (.str "pages") .none).orElse (.dict [])
  pure (← pages.get (.str "next") .none).truthy

/-- Hands items to a consumer in order, keeping the results. -/
def consumeAll {α : Type} (consume : Value → Api α) : List Value → List α → Api (List α)
  | [], done => pure done
  | item :: rest, done => do
    let result ← consume item
    consumeAll consume rest (done ++ [result])

/-- Walks the pages from `page` on, with fuel bounding the number of pages. -/
def walkFrom {α : Type} (client : Client) (path : Value) (key : Value) (params : Value)
    (consume : Value → Api α) : Nat → Nat → List α → Api (List α)
  | 0, _, done => pure done
  | fuel + 1, page, done => do
    let query ← Api.lift (pageQuery params page)
    let body := (← client.get path query).orElse (.dict [])
    let items ← Api.lift ((← Api.lift (body.get key (.list []))).members)
    let done ← consumeAll consume items done
    if ← Api.lift (hasNext body) then walkFrom client path key params consume fuel (page + 1) done
    else pure done

/-- Walks every page of a collection, handing each item to a consumer, one reply per page. -/
def walk {α : Type} (client : Client) (path key : Value) (params : Value)
    (consume : Value → Api α) : Api (List α) := do
  -- every page takes a reply and one with no reply left fails, so this fuel is never exhausted
  let fuel := (← getThe World).replies.length + 1
  walkFrom client path key params consume fuel 1 []

/-- Every item of a collection. -/
def listAll (client : Client) (path key : Value) (params : Value := .none) : Api (List Value) :=
  client.walk path key params pure

end Client

end CloudClient

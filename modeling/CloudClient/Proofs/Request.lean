import CloudClient.Api.Client
import CloudClient.Proofs.Run

namespace CloudClient

namespace World

/-- The reply the next request gets: the script's head, or the failure of an exhausted script. -/
def nextReply (world : World) : Reply := world.replies.head?.getD noReplyLeft

/-- The world after one more request: the request is recorded and the script moves on. -/
def record (world : World) (request : Exchange) : World :=
  { world with sent := world.sent ++ [request], replies := world.replies.drop 1 }

@[simp] theorem record_sent (world : World) (request : Exchange) :
    (world.record request).sent = world.sent ++ [request] := rfl

@[simp] theorem record_replies (world : World) (request : Exchange) :
    (world.record request).replies = world.replies.drop 1 := rfl

@[simp] theorem record_tracker (world : World) (request : Exchange) :
    (world.record request).tracker = world.tracker := rfl

theorem nextReply_cons (reply : Reply) (rest : List Reply) (world : World)
    (script : world.replies = reply :: rest) : world.nextReply = reply := by
  simp [nextReply, script]

end World

namespace Client

/-- A client made with a true token and a text root keeps the root without its trailing slashes. -/
theorem create_str (token : Value) (root : String) (timeout : Value) (given : token.truthy = true) :
    create token (.str root) timeout =
      .ok { baseUrl := String.ofList (root.toList.reverse.dropWhile (· == '/')).reverse, timeout } := by
  simp [create, given]
  rfl

/-- The address of a text path: the root, a slash, and the path without its leading slashes. -/
def address (client : Client) (path : String) : String :=
  client.baseUrl ++ "/" ++ String.ofList (path.toList.dropWhile (· == '/'))

@[simp] theorem url_str (client : Client) (path : String) :
    client.url (.str path) = .ok (client.address path) := rfl

/-- The exchange a request records. -/
def exchangeOf (client : Client) (method : Value) (path : String)
    (options : List (String × Value)) : Exchange :=
  { method, url := client.address path, timeout := client.timeout, options }

/-- A request binds its options, then records one exchange and has its one reply's outcome. -/
theorem request_run (client : Client) (method : Value) (path : String)
    (options : List (String × Value)) (world : World) :
    (client.request method (.str path) options).run world =
      match checkOptions options with
      | .ok () => (outcome method (client.address path) world.nextReply,
          world.record (client.exchangeOf method path options))
      | .error fault => (.error fault, world) := by
  cases checked : checkOptions options with
  | ok => simp only [request, url_str, checked, Api.run_bind, Api.run_lift, Api.run_exchange]; rfl
  | error fault => simp only [request, url_str, checked, Api.run_bind, Api.run_lift]

/-- The query parameters of a GET request are always accepted. -/
@[simp] theorem checkOptions_params (params : Value) : checkOptions [("params", params)] = .ok () :=
  rfl

@[simp] theorem checkOptions_json (body : Value) : checkOptions [("json", body)] = .ok () := rfl

@[simp] theorem checkOptions_nil : checkOptions [] = .ok () := rfl

/-- An HTTP library failure becomes an API error naming it; any other passes through. -/
theorem outcome_failure (method : Value) (address kind : String) (detail : Value) :
    outcome method address (.failure kind detail) =
      .error (if kind ∈ transportKinds then .unreachable method address kind detail
        else .raised kind detail) := by
  by_cases transport : kind ∈ transportKinds <;> simp [outcome, transport]

theorem isFailure_int (status : Int) :
    isFailure (.int status) = .ok (decide (400 ≤ status ∧ status < 600)) := by
  simp [isFailure]

/-- A response: 400 up to 600 rejected, 204 and empty bodies give nothing, others read as JSON. -/
theorem outcome_response (method : Value) (address : String) (status : Int) (reason : Value)
    (headers : List (String × Value)) (body : List UInt8) :
    outcome method address (.response (.int status) reason headers body) =
      if 400 ≤ status ∧ status < 600 then
        match rejection (.int status) reason headers body with
        | .ok fault => .error fault
        | .error fault => .error fault
      else if status = 204 ∨ body = [] then .ok .none else bodyJson body := by
  by_cases rejected : 400 ≤ status ∧ status < 600
  · simp only [outcome, isFailure_int, rejected]
    cases rejection (.int status) reason headers body <;> rfl
  · simp only [outcome, isFailure_int, rejected, decide_false, if_false]
    by_cases empty : status = 204 ∨ body = []
    · have emptyTest : ((Value.int status).equals (.int 204) || body.isEmpty) = true := by
        rcases empty with h | h <;> simp [h, Value.equals_int]
      simp [emptyTest, empty]
      rfl
    · have emptyTest : ((Value.int status).equals (.int 204) || body.isEmpty) = false := by
        simp only [not_or] at empty
        simp [Value.equals_int, empty.1, empty.2]
      simp [emptyTest, empty]

/-- A rejection is an API error with its status, unless the body is nested too deep to read. -/
theorem rejection_cases (status reason : Value) (headers : List (String × Value))
    (body : List UInt8) :
    (∃ message errorId requestId,
      rejection status reason headers body = .ok (.rejected status message errorId requestId)) ∨
    (∃ error, Json.readBytes body = .error error ∧ error.isValueError = false ∧
      rejection status reason headers body = .error (.malformedJson error)) := by
  unfold rejection
  cases read : Json.readBytes body with
  | ok value =>
    left
    cases value <;> exact ⟨_, _, _, rfl⟩
  | error error =>
    cases valueError : error.isValueError
    · right
      exact ⟨error, rfl, valueError, by simp [valueError]; rfl⟩
    · left
      exact ⟨_, _, _, by simp [valueError]; rfl⟩

/-- A response returns exactly when unrejected and its body is empty, 204, or reads as JSON. -/
theorem outcome_response_ok_iff (method : Value) (address : String) (status : Int)
    (reason : Value) (headers : List (String × Value)) (body : List UInt8) (value : Value) :
    outcome method address (.response (.int status) reason headers body) = .ok value ↔
      ¬(400 ≤ status ∧ status < 600) ∧
        ((status = 204 ∨ body = []) ∧ value = .none ∨
          ¬(status = 204 ∨ body = []) ∧ Json.readBytes body = .ok value) := by
  rw [outcome_response]
  by_cases rejected : 400 ≤ status ∧ status < 600
  · simp only [rejected]
    cases rejection (.int status) reason headers body <;> simp
  · by_cases empty : status = 204 ∨ body = []
    · simp [rejected, empty, eq_comm]
    · simp only [rejected, empty, if_false, bodyJson]
      cases Json.readBytes body <;> simp

/-- A reply of status 200 whose body is the UTF-8 of a nonempty text: the value it reads as. -/
theorem outcome_of_text (method : Value) (address : String) {text : String} {value : Value}
    (decoded : Text.decodeLossy (Text.encodeUtf8 text) = text.toList) (nonempty : text.toList ≠ [])
    (read : Json.readChars text.toList.toArray = .ok value) :
    outcome method address (.response (.int 200) .none [] (Text.encodeUtf8 text)) = .ok value := by
  have full : Text.encodeUtf8 text ≠ [] := fun empty => by
    rw [empty, Text.decodeLossy] at decoded
    exact nonempty decoded.symm
  refine (outcome_response_ok_iff _ _ _ _ _ _ _).mpr ⟨by decide, .inr ⟨?_, ?_⟩⟩
  · simp [full]
  · rw [Json.readBytes, decoded]
    exact read

/-- A status from 400 up to 600 raises an API error with it, or the reader's recursion error. -/
theorem outcome_rejected (method : Value) (address : String) (status : Int) (reason : Value)
    (headers : List (String × Value)) (body : List UInt8)
    (rejected : 400 ≤ status ∧ status < 600) :
    ∃ fault, outcome method address (.response (.int status) reason headers body) = .error fault ∧
      (fault.className = "DigitalOceanAPIError" ∧ fault.apiFields?.map (·.1) = some (.int status) ∨
        ∃ error, Json.readBytes body = .error error ∧ error.className = "RecursionError" ∧
          fault = .malformedJson error) := by
  rw [outcome_response, if_pos rejected]
  rcases rejection_cases (.int status) reason headers body with
    ⟨message, errorId, requestId, built⟩ | ⟨error, read, deep, built⟩
  · exact ⟨_, by rw [built], .inl ⟨rfl, rfl⟩⟩
  · have recursion : error.className = "RecursionError" := by
      simpa [Json.ReadError.isValueError] using deep
    exact ⟨_, by rw [built], .inr ⟨error, read, recursion, rfl⟩⟩

/-- An unrejected response raises nothing but the unwrapped error of reading its body. -/
theorem outcome_accepted_error (method : Value) (address : String) (status : Int)
    (reason : Value) (headers : List (String × Value)) (body : List UInt8)
    (accepted : ¬(400 ≤ status ∧ status < 600)) (fault : Fault)
    (raised : outcome method address (.response (.int status) reason headers body) = .error fault) :
    ∃ error, Json.readBytes body = .error error ∧ fault = .malformedJson error := by
  rw [outcome_response, if_neg accepted] at raised
  by_cases empty : status = 204 ∨ body = []
  · simp [empty] at raised
  · simp only [empty, if_false, bodyJson] at raised
    cases read : Json.readBytes body with
    | ok value => simp [read] at raised
    | error error => simp only [read, Except.error.injEq] at raised; exact ⟨error, rfl, raised.symm⟩

/-- A failure of the HTTP library is never one of the classes that print their detail quoted. -/
theorem transport_ne_keyError {kind : String} (transport : kind ∈ transportKinds) :
    (kind == "KeyError") = false := by
  by_cases key : kind = "KeyError"
  · subst key
    simp [transportKinds] at transport
  · simp [key]

/-- An HTTP library failure becomes an API error without a status, caused by the failure. -/
theorem outcome_transport (method : Value) (address kind : String) (detail : Value)
    (transport : kind ∈ transportKinds) :
    ∃ fault, outcome method address (.failure kind detail) = .error fault ∧
      fault.className = "DigitalOceanAPIError" ∧ fault.apiFields? = some (.none, .none, .none) ∧
      fault.cause? = some kind ∧
      fault.message = method.plain ++ " " ++ address ++ " failed: " ++ detail.plain := by
  refine ⟨.unreachable method address kind detail, ?_, ?_, ?_, ?_, ?_⟩
  · rw [outcome_failure, if_pos transport]
  · rfl
  · rfl
  · rfl
  · change method.plain ++ " " ++ address ++ " failed: " ++
        (if (kind == "KeyError") = true then detail.quoted else detail.plain) = _
    rw [transport_ne_keyError transport]
    rfl

theorem get_run (client : Client) (path : String) (params : Value) (world : World) :
    (client.get (.str path) params).run world =
      (outcome (.str "GET") (client.address path) world.nextReply,
        world.record (client.exchangeOf (.str "GET") path [("params", params)])) := by
  simp only [get, request_run, checkOptions_params]


/-- A request records one exchange and takes one reply, whose kind decides its outcome: a value,
an API error for a rejected status or an HTTP failure, a reading error, or the failure raised. -/
theorem request_outcome_classified (client : Client) (method : Value) (path : String)
    (options : List (String × Value)) (world : World) :
    let address := client.address path
    (client.request method (.str path) options).run world =
        (match checkOptions options with
        | .ok () => (outcome method address world.nextReply,
            world.record (client.exchangeOf method path options))
        | .error fault => (.error fault, world)) ∧
      (∀ status reason headers body value,
        outcome method address (.response (.int status) reason headers body) = .ok value ↔
          ¬(400 ≤ status ∧ status < 600) ∧
            ((status = 204 ∨ body = []) ∧ value = .none ∨
              ¬(status = 204 ∨ body = []) ∧ Json.readBytes body = .ok value)) ∧
      (∀ status reason headers body, 400 ≤ status ∧ status < 600 →
        ∃ fault, outcome method address (.response (.int status) reason headers body) =
            .error fault ∧
          (fault.className = "DigitalOceanAPIError" ∧ fault.apiFields?.map (·.1) = some (.int status) ∨
            ∃ error, Json.readBytes body = .error error ∧ error.className = "RecursionError" ∧
              fault = .malformedJson error)) ∧
      (∀ status reason headers body, ¬(400 ≤ status ∧ status < 600) → ∀ fault,
        outcome method address (.response (.int status) reason headers body) = .error fault →
          ∃ error, Json.readBytes body = .error error ∧ fault = .malformedJson error) ∧
      (∀ kind detail, kind ∈ transportKinds →
        ∃ fault, outcome method address (.failure kind detail) = .error fault ∧
          fault.className = "DigitalOceanAPIError" ∧ fault.apiFields? = some (.none, .none, .none) ∧
          fault.cause? = some kind ∧
          fault.message = method.plain ++ " " ++ address ++ " failed: " ++ detail.plain) ∧
      (∀ kind detail, kind ∉ transportKinds →
        outcome method address (.failure kind detail) = .error (.raised kind detail)) := by
  intro address
  refine ⟨request_run client method path options world, ?returns, ?rejected, ?accepted,
    ?transport, ?other⟩
  case returns => exact outcome_response_ok_iff method address
  case rejected => exact outcome_rejected method address
  case accepted => exact outcome_accepted_error method address
  case transport => exact outcome_transport method address
  case other =>
    intro kind detail other
    rw [outcome_failure, if_neg other]

end Client

end CloudClient

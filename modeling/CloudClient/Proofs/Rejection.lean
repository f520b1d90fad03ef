import CloudClient.Proofs.Request

namespace CloudClient

namespace Client

/-- The member of a response body under a key, when the body reads as a JSON object. -/
def bodyMember (body : List UInt8) (key : String) : Value :=
  match Json.readBytes body with
  | .ok (.dict entries) => (Value.lookup? entries (.str key)).getD .none
  | _ => .none

/-- An empty body is no JSON, and reading it fails with a value error. -/
theorem readBytes_nil : Json.readBytes [] = .error ⟨.expectingValue, 0, 1, 1⟩ := by
  rw [Json.readBytes, Text.decodeLossy]
  rfl

/-- The only reading error that is no value error is a nesting too deep, a recursion error. -/
theorem readError_not_value {e : Json.ReadError} (deep : e.isValueError = false) :
    e.className = "RecursionError" := by
  simpa [Json.ReadError.isValueError] using deep

/-- A body that reads, or fails with a value error, gives the API error its members say. -/
theorem rejection_readable (status reason : Value) (headers : List (String × Value))
    (body : List UInt8) (readable : ∀ e, Json.readBytes body = .error e → e.isValueError = true) :
    rejection status reason headers body =
      .ok (.rejected status ((bodyMember body "message").orElse (reason.orElse (.str "Unknown error")))
        (bodyMember body "id")
        ((bodyMember body "request_id").orElse ((header? headers "x-request-id").getD .none))) := by
  unfold rejection bodyMember
  cases read : Json.readBytes body with
  | ok value => cases value <;> rfl
  | error e => simp [readable e read]; rfl

/-- A body nested too deep fails the rejection with the reader's own error. -/
theorem rejection_too_deep (status reason : Value) (headers : List (String × Value))
    (body : List UInt8) {e : Json.ReadError} (read : Json.readBytes body = .error e)
    (deep : e.isValueError = false) :
    rejection status reason headers body = .error (.malformedJson e) := by
  simp [rejection, read, deep]
  rfl

/-- A reply the library rejects is answered by the fault that its rejection builds. -/
theorem outcome_of_failure (method : Value) (address : String) {status : Value}
    (rejects : isFailure status = .ok true) (reason : Value) (headers : List (String × Value))
    (body : List UInt8) :
    outcome method address (.response status reason headers body) =
      match rejection status reason headers body with
      | .ok fault => .error fault
      | .error fault => .error fault := by
  simp only [outcome, rejects, Except.ok_bind, if_true]
  cases rejection status reason headers body <;> rfl

/-- The header a name finds is the last one whose name is the same but for case. -/
theorem header?_eq_some_iff (headers : List (String × Value)) (name : String) (v : Value) :
    header? headers name = some v ↔
      ∃ pre given post, headers = pre ++ (given, v) :: post ∧ given.toLower = name.toLower ∧
        ∀ h ∈ post, h.1.toLower ≠ name.toLower := by
  -- the last match of the headers is the first match of the headers reversed
  rw [header?, List.getLast?_eq_head?_reverse, ← List.filter_reverse, List.head?_filter,
    Option.map_eq_some_iff]
  constructor
  · rintro ⟨⟨given, v⟩, found, rfl⟩
    obtain ⟨hit, later, earlier, reversed, skipped⟩ := List.find?_eq_some_iff_append.mp found
    refine ⟨earlier.reverse, given, later.reverse, ?_, by simpa using hit, ?_⟩
    · simpa using congrArg List.reverse reversed
    · intro h member
      simpa using skipped h (List.mem_reverse.mp member)
  · rintro ⟨pre, given, post, rfl, same, others⟩
    refine ⟨(given, v), List.find?_eq_some_iff_append.mpr ⟨by simpa using same,
      post.reverse, pre.reverse, by simp, ?_⟩, rfl⟩
    intro h member
    simpa using others h (List.mem_reverse.mp member)

/-- A rejected reply raises an API error with its status, the body's message or the reason, the
body's `id` and request identifier or the last header; a body nested too deep raises instead. -/
theorem rejected_response_error (client : Client) (method : Value) (path : String)
    (options : List (String × Value)) (world : World) {status reason : Value}
    {headers : List (String × Value)} {body : List UInt8} (rejects : isFailure status = .ok true)
    (bound : checkOptions options = .ok ())
    (next : world.nextReply = .response status reason headers body) :
    let message := (bodyMember body "message").orElse (reason.orElse (.str "Unknown error"))
    let requestId :=
      (bodyMember body "request_id").orElse ((header? headers "x-request-id").getD .none)
    let raised := ((client.request method (.str path) options).run world).1
    ((∀ e, Json.readBytes body = .error e → e.isValueError = true) →
      ∃ fault, raised = .error fault ∧ fault.className = "DigitalOceanAPIError" ∧
        fault.message = status.plain ++ " " ++ message.plain ∧
        fault.apiFields? = some (status, bodyMember body "id", requestId)) ∧
    (∀ e, Json.readBytes body = .error e → e.isValueError = false →
      raised = .error (.malformedJson e) ∧ (Fault.malformedJson e).className = "RecursionError") ∧
    (∀ v, header? headers "x-request-id" = some v ↔
      ∃ pre given post, headers = pre ++ (given, v) :: post ∧ given.toLower = "x-request-id" ∧
        ∀ h ∈ post, h.1.toLower ≠ "x-request-id") := by
  intro message requestId raised
  have answered : raised = outcome method (client.address path)
      (.response status reason headers body) := by
    simp only [raised, request_run, bound, next]
  have lower : "x-request-id".toLower = "x-request-id" := by decide +kernel
  refine ⟨?readable, ?deep, fun v => by
    simpa only [lower] using header?_eq_some_iff headers "x-request-id" v⟩
  case readable =>
    intro readable
    refine ⟨.rejected status message (bodyMember body "id") requestId, ?_, rfl, rfl, rfl⟩
    rw [answered, outcome_of_failure method _ rejects, rejection_readable status reason headers
      body readable]
  case deep =>
    intro e read deep
    refine ⟨?_, readError_not_value deep⟩
    rw [answered, outcome_of_failure method _ rejects, rejection_too_deep status reason headers
      body read deep]

/-- A 404 with an empty body and a request identifier in a header of another case. -/
theorem rejected_response_error_not_found :
    let client : Client := { baseUrl := "https://api.digitalocean.com/v2", timeout := .int 30 }
    let reply : Reply := .response (.int 404) (.str "Not Found") [("X-Request-ID", .str "r-1")] []
    let world : World := { replies := [reply] }
    isFailure (.int 404) = .ok true ∧ checkOptions [("params", .none)] = .ok () ∧
      world.nextReply = reply ∧
      ∃ fault, ((client.request (.str "GET") (.str "/droplets/7") [("params", .none)]).run
          world).1 = .error fault ∧
        fault.message = "404 Not Found" ∧ fault.apiFields? = some (.int 404, .none, .str "r-1") := by
  intro client reply world
  have readable : ∀ e, Json.readBytes [] = .error e → e.isValueError = true := by
    intro e read
    rw [readBytes_nil] at read
    cases read
    rfl
  obtain ⟨fault, raised, -, text, fields⟩ := (@rejected_response_error client (.str "GET")
    "/droplets/7" [("params", .none)] world (.int 404) (.str "Not Found")
    [("X-Request-ID", .str "r-1")] [] rfl rfl rfl).1 readable
  have empty : ∀ key, bodyMember [] key = .none := fun key => by simp [bodyMember, readBytes_nil]
  -- each side is decided against its literal: deciding the two lowerings against each other
  -- makes the kernel unfold both at once
  have named : "X-Request-ID".toLower = "x-request-id".toLower :=
    (show "X-Request-ID".toLower = "x-request-id" by decide +kernel).trans
      (show "x-request-id".toLower = "x-request-id" by decide +kernel).symm
  have found : header? [("X-Request-ID", .str "r-1")] "x-request-id" = some (.str "r-1") :=
    (header?_eq_some_iff _ _ _).mpr ⟨[], "X-Request-ID", [], rfl, named, by simp⟩
  refine ⟨rfl, rfl, rfl, fault, raised, ?_, ?_⟩
  · rw [text, empty]
    rfl
  · rw [fields, empty, empty, found]
    rfl

end Client

end CloudClient

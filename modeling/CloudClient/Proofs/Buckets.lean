import CloudClient.Proofs.ActionCalls
import CloudClient.Proofs.Payloads
import CloudClient.Service.Spaces

namespace CloudClient

namespace Value

/-- The member of a mapping under a text key; nothing when absent or for a non-mapping. -/
def textMember? (v : Value) (key : String) : Option Value :=
  match v with
  | .dict entries => lookup? entries (.str key)
  | _ => Option.none

theorem contains_dict_str (entries : List (Value × Value)) (key : String) :
    (Value.dict entries).contains (.str key) = .ok (lookup? entries (.str key)).isSome := by
  simp only [contains, requireHashable, unhashablePart?, lookup?, Option.isSome_map, Except.ok_bind]
  congr 1
  rw [Bool.eq_iff_iff, List.any_eq_true, List.find?_isSome]

/-- Only a mapping answers `get`. -/
theorem dict_of_get_ok {container key fallback found : Value}
    (read : container.get key fallback = .ok found) : ∃ entries, container = .dict entries := by
  cases container with
  | dict entries => exact ⟨entries, rfl⟩
  | _ => cases read

/-- Only a mapping answers `index`. -/
theorem dict_of_index_ok {container found : Value} {key : String}
    (read : container.index key = .ok found) : ∃ entries, container = .dict entries := by
  cases container with
  | dict entries => exact ⟨entries, rfl⟩
  | _ => cases read

/-- A member read as an empty mapping when absent has the members of the member under `key`. -/
theorem textMember?_bind_of_getD {entries members : List (Value × Value)} {key : String}
    (nested : (lookup? entries (.str key)).getD (.dict []) = .dict members) (inner : String) :
    ((Value.dict entries).textMember? key).bind (·.textMember? inner) =
      lookup? members (.str inner) := by
  simp only [textMember?]
  cases found : lookup? entries (.str key) with
  | none =>
    rw [found] at nested
    cases nested
    rfl
  | some member =>
    rw [found] at nested
    cases nested
    rfl

section Untranslated

/-- Reading a member fails only on an unhashable key or a non-mapping, with no API error. -/
theorem get_faults (container key fallback : Value) :
    Except.Faults (fun fault => fault.apiFields? = Option.none) (container.get key fallback) := by
  intro fault read
  cases container with
  | dict entries =>
    simp only [get, requireHashable] at read
    split at read
    · cases read
      rfl
    · cases read
  | _ =>
    cases read
    rfl

theorem members_faults (v : Value) :
    Except.Faults (fun fault => fault.apiFields? = Option.none) v.members := by
  intro fault iterated
  cases v <;> cases iterated <;> rfl

theorem index_faults (v : Value) (key : String) :
    Except.Faults (fun fault => fault.apiFields? = Option.none) (v.index key) := by
  intro fault read
  cases v with
  | dict entries =>
    simp only [index] at read
    split at read
    · cases read
    · cases read
      rfl
  | _ =>
    cases read
    rfl

end Untranslated

end Value

open Value

/-- The creation date of a bucket as its record holds it: a timestamp as ISO text. -/
def creationText : Value → Value
  | .time t => .str t.isoText
  | other => other

/-- The record of a bucket an answer lists, when the entry is a mapping with a name. -/
def bucketRecord (region entry : Value) : Option Value :=
  (entry.textMember? "Name").map fun name => SpacesBucket.toValue
    { name, region, createdAt := creationText ((entry.textMember? "CreationDate").getD .none) }

/-- The records of the buckets an answer lists, in order, when every bucket has one. -/
def bucketRecords (region response : Value) : Option (List Value) :=
  match response with
  | .dict entries =>
    match ((lookup? entries (.str "Buckets")).getD (.list [])).members with
    | .ok items => items.mapM (bucketRecord region)
    | .error _ => Option.none
  | _ => Option.none

/-- The HTTP status an error response reports, or nothing. -/
def reportedStatus (response : Value) : Value :=
  ((response.textMember? "ResponseMetadata").bind (·.textMember? "HTTPStatusCode")).getD .none

/-- The error code an error response reports, or nothing. -/
def reportedCode (response : Value) : Value :=
  ((response.textMember? "Error").bind (·.textMember? "Code")).getD .none

/-- The detail of a rejection: its response's error message, or else the rejection's text. -/
def reportedDetail (response : Value) (text : String) : String :=
  match (response.textMember? "Error").bind (·.textMember? "Message") with
  | some message => message.plain
  | Option.none => text

/-- What an answer's buckets come to: their records, or else a fault that is no API error. -/
def BucketsAnswer (region response : Value) (outcome : Except Fault (List Value)) : Prop :=
  match bucketRecords region response with
  | some records => outcome = .ok records
  | Option.none => ∃ fault, outcome = .error fault ∧ fault.apiFields? = Option.none

/-- What listing a region's buckets answers, given the storage answer or the failure met. -/
def ListingAnswer (region : Value) : Option Listing → Except Fault (List Value) → Prop
  | some (.answer response), outcome => BucketsAnswer region response outcome
  | some (.rejection response), outcome =>
    match rejectionText response with
    | .ok text => outcome = .error (.spacesRejected region (reportedDetail response text)
        (reportedStatus response) (reportedCode response))
    | .error fault => outcome = .error fault
  | some (.unreachable failure), outcome =>
    outcome = .error (.spacesUnreachable region failure.kind failure.text)
  | some (.failure kind detail), outcome => outcome = .error (.raised kind detail)
  | Option.none, outcome => outcome = .error .spacesExhausted

section Answer

theorem bucketOf_eq (region entry : Value) :
    bucketOf region entry = (do
      let created ← entry.get (.str "CreationDate") .none
      let name ← entry.index "Name"
      pure (SpacesBucket.toValue { name, region, createdAt := creationText created })) := by
  unfold bucketOf creationText
  rfl

theorem bucketOf_eq_ok_iff (region entry record : Value) :
    bucketOf region entry = .ok record ↔ bucketRecord region entry = some record := by
  rw [bucketOf_eq]
  cases entry with
  | dict entries =>
    simp only [get_dict_str, Except.ok_bind, index, bucketRecord, textMember?]
    cases lookup? entries (.str "Name") <;> simp
  | _ => simp only [Value.get, Except.error_bind, reduceCtorEq, bucketRecord, textMember?,
      Option.map_none]

theorem bucketOf_faults (region entry : Value) :
    Except.Faults (fun fault => fault.apiFields? = Option.none) (bucketOf region entry) := by
  rw [bucketOf_eq]
  exact Except.faults_bind (get_faults _ _ _) fun _ =>
    Except.faults_bind (index_faults _ _) fun _ => Except.faults_ok _

/-- An answer's buckets become their records, in order, exactly when every bucket has one. -/
theorem buckets_answer (region response : Value) :
    BucketsAnswer region response (do
      let buckets ← response.get (.str "Buckets") (.list [])
      (← buckets.members).mapM (bucketOf region)) := by
  unfold BucketsAnswer bucketRecords
  cases response with
  | dict entries =>
    simp only [get_dict_str, Except.ok_bind]
    cases iterated : ((lookup? entries (.str "Buckets")).getD (.list [])).members with
    | error fault => exact ⟨fault, rfl, members_faults _ fault iterated⟩
    | ok items =>
      simp only [Except.ok_bind]
      have agree : ∀ entry record, bucketOf region entry = .ok record ↔
          ∃ found, bucketRecord region entry = some found ∧ id found = record :=
        fun entry record => by simp [bucketOf_eq_ok_iff]
      have each := Except.mapM_eq_ok_iff agree items
      cases recorded : items.mapM (bucketRecord region) with
      | some records => exact (each records).mpr ⟨records, recorded, List.map_id records⟩
      | none =>
        cases listed : items.mapM (bucketOf region) with
        | ok records =>
          obtain ⟨_, found, -⟩ := (each records).mp listed
          rw [recorded] at found
          cases found
        | error fault =>
          exact ⟨fault, rfl, Except.faults_mapM (bucketOf_faults region) items fault listed⟩
  | _ => exact ⟨_, rfl, rfl⟩

end Answer

section Rejection

/-- A rejection's error response is a mapping whose error and metadata members are mappings. -/
theorem rejectionText_shape {response : Value} {text : String}
    (built : rejectionText response = .ok text) :
    ∃ entries errorEntries metadataEntries, response = .dict entries ∧
      (lookup? entries (.str "Error")).getD (.dict []) = .dict errorEntries ∧
      (lookup? entries (.str "ResponseMetadata")).getD (.dict []) = .dict metadataEntries := by
  -- the text reads a member of the response, `ResponseMetadata` with `index` or else `Error`
  -- with `get`, and only a mapping answers either
  obtain ⟨entries, rfl⟩ : ∃ entries, response = .dict entries := by
    rw [rejectionText] at built
    obtain ⟨present, -, retried⟩ := Except.bind_eq_ok built
    cases present with
    | false =>
      simp only [Bool.false_eq_true, if_false, pure_bind] at retried
      exact dict_of_get_ok (Except.bind_eq_ok retried).choose_spec.1
    | true =>
      simp only [if_true] at retried
      exact dict_of_index_ok (Except.bind_eq_ok retried).choose_spec.1
  -- every way to the text ends by reading the code of the `Error` member
  have errorShape : ∀ {β : Type} {f : Value → Except Fault β} {b : β},
      (((lookup? entries (.str "Error")).getD (.dict [])).get (.str "Code") (.str "Unknown") >>=
        f) = .ok b →
      ∃ errorEntries, (lookup? entries (.str "Error")).getD (.dict []) = .dict errorEntries :=
    fun read => dict_of_get_ok (Except.bind_eq_ok read).choose_spec.1
  simp only [rejectionText, contains_dict_str, Except.ok_bind, get_dict_str, index] at built
  cases present : lookup? entries (.str "ResponseMetadata") with
  | none =>
    simp only [present, Option.isSome_none, Bool.false_eq_true, if_false, pure_bind] at built
    obtain ⟨errorEntries, errorIs⟩ := errorShape built
    exact ⟨entries, errorEntries, [], rfl, errorIs, by rw [present]; rfl⟩
  | some metadata =>
    simp only [present, Option.isSome_some, if_true, Except.ok_bind] at built
    -- the retry note reads `MaxAttemptsReached` of the metadata, which only a mapping answers
    obtain ⟨flag, readFlag, rest⟩ := Except.bind_eq_ok built
    obtain ⟨metadataEntries, rfl⟩ := dict_of_get_ok readFlag
    have errorIs : ∃ errorEntries,
        (lookup? entries (.str "Error")).getD (.dict []) = .dict errorEntries := by
      split at rest
      · rw [contains_dict_str] at rest
        simp only [Except.ok_bind] at rest
        split at rest
        · cases attempts : lookup? metadataEntries (.str "RetryAttempts") with
          | none => simp [attempts] at rest
          | some count =>
            simp only [attempts, Except.ok_bind, pure_bind] at rest
            exact errorShape rest
        · simp only [pure_bind] at rest
          exact errorShape rest
      · simp only [pure_bind] at rest
        exact errorShape rest
    obtain ⟨errorEntries, errorIs⟩ := errorIs
    exact ⟨entries, errorEntries, metadataEntries, rfl, errorIs, by rw [present]; rfl⟩

/-- A rejection built into one becomes the API error with its response's status and code. -/
theorem spacesRejection_of_text {region response : Value} {text : String}
    (built : rejectionText response = .ok text) :
    spacesRejection region response =
      .ok (.spacesRejected region (reportedDetail response text) (reportedStatus response)
        (reportedCode response)) := by
  obtain ⟨entries, errorEntries, metadataEntries, rfl, errorIs, metadataIs⟩ :=
    rejectionText_shape built
  simp only [spacesRejection, built, Except.ok_bind, get_dict_str, errorIs, metadataIs,
    reportedDetail, reportedStatus, reportedCode, textMember?_bind_of_getD errorIs,
    textMember?_bind_of_getD metadataIs]
  cases lookup? errorEntries (.str "Message") <;> rfl

end Rejection

/-- The client factory records the region it is asked for and makes a storage client. -/
theorem callObject_storageFactory (region : Value) (world : World) :
    (callObject (.handle .storageFactory) [region] []).run world =
      (.ok (.handle .storageClient), { world with
        regionsAsked := world.regionsAsked ++ [region] }) :=
  rfl

namespace Cloud

/-- Listing a region's buckets asks the client factory once, for the region, takes one storage
answer and answers as `ListingAnswer` says; a fault in obtaining the client is the listing's. -/
theorem bucket_listing_answers (client : Client) (tracking : Bool) (region : Value)
    (world : World) :
    (∃ outcome, ((sessionCloud client tracking).spacesBuckets region).run world =
        (outcome, { world with
          regionsAsked := world.regionsAsked ++ [region], listings := world.listings.drop 1 }) ∧
      ListingAnswer region world.listings.head? outcome) ∧
    ∀ (cloud : Cloud) (fault : Fault) (after : World),
      (do callObject (← Api.lift cloud.clientFactory) [region] [] : Api Value).run world =
          (.error fault, after) →
        (cloud.spacesBuckets region).run world = (.error fault, after) := by
  refine ⟨?_, ?_⟩
  · have made : (sessionCloud client tracking).clientFactory = .ok (.handle .storageFactory) := by
      cases tracking <;> rfl
    simp only [spacesBuckets, made, Api.lift_ok, pure_bind, Api.run_bind,
      callObject_storageFactory, Api.run_nextListing]
    cases world.listings.head? with
    | none => exact ⟨_, rfl, rfl⟩
    | some listing =>
      cases listing with
      | failure kind detail => exact ⟨_, rfl, rfl⟩
      | unreachable failure => exact ⟨_, rfl, rfl⟩
      | rejection response =>
        simp only [ListingAnswer, Api.run_bind, Api.run_lift]
        cases built : rejectionText response with
        | ok text =>
          rw [spacesRejection_of_text built]
          exact ⟨_, rfl, rfl⟩
        | error fault =>
          simp only [spacesRejection, built, Except.error_bind]
          exact ⟨_, rfl, rfl⟩
      | answer response =>
        simp only [Api.lift_bind, Api.run_lift]
        exact ⟨_, rfl, buckets_answer region response⟩
  · intro cloud fault after called
    rw [spacesBuckets, ← bind_assoc]
    exact Api.run_bind_of_error called

end Cloud

end CloudClient

import CloudClient.Service.Basic

namespace CloudClient

/-- The text of a failure of the storage client. -/
def StorageFailure.text : StorageFailure → String
  | .noCredentials => "Unable to locate credentials"
  | .endpointConnection url => "Could not connect to the endpoint URL: \"" ++ url.plain ++ "\""
  | .connectTimeout url => "Connect timeout on endpoint URL: \"" ++ url.plain ++ "\""
  | .paramValidation report => "Parameter validation failed:\n" ++ report.plain

/-- The class name of a failure of the storage client. -/
def StorageFailure.kind : StorageFailure → String
  | .noCredentials => "NoCredentialsError"
  | .endpointConnection _ => "EndpointConnectionError"
  | .connectTimeout _ => "ConnectTimeoutError"
  | .paramValidation _ => "ParamValidationError"

/-- The text of a bucket listing's rejection: its retry note, then its error code and message. -/
def rejectionText (response : Value) : Except Fault String := do
  let retryInfo ← if ← response.contains (.str "ResponseMetadata") then do
      let metadata ← response.index "ResponseMetadata"
      if (← metadata.get (.str "MaxAttemptsReached") (.bool false)).truthy then
        if ← metadata.contains (.str "RetryAttempts") then
          pure (" (reached max retries: " ++ (← metadata.index "RetryAttempts").plain ++ ")")
        else pure ""
      else pure ""
    else pure ""
  let error ← response.get (.str "Error") (.dict [])
  let code ← error.get (.str "Code") (.str "Unknown")
  let message ← error.get (.str "Message") (.str "Unknown")
  pure ("An error occurred (" ++ code.plain ++ ") when calling the ListBuckets operation" ++
    retryInfo ++ ": " ++ message.plain)

/-- The fault of a rejected bucket listing. -/
def spacesRejection (region response : Value) : Except Fault Fault := do
  let text ← rejectionText response
  let error ← response.get (.str "Error") (.dict [])
  let metadata ← response.get (.str "ResponseMetadata") (.dict [])
  let status ← metadata.get (.str "HTTPStatusCode") .none
  let detail ← error.get (.str "Message") (.str text)
  let code ← error.get (.str "Code") .none
  pure (.spacesRejected region detail.plain status code)

/-- The bucket record of one entry of a listing. -/
def bucketOf (region entry : Value) : Except Fault Value := do
  let created ← entry.get (.str "CreationDate") .none
  let name ← entry.index "Name"
  let createdAt := match created with
    | .time t => Value.str t.isoText
    | other => other
  pure (SpacesBucket.toValue { name, region, createdAt })

/-- The parameters of a call of the storage client factory. -/
def storageFactorySignature : Signature where
  callee := "FakeSpacesFactory.__call__"
  parameters := [Signature.required "self", Signature.required "region"]

/-- Calls an object: the factory makes a storage client for a region, anything else is a payload. -/
def callObject (callee : Value) (positional : List Value) (keywords : List (String × Value)) :
    Api Value :=
  match callee with
  | .handle .storageFactory => do
    let binding ← Api.lift (storageFactorySignature.bind (.none :: positional) keywords)
    Api.askStorage (binding.arg 1)
    pure (.handle .storageClient)
  | other => Api.lift (other.invoke positional keywords)

namespace Cloud

/-- The buckets visible from a region, through the service's client factory. -/
def spacesBuckets (cloud : Cloud) (region : Value) : Api (List Value) := do
  match ← callObject (← Api.lift cloud.clientFactory) [region] [] with
  | .handle .storageClient => pure ()
  | other => Endpoint.lacks other "list_buckets"
  match ← Api.nextListing with
  | Option.none => throw .spacesExhausted
  | some (.failure kind detail) => throw (.raised kind detail)
  | some (.unreachable failure) => throw (.spacesUnreachable region failure.kind failure.text)
  | some (.rejection response) => throw (← Api.lift (spacesRejection region response))
  | some (.answer response) =>
    let buckets ← Api.lift (response.get (.str "Buckets") (.list []))
    Api.lift ((← Api.lift buckets.members).mapM (bucketOf region))

end Cloud

end CloudClient

import CloudClient.Service.Basic

namespace CloudClient

namespace Cloud

/-- The path of a key. -/
def keyPath (address : Value) : Except Fault Value :=
  match address with
  | .int _ => .ok (path [.str "/account/keys/", address])
  | .str text =>
    if text.isEmpty then .error .emptyFingerprint else .ok (path [.str "/account/keys/", address])
  | other => .error (.keyAddressType other)

/-- Every key on the account. -/
def keys (cloud : Cloud) : Api (List Key) :=
  cloud.collect "/account/keys" "ssh_keys" Key.decode

/-- One key. The request method is read before the path is worked out. -/
def key (cloud : Cloud) (address : Value) : Api Key := do
  let endpoint ← cloud.requestMethod "get"
  let body ← endpoint.get (← Api.lift (keyPath address))
  Api.lift (Key.decode (← member body "ssh_key"))

/-- Registers a key. -/
def createKey (cloud : Cloud) (name publicKey : Value) : Api Key := do
  let body ← cloud.post (.str "/account/keys")
    (request [("name", name), ("public_key", publicKey)])
  let created ← Api.lift (Key.decode (← member body "ssh_key"))
  cloud.track "Key" (.int created.id)
  pure created

/-- Renames a key. The request method is read before the path is worked out. -/
def updateKey (cloud : Cloud) (address name : Value) : Api Key := do
  let endpoint ← cloud.requestMethod "put"
  let body ← endpoint.put (← Api.lift (keyPath address)) (request [("name", name)])
  Api.lift (Key.decode (← member body "ssh_key"))

/-- The identifier of a key, read through the service's own `get`. -/
def keyId (cloud : Cloud) (address : Value) : Api Value := do
  let key ← cloud.selfCall "get" [address] (Key.toValue <$> cloud.key address)
  Api.lift (key.attr "id")

/-- Deletes a key. -/
def deleteKey (cloud : Cloud) (address : Value) : Api Unit := do
  let address' ← Api.lift (keyPath address)
  let byFingerprint := match address with
    | .str _ => true
    | _ => false
  let keyId ← if (← cloud.tracking) && byFingerprint then cloud.keyId address
    else pure address
  let _ ← cloud.delete address'
  cloud.untrack "Key" keyId

end Cloud

end CloudClient

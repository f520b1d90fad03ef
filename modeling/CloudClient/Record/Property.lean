import CloudClient.Record.Decode
import CloudClient.Signature

namespace CloudClient

/-- The address of the first public network among IPv4 networks. -/
def firstPublicAddress : List Value → Except Fault Value
  | [] => pure (.str "")
  | network :: rest => do
    let type ← network.get (.str "type") .none
    if type.equals (.str "public") then network.get (.str "ip_address") (.str "")
    else firstPublicAddress rest

/-- The public IPv4 address recorded in a droplet's network mapping. -/
def publicIpv4Of (networks : Value) : Except Fault Value := do
  let v4 ← networks.get (.str "v4") (.list [])
  firstPublicAddress (← v4.members)

/-- Whether an action with this status and completion time is done. -/
def isDoneOf (status completedAt : Value) : Bool :=
  status.equals (.str "completed") || completedAt.truthy

/-- The public IPv4 address of a droplet. -/
def Droplet.publicIpv4 (d : Droplet) : Except Fault Value := publicIpv4Of (.dict d.networks)

/-- Whether an action is done. -/
def Action.isDone (a : Action) : Bool := isDoneOf a.status a.completedAt

/-- The computed properties of a record view, by name, each with its value or its fault. -/
def Value.properties : Value → List (String × Except Fault Value)
  | .record .droplet fields =>
    [("public_ipv4", publicIpv4Of ((RecordKind.fieldNames .droplet |>.zip fields).lookup
      "networks" |>.getD .none))]
  | .record .action fields =>
    let field := fun name => ((RecordKind.fieldNames .action).zip fields).lookup name |>.getD .none
    [("is_done", .ok (.bool (isDoneOf (field "status") (field "completed_at"))))]
  | _ => []

/-- The constructor of a record kind: the record, then a parameter per field with its default. -/
def RecordKind.constructor (kind : RecordKind) : Signature where
  callee := kind.name ++ ".__init__"
  parameters := Signature.required "self" ::
    (kind.fieldNames.zip kind.fieldDefaults).map fun (name, fallback) =>
      match fallback with
      | .required => Signature.required name
      | .shared value => Signature.optional name value
      | .fresh value => Signature.optional name value

/-- Calls a record kind: binds the arguments to its constructor and builds the record. -/
def RecordKind.call (kind : RecordKind) (positional : List Value)
    (keywords : List (String × Value)) : Except Fault Value := do
  let binding ← kind.constructor.bind (.none :: positional) keywords
  pure (.record kind (binding.values.drop 1))

/-- Builds a record of a kind from keywords. -/
def RecordKind.build (kind : RecordKind) (keywords : List (String × Value)) :
    Except Fault Value :=
  kind.call [] keywords

/-- Calls a value: a record kind builds a record, and no other payload can be called. -/
def Value.invoke : Value → List Value → List (String × Value) → Except Fault Value
  | .recordClass kind, positional, keywords => kind.call positional keywords
  | other, _, _ => .error (.notCallable other.typeName)

end CloudClient

import CloudClient.Service.Keys
import CloudClient.Service.Droplets
import CloudClient.Service.FloatingIps
import CloudClient.Service.Volumes
import CloudClient.Service.Domains
import CloudClient.Service.Tags
import CloudClient.Service.Spaces

namespace CloudClient

/-- An operation that can be called by name. -/
structure Operation where
  signature : Signature
  /-- Whether a call passes the object the operation belongs to before its arguments. -/
  receiver : Bool := true
  run : Binding → Api Value

namespace Operation

/-- A method of an owner: the object it belongs to comes first. -/
def method (owner name : String) (parameters : List Parameter) (run : Binding → Api Value)
    (gathers : Bool := false) : String × Operation :=
  let signature : Signature :=
    { callee := owner ++ "." ++ name, parameters := Signature.required "self" :: parameters,
      gathersKeywords := gathers }
  (name, { signature, run })

/-- A function called with the owner's object as its first argument. -/
def function (name : String) (first : Parameter) (parameters : List Parameter)
    (run : Binding → Api Value) (gathers : Bool := false) : String × Operation :=
  let signature : Signature :=
    { callee := name, parameters := first :: parameters, gathersKeywords := gathers }
  (name, { signature, run })

/-- A method that gathers the keywords naming none of its parameters. -/
def gatheringMethod (owner name : String) (parameters : List Parameter)
    (run : Binding → Api Value) : String × Operation :=
  method owner name parameters run true

/-- A function that gathers the keywords naming none of its parameters. -/
def gatheringFunction (name : String) (first : Parameter) (parameters : List Parameter)
    (run : Binding → Api Value) : String × Operation :=
  function name first parameters run true

/-- A function of its own parameters only, made for one caller. -/
def closure (callee : String) (parameters : List Parameter) (run : Binding → Api Value) :
    Operation :=
  { signature := { callee, parameters }, receiver := false, run }

/-- Binds a call's arguments, after the object the operation belongs to when it takes one. -/
def bindArguments (operation : Operation) (positional : List Value)
    (keywords : List (String × Value)) : Except Fault Binding :=
  operation.signature.bind (if operation.receiver then .none :: positional else positional)
    keywords

/-- Calls an operation. -/
def invoke (operation : Operation) (positional : List Value)
    (keywords : List (String × Value)) : Api Value := do
  operation.run (← Api.lift (operation.bindArguments positional keywords))

end Operation

open Operation Signature

/-- A service class: its name, module, documentation and initializer parameters, as attributes. -/
structure ServiceClass where
  name : String
  module : String
  doc : Option String
  fields : List Parameter

namespace ServiceClass

/-- The initializer's parameters. -/
def initializer (cls : ServiceClass) : Signature :=
  { callee := cls.name ++ ".__init__", parameters := required "self" :: cls.fields }

/-- The parameters of a service that sends requests through the client. -/
def apiFields : List Parameter := [required "api"]

/-- The parameters of a service that also reports to a tracker. -/
def trackedFields : List Parameter := [required "api", optional "tracker" .none]

/-- The services of a cloud with their classes, in the order the cloud makes them. -/
def catalog : List (String × ServiceClass) :=
  [("accounts", ⟨"AccountsService", "do_toolkit.cloud.accounts",
      some "Reads the account that owns the API token.", apiFields⟩),
    ("actions", ⟨"ActionsService", "do_toolkit.cloud.actions", none, apiFields⟩),
    ("keys", ⟨"KeysService", "do_toolkit.cloud.keys",
      some "Lists and manages the SSH keys registered on the account.", trackedFields⟩),
    ("regions", ⟨"RegionsService", "do_toolkit.cloud.regions", none, apiFields⟩),
    ("sizes", ⟨"SizesService", "do_toolkit.cloud.sizes", none, apiFields⟩),
    ("droplets", ⟨"DropletsService", "do_toolkit.cloud.droplets",
      some "Lists, creates and deletes droplets (virtual machines).", trackedFields⟩),
    ("floating_ips", ⟨"FloatingIPsService", "do_toolkit.cloud.floatingips", none,
      trackedFields⟩),
    ("volumes", ⟨"VolumesService", "do_toolkit.cloud.volumes",
      some "Lists, creates and deletes volumes, and snapshots them.", trackedFields⟩),
    ("snapshots", ⟨"SnapshotsService", "do_toolkit.cloud.snapshots", none, trackedFields⟩),
    ("domains", ⟨"DomainsService", "do_toolkit.cloud.domains",
      some "Manages DNS zones and the records inside them.", trackedFields⟩),
    ("tags", ⟨"TagsService", "do_toolkit.cloud.tags",
      some "Creates tags and attaches them to droplets and volumes.", trackedFields⟩),
    ("spaces", ⟨"SpacesService", "do_toolkit.cloud.spaces", none,
      [required "client_factory"]⟩)]

/-- The class of a name. -/
def ofName? (name : String) : Option ServiceClass :=
  (catalog.find? fun (_, cls) => cls.name == name).map (·.2)

end ServiceClass

namespace Cloud

/-- The view of a list of records. -/
def views {α : Type} (view : α → Value) (records : List α) : Value := .list (records.map view)

/-- Runs an operation that gives nothing. -/
def nothing (operation : Api Unit) : Api Value := do operation; pure .none

/-- The methods of a service, in the order its class defines them. -/
def methods (cloud : Cloud) : String → List (String × Operation)
  | "accounts" =>
    let owner := "AccountsService"
    [method owner "get" [] fun _ => Account.toValue <$> cloud.account]
  | "actions" =>
    let owner := "ActionsService"
    [
      method owner "get" [required "action_id"] fun b => Action.toValue <$> cloud.action (b.arg 1),
      method owner "list" [] fun _ => views Action.toValue <$> cloud.actions,
      gatheringMethod owner "wait" [required "action_id"] fun b => do
        Action.toValue <$> Waiter.waitCall (← cloud.endpoint) [.none, b.arg 1] b.extras]
  | "keys" =>
    let owner := "KeysService"
    [
      method owner "list" [] fun _ => views Key.toValue <$> cloud.keys,
      method owner "get" [required "id_or_fingerprint"] fun b =>
        Key.toValue <$> cloud.key (b.arg 1),
      method owner "create" [required "name", required "public_key"] fun b =>
        Key.toValue <$> cloud.createKey (b.arg 1) (b.arg 2),
      method owner "update" [required "id_or_fingerprint", required "name"] fun b =>
        Key.toValue <$> cloud.updateKey (b.arg 1) (b.arg 2),
      method owner "delete" [required "id_or_fingerprint"] fun b =>
        nothing (cloud.deleteKey (b.arg 1))]
  | "regions" =>
    let owner := "RegionsService"
    [method owner "list" [] fun _ => views Region.toValue <$> cloud.regions]
  | "sizes" =>
    let owner := "SizesService"
    [method owner "list" [] fun _ => views Size.toValue <$> cloud.sizes]
  | "droplets" =>
    let owner := "DropletsService"
    [
      method owner "list" [optional "tag" .none] fun b =>
        views Droplet.toValue <$> cloud.droplets (b.arg 1),
      method owner "get" [required "droplet_id"] fun b =>
        Droplet.toValue <$> cloud.droplet (b.arg 1),
      method owner "create"
        [required "name", required "region", required "size", required "image",
          optional "ssh_keys" .none, optional "tags" .none, optional "backups" (.bool false),
          optional "ipv6" (.bool false), optional "user_data" .none, optional "wait" (.bool true)]
        fun b => cloud.createDropletThen (b.arg 1) (b.arg 2) (b.arg 3) (b.arg 4) (b.arg 5)
          (b.arg 6) (b.arg 7) (b.arg 8) (b.arg 9) (b.arg 10) Droplet.toValue fun dropletId =>
            cloud.selfCall "get" [dropletId] (Droplet.toValue <$> cloud.droplet dropletId),
      method owner "delete" [required "droplet_id"] fun b =>
        nothing (cloud.deleteDroplet (b.arg 1))]
  | "floating_ips" =>
    let owner := "FloatingIPsService"
    [
      method owner "list" [] fun _ => views FloatingIp.toValue <$> cloud.floatingIps,
      method owner "get" [required "ip"] fun b => FloatingIp.toValue <$> cloud.floatingIp (b.arg 1),
      method owner "create" [optional "region" .none, optional "droplet_id" .none] fun b =>
        FloatingIp.toValue <$> cloud.createFloatingIp (b.arg 1) (b.arg 2),
      method owner "delete" [required "ip"] fun b => nothing (cloud.deleteFloatingIp (b.arg 1)),
      method owner "assign" [required "ip", required "droplet_id", optional "wait" (.bool true)]
        fun b => cloud.selfCall "_action" [b.arg 1, assignRequest (b.arg 2), b.arg 3]
          (Action.toValue <$> cloud.assignFloatingIp (b.arg 1) (b.arg 2) (b.arg 3)),
      method owner "unassign" [required "ip", optional "wait" (.bool true)] fun b =>
        cloud.selfCall "_action" [b.arg 1, unassignRequest, b.arg 2]
          (Action.toValue <$> cloud.unassignFloatingIp (b.arg 1) (b.arg 2)),
      method owner "_action" [required "ip", required "request", required "wait"] fun b =>
        Action.toValue <$> cloud.floatingIpAction (b.arg 1) (b.arg 2) (b.arg 3)]
  | "volumes" =>
    let owner := "VolumesService"
    [
      method owner "list" [optional "region" .none] fun b =>
        views Volume.toValue <$> cloud.volumes (b.arg 1),
      method owner "get" [required "volume_id"] fun b => Volume.toValue <$> cloud.volume (b.arg 1),
      method owner "create"
        [required "name", required "region", required "size_gigabytes",
          optional "description" (.str ""), optional "snapshot_id" .none]
        fun b => Volume.toValue <$>
          cloud.createVolume (b.arg 1) (b.arg 2) (b.arg 3) (b.arg 4) (b.arg 5),
      method owner "delete" [required "volume_id"] fun b => nothing (cloud.deleteVolume (b.arg 1)),
      method owner "create_snapshot" [required "volume_id", required "name"] fun b =>
        Snapshot.toValue <$> cloud.createSnapshot (b.arg 1) (b.arg 2)]
  | "snapshots" =>
    let owner := "SnapshotsService"
    [
      method owner "list" [optional "resource_type" .none] fun b =>
        views Snapshot.toValue <$> cloud.snapshots (b.arg 1),
      method owner "get" [required "snapshot_id"] fun b =>
        Snapshot.toValue <$> cloud.snapshot (b.arg 1),
      method owner "create" [required "volume_id", required "name"] fun b =>
        Snapshot.toValue <$> cloud.createSnapshot (b.arg 1) (b.arg 2),
      method owner "delete" [required "snapshot_id"] fun b =>
        nothing (cloud.deleteSnapshot (b.arg 1))]
  | "domains" =>
    let owner := "DomainsService"
    [
      method owner "list" [] fun _ => views Domain.toValue <$> cloud.domains,
      method owner "get" [required "name"] fun b => Domain.toValue <$> cloud.domain (b.arg 1),
      method owner "create" [required "name", optional "ip_address" .none] fun b =>
        Domain.toValue <$> cloud.createDomain (b.arg 1) (b.arg 2),
      method owner "delete" [required "name"] fun b => nothing (cloud.deleteDomain (b.arg 1)),
      method owner "list_records" [required "domain"] fun b =>
        views DomainRecord.toValue <$> cloud.domainRecords (b.arg 1),
      method owner "get_record" [required "domain", required "record_id"] fun b =>
        DomainRecord.toValue <$> cloud.domainRecord (b.arg 1) (b.arg 2),
      gatheringMethod owner "create_record"
        [required "domain", required "record_type", required "name", required "data"]
         fun b => DomainRecord.toValue <$>
          cloud.createDomainRecord (b.arg 1) (b.arg 2) (b.arg 3) (b.arg 4) b.extras,
      gatheringMethod owner "update_record" [required "domain", required "record_id"]
        fun b => DomainRecord.toValue <$> cloud.updateDomainRecord (b.arg 1) (b.arg 2) b.extras,
      method owner "delete_record" [required "domain", required "record_id"] fun b =>
        nothing (cloud.deleteDomainRecord (b.arg 1) (b.arg 2))]
  | "tags" =>
    let owner := "TagsService"
    [
      method owner "list" [] fun _ => views Tag.toValue <$> cloud.tags,
      method owner "get" [required "name"] fun b => Tag.toValue <$> cloud.tag (b.arg 1),
      method owner "create" [required "name"] fun b => Tag.toValue <$> cloud.createTag (b.arg 1),
      method owner "delete" [required "name"] fun b => nothing (cloud.deleteTag (b.arg 1)),
      method owner "tag_resources" [required "name", required "resources"] fun b =>
        nothing (cloud.tagResources (b.arg 1) (b.arg 2)),
      method owner "untag_resources" [required "name", required "resources"] fun b =>
        nothing (cloud.untagResources (b.arg 1) (b.arg 2))]
  | "spaces" =>
    let owner := "SpacesService"
    [method owner "list" [required "region"] fun b =>
      .list <$> cloud.spacesBuckets (b.arg 1)]
  | _ => []


end Cloud

end CloudClient

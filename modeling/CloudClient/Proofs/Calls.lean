import CloudClient.Proofs.Untracked

namespace CloudClient

/-- A call of a service that creates and deletes nothing. -/
inductive Query where
  | account
  | action (actionId : Value)
  | actions
  | waitAction (actionId : Value) (keywords : List (String × Value))
  | keys
  | key (address : Value)
  | updateKey (address name : Value)
  | regions
  | sizes
  | droplets (tag : Value)
  | droplet (dropletId : Value)
  | floatingIps
  | floatingIp (ip : Value)
  | floatingIpAction (ip body wait : Value)
  | assignFloatingIp (ip dropletId wait : Value)
  | unassignFloatingIp (ip wait : Value)
  | volumes (region : Value)
  | volume (volumeId : Value)
  | snapshots (resourceType : Value)
  | snapshot (snapshotId : Value)
  | domains
  | domain (name : Value)
  | domainRecords (domainName : Value)
  | domainRecord (domainName recordId : Value)
  | updateDomainRecord (domainName recordId : Value) (fields : List (String × Value))
  | tags
  | tag (name : Value)
  | tagResources (name resources : Value)
  | untagResources (name resources : Value)
  | spacesBuckets (region : Value)

/-- A call that creates or deletes one resource; volume and snapshot service snapshots are one. -/
inductive Mutation where
  | createKey (name publicKey : Value)
  | deleteKey (address : Value)
  | createDroplet (name region size image sshKeys tags backups ipv6 userData wait : Value)
  | deleteDroplet (dropletId : Value)
  | createFloatingIp (region dropletId : Value)
  | deleteFloatingIp (ip : Value)
  | createVolume (name region sizeGigabytes description snapshotId : Value)
  | deleteVolume (volumeId : Value)
  | createSnapshot (volumeId name : Value)
  | deleteSnapshot (snapshotId : Value)
  | createDomain (name ipAddress : Value)
  | deleteDomain (name : Value)
  | createDomainRecord (domainName recordType name data : Value)
      (fields : List (String × Value))
  | deleteDomainRecord (domainName recordId : Value)
  | createTag (name : Value)
  | deleteTag (name : Value)

/-- A call of a service. -/
inductive ServiceCall where
  | query (call : Query)
  | mutation (call : Mutation)

namespace Cloud

section Through

variable {cloud : Cloud} (through : cloud.api = .ok (.handle .client))
include through

/-- Through the session's client every request method can be read. -/
theorem requestMethod_through (name : String) :
    cloud.requestMethod name = pure { client := cloud.client } := by
  simp [requestMethod, endpoint, through, Endpoint.method, Endpoint.offers]

/-- Through the client, reading a key is fetching it at its path. -/
theorem key_through (address : Value) :
    cloud.key address = (do cloud.fetch (← Api.lift (keyPath address)) "ssh_key" Key.decode) := by
  simp [key, requestMethod_through through, fetch, get, endpoint, through]

/-- Through the client, renaming a key is a PUT at its path. -/
theorem updateKey_through (address name : Value) :
    cloud.updateKey address name = (do
      let body ← cloud.put (← Api.lift (keyPath address)) (request [("name", name)])
      Api.lift (Key.decode (← member body "ssh_key"))) := by
  simp [updateKey, requestMethod_through through, put, endpoint, through]

theorem tagResources_through (name resources : Value) :
    cloud.tagResources name resources = (do
      let refs ← Api.lift (resourceRefs resources)
      let _ ← cloud.post (path [.str "/tags/", name, .str "/resources"])
        (request [("resources", refs)])) := by
  simp [tagResources, requestMethod_through through, post, endpoint, through]

theorem untagResources_through (name resources : Value) :
    cloud.untagResources name resources = (do
      let refs ← Api.lift (resourceRefs resources)
      let _ ← cloud.delete (path [.str "/tags/", name, .str "/resources"])
        (request [("resources", refs)])) := by
  simp [untagResources, requestMethod_through through, delete, endpoint, through]

end Through

/-- A service that holds no `get` of its own reads a key's identifier with its class's read. -/
theorem keyId_own {cloud : Cloud} (own : cloud.overrides "get" = Option.none) (address : Value) :
    cloud.keyId address = Value.int <$> (·.id) <$> cloud.key address := by
  simp [keyId, selfCall, own]
  rfl

end Cloud

open Cloud

namespace Query

/-- Runs a query on a cloud. -/
def run (cloud : Cloud) : Query → Api Value
  | .account => Account.toValue <$> cloud.account
  | .action actionId => Action.toValue <$> cloud.action actionId
  | .actions => views Action.toValue <$> cloud.actions
  | .waitAction actionId keywords => do
    Action.toValue <$> Waiter.waitCall (← cloud.endpoint) [.none, actionId] keywords
  | .keys => views Key.toValue <$> cloud.keys
  | .key address => Key.toValue <$> cloud.key address
  | .updateKey address name => Key.toValue <$> cloud.updateKey address name
  | .regions => views Region.toValue <$> cloud.regions
  | .sizes => views Size.toValue <$> cloud.sizes
  | .droplets tagName => views Droplet.toValue <$> cloud.droplets tagName
  | .droplet dropletId => Droplet.toValue <$> cloud.droplet dropletId
  | .floatingIps => views FloatingIp.toValue <$> cloud.floatingIps
  | .floatingIp ip => FloatingIp.toValue <$> cloud.floatingIp ip
  | .floatingIpAction ip body wait => Action.toValue <$> cloud.floatingIpAction ip body wait
  | .assignFloatingIp ip dropletId wait =>
    Action.toValue <$> cloud.assignFloatingIp ip dropletId wait
  | .unassignFloatingIp ip wait => Action.toValue <$> cloud.unassignFloatingIp ip wait
  | .volumes region => views Volume.toValue <$> cloud.volumes region
  | .volume volumeId => Volume.toValue <$> cloud.volume volumeId
  | .snapshots resourceType => views Snapshot.toValue <$> cloud.snapshots resourceType
  | .snapshot snapshotId => Snapshot.toValue <$> cloud.snapshot snapshotId
  | .domains => views Domain.toValue <$> cloud.domains
  | .domain name => Domain.toValue <$> cloud.domain name
  | .domainRecords domainName => views DomainRecord.toValue <$> cloud.domainRecords domainName
  | .domainRecord domainName recordId =>
    DomainRecord.toValue <$> cloud.domainRecord domainName recordId
  | .updateDomainRecord domainName recordId fields =>
    DomainRecord.toValue <$> cloud.updateDomainRecord domainName recordId fields
  | .tags => views Tag.toValue <$> cloud.tags
  | .tag name => Tag.toValue <$> cloud.tag name
  | .tagResources name resources => nothing (cloud.tagResources name resources)
  | .untagResources name resources => nothing (cloud.untagResources name resources)
  | .spacesBuckets region => .list <$> cloud.spacesBuckets region

open Api

/-- Every query is untracked: none of them touches the tracker. -/
theorem untracked (cloud : Cloud) : ∀ call : Query, (call.run cloud).Untracked
  | .account => untracked_map _ (cloud.untracked_fetch _ _ _)
  | .action _ => untracked_map _ (cloud.untracked_fetch _ _ _)
  | .actions => untracked_map _ (cloud.untracked_collect _ _ _ _)
  | .waitAction _ keywords => untracked_bind cloud.untracked_endpoint fun endpoint =>
    untracked_map _ (Waiter.untracked_waitCall endpoint _ keywords)
  | .keys => untracked_map _ (cloud.untracked_collect _ _ _ _)
  | .key _ => untracked_map _ (untracked_bind (cloud.untracked_requestMethod _) fun endpoint =>
    untracked_bind (untracked_lift _) fun path => untracked_bind (endpoint.untracked_get path)
      fun _ => untracked_bind (untracked_lift _) fun _ => untracked_lift _)
  | .updateKey _ _ => untracked_map _ (untracked_bind (cloud.untracked_requestMethod _)
    fun endpoint => untracked_bind (untracked_lift _) fun path =>
      untracked_bind (endpoint.untracked_put path _) fun _ =>
        untracked_bind (untracked_lift _) fun _ => untracked_lift _)
  | .regions => untracked_map _ (cloud.untracked_collect _ _ _ _)
  | .sizes => untracked_map _ (cloud.untracked_collect _ _ _ _)
  | .droplets _ => untracked_map _ (cloud.untracked_collect _ _ _ _)
  | .droplet _ => untracked_map _ (cloud.untracked_fetch _ _ _)
  | .floatingIps => untracked_map _ (cloud.untracked_collect _ _ _ _)
  | .floatingIp _ => untracked_map _ (cloud.untracked_fetch _ _ _)
  | .floatingIpAction ip body wait => untracked_map _ (cloud.untracked_floatingIpAction ip body wait)
  | .assignFloatingIp ip _ wait => untracked_map _ (cloud.untracked_floatingIpAction ip _ wait)
  | .unassignFloatingIp ip wait => untracked_map _ (cloud.untracked_floatingIpAction ip _ wait)
  | .volumes _ => untracked_map _ (cloud.untracked_collect _ _ _ _)
  | .volume _ => untracked_map _ (cloud.untracked_fetch _ _ _)
  | .snapshots resourceType => by
    refine untracked_map _ ?_
    unfold Cloud.snapshots
    -- the resource type is checked before the walk
    dsimp only
    split
    · exact cloud.untracked_collect _ _ _ _
    · split
      · exact untracked_bind (untracked_throw _) fun _ => cloud.untracked_collect _ _ _ _
      · exact cloud.untracked_collect _ _ _ _
  | .snapshot _ => untracked_map _ (cloud.untracked_fetch _ _ _)
  | .domains => untracked_map _ (cloud.untracked_collect _ _ _ _)
  | .domain _ => untracked_map _ (cloud.untracked_fetch _ _ _)
  | .domainRecords _ => untracked_map _ (cloud.untracked_collect _ _ _ _)
  | .domainRecord _ _ => untracked_map _ (cloud.untracked_fetch _ _ _)
  | .updateDomainRecord _ _ _ => untracked_map _ (untracked_bind (cloud.untracked_put _ _) fun _ =>
    untracked_bind (untracked_lift _) fun _ => untracked_lift _)
  | .tags => untracked_map _ (cloud.untracked_collect _ _ _ _)
  | .tag _ => untracked_map _ (cloud.untracked_fetch _ _ _)
  | .tagResources _ _ => untracked_bind (untracked_bind (cloud.untracked_requestMethod _)
    fun endpoint => untracked_bind (untracked_lift _) fun _ =>
      untracked_bind (endpoint.untracked_post _ _) fun _ => untracked_pure ()) fun _ =>
        untracked_pure _
  | .untagResources _ _ => untracked_bind (untracked_bind (cloud.untracked_requestMethod _)
    fun endpoint => untracked_bind (untracked_lift _) fun _ =>
      untracked_bind (endpoint.untracked_delete _ _) fun _ => untracked_pure ()) fun _ =>
        untracked_pure _
  | .spacesBuckets region => untracked_map _ (cloud.untracked_spacesBuckets region)

end Query

namespace Mutation

/-- Runs a mutation on a cloud. -/
def run (cloud : Cloud) : Mutation → Api Value
  | .createKey name publicKey => Key.toValue <$> cloud.createKey name publicKey
  | .deleteKey address => nothing (cloud.deleteKey address)
  | .createDroplet name region size image sshKeys tags backups ipv6 userData wait =>
    Droplet.toValue <$>
      cloud.createDroplet name region size image sshKeys tags backups ipv6 userData wait
  | .deleteDroplet dropletId => nothing (cloud.deleteDroplet dropletId)
  | .createFloatingIp region dropletId =>
    FloatingIp.toValue <$> cloud.createFloatingIp region dropletId
  | .deleteFloatingIp ip => nothing (cloud.deleteFloatingIp ip)
  | .createVolume name region sizeGigabytes description snapshotId =>
    Volume.toValue <$> cloud.createVolume name region sizeGigabytes description snapshotId
  | .deleteVolume volumeId => nothing (cloud.deleteVolume volumeId)
  | .createSnapshot volumeId name => Snapshot.toValue <$> cloud.createSnapshot volumeId name
  | .deleteSnapshot snapshotId => nothing (cloud.deleteSnapshot snapshotId)
  | .createDomain name ipAddress => Domain.toValue <$> cloud.createDomain name ipAddress
  | .deleteDomain name => nothing (cloud.deleteDomain name)
  | .createDomainRecord domainName recordType name data fields =>
    DomainRecord.toValue <$> cloud.createDomainRecord domainName recordType name data fields
  | .deleteDomainRecord domainName recordId =>
    nothing (cloud.deleteDomainRecord domainName recordId)
  | .createTag name => Tag.toValue <$> cloud.createTag name
  | .deleteTag name => nothing (cloud.deleteTag name)

end Mutation

namespace ServiceCall

/-- Runs a service call on a cloud. -/
def run (cloud : Cloud) : ServiceCall → Api Value
  | .query call => call.run cloud
  | .mutation call => call.run cloud

/-- Runs calls one after another, failed or not: every call's outcome, and the last world. -/
def runAll (cloud : Cloud) : List ServiceCall → World → List (Except Fault Value) × World
  | [], world => ([], world)
  | call :: rest, world =>
    let (outcome, after) := (call.run cloud).run world
    let (outcomes, final) := runAll cloud rest after
    (outcome :: outcomes, final)

@[simp] theorem runAll_nil (cloud : Cloud) (world : World) :
    runAll cloud [] world = ([], world) := rfl

@[simp] theorem runAll_cons_world (cloud : Cloud) (call : ServiceCall) (rest : List ServiceCall)
    (world : World) :
    (runAll cloud (call :: rest) world).2 = (runAll cloud rest ((call.run cloud).run world).2).2 :=
  rfl

end ServiceCall

end CloudClient

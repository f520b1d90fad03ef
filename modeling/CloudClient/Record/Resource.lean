import CloudClient.Value.Basic

namespace CloudClient

/-- The account that owns the token. -/
structure Account where
  email : Value := ""
  uuid : Value := ""
  status : Value := ""
  statusMessage : Value := ""
  emailVerified : Bool := false
  dropletLimit : Int := 0
  floatingIpLimit : Int := 0

/-- A public key registered for logging in to droplets. -/
structure Key where
  id : Int := 0
  name : Value := ""
  fingerprint : Value := ""
  publicKey : Value := ""

/-- A data centre region. -/
structure Region where
  slug : Value := ""
  name : Value := ""
  sizes : List Value := []
  available : Bool := false
  features : List Value := []

/-- A droplet size: its resources and prices. -/
structure Size where
  slug : Value := ""
  memory : Int := 0
  vcpus : Int := 0
  disk : Int := 0
  priceMonthly : Float := 0
  priceHourly : Float := 0
  regions : List Value := []
  available : Bool := false
  transfer : Float := 0

/-- A virtual machine. -/
structure Droplet where
  id : Int := 0
  name : Value := ""
  memory : Int := 0
  vcpus : Int := 0
  disk : Int := 0
  status : Value := ""
  locked : Bool := false
  sizeSlug : Value := ""
  region : Option Region := Option.none
  tags : List Value := []
  createdAt : Value := ""
  networks : List (Value × Value) := []

/-- A long-running operation on a resource. -/
structure Action where
  id : Int := 0
  status : Value := ""
  type : Value := ""
  startedAt : Value := .none
  completedAt : Value := .none
  resourceId : Int := 0
  resourceType : Value := ""
  regionSlug : Value := ""

/-- A bucket of object storage. -/
structure SpacesBucket where
  name : Value
  region : Value
  createdAt : Value := .none

/-- A public address that can move between droplets. -/
structure FloatingIp where
  ip : Value := ""
  region : Option Region := Option.none
  droplet : Option Droplet := Option.none

/-- A block storage volume. -/
structure Volume where
  id : Value := ""
  name : Value := ""
  region : Option Region := Option.none
  sizeGigabytes : Int := 0
  description : Value := ""
  dropletIds : List Value := []
  createdAt : Value := ""

/-- A saved image of a droplet or a volume. -/
structure Snapshot where
  id : String := ""
  name : Value := ""
  resourceId : String := ""
  resourceType : Value := ""
  regions : List Value := []
  minDiskSize : Int := 0
  sizeGigabytes : Float := 0
  createdAt : Value := ""

/-- A domain name served by the DNS service. -/
structure Domain where
  name : Value := ""
  ttl : Int := 0
  zoneFile : Value := ""

/-- A DNS record of a domain. -/
structure DomainRecord where
  id : Int := 0
  type : Value := ""
  name : Value := ""
  data : Value := ""
  priority : Value := .none
  port : Value := .none
  ttl : Int := 0
  weight : Value := .none

/-- A label attached to resources. -/
structure Tag where
  name : Value := ""
  resourceCount : Int := 0

/-- A record that may be absent: the record's view, or nothing. -/
def Value.ofOption {α : Type} (view : α → Value) : Option α → Value
  | some item => view item
  | Option.none => .none

/-- The view of an account. -/
def Account.toValue (a : Account) : Value :=
  .record .account [a.email, a.uuid, a.status, a.statusMessage, .bool a.emailVerified,
    .int a.dropletLimit, .int a.floatingIpLimit]

/-- The view of a key. -/
def Key.toValue (k : Key) : Value :=
  .record .key [.int k.id, k.name, k.fingerprint, k.publicKey]

/-- The view of a region. -/
def Region.toValue (r : Region) : Value :=
  .record .region [r.slug, r.name, .list r.sizes, .bool r.available, .list r.features]

/-- The view of a size. -/
def Size.toValue (s : Size) : Value :=
  .record .size [s.slug, .int s.memory, .int s.vcpus, .int s.disk, .float s.priceMonthly,
    .float s.priceHourly, .list s.regions, .bool s.available, .float s.transfer]

/-- The view of a droplet. -/
def Droplet.toValue (d : Droplet) : Value :=
  .record .droplet [.int d.id, d.name, .int d.memory, .int d.vcpus, .int d.disk, d.status,
    .bool d.locked, d.sizeSlug, Value.ofOption Region.toValue d.region, .list d.tags,
    d.createdAt, .dict d.networks]

/-- The view of an action. -/
def Action.toValue (a : Action) : Value :=
  .record .action [.int a.id, a.status, a.type, a.startedAt, a.completedAt, .int a.resourceId,
    a.resourceType, a.regionSlug]

/-- The view of a bucket. -/
def SpacesBucket.toValue (b : SpacesBucket) : Value :=
  .record .spacesBucket [b.name, b.region, b.createdAt]

/-- The view of a floating IP. -/
def FloatingIp.toValue (f : FloatingIp) : Value :=
  .record .floatingIp [f.ip, Value.ofOption Region.toValue f.region,
    Value.ofOption Droplet.toValue f.droplet]

/-- The view of a volume. -/
def Volume.toValue (v : Volume) : Value :=
  .record .volume [v.id, v.name, Value.ofOption Region.toValue v.region, .int v.sizeGigabytes,
    v.description, .list v.dropletIds, v.createdAt]

/-- The view of a snapshot. -/
def Snapshot.toValue (s : Snapshot) : Value :=
  .record .snapshot [.str s.id, s.name, .str s.resourceId, s.resourceType, .list s.regions,
    .int s.minDiskSize, .float s.sizeGigabytes, s.createdAt]

/-- The view of a domain. -/
def Domain.toValue (d : Domain) : Value :=
  .record .domain [d.name, .int d.ttl, d.zoneFile]

/-- The view of a domain record. -/
def DomainRecord.toValue (r : DomainRecord) : Value :=
  .record .domainRecord [.int r.id, r.type, r.name, r.data, r.priority, r.port, .int r.ttl,
    r.weight]

/-- The view of a tag. -/
def Tag.toValue (t : Tag) : Value :=
  .record .tag [t.name, .int t.resourceCount]

end CloudClient

import CloudClient.Record.Resource
import CloudClient.Value.Coerce

namespace CloudClient

namespace Payload

/-- A copied field: the value under the key, or empty text. -/
def text (data : Value) (key : String) : Except Fault Value := data.get (.str key) (.str "")

/-- A copied field that is nothing when missing. -/
def optional (data : Value) (key : String) : Except Fault Value := data.get (.str key) .none

/-- A counted field: `int(value or 0)`. -/
def count (data : Value) (key : String) : Except Fault Int := do
  ((← optional data key).orElse (.int 0)).toInt

/-- A priced field: `float(value or 0.0)`. -/
def price (data : Value) (key : String) : Except Fault Float := do
  ((← optional data key).orElse (.float 0)).toFloat

/-- A flag: the truth of the value, false when missing. -/
def flag (data : Value) (key : String) : Except Fault Bool := do
  pure (← data.get (.str key) (.bool false)).truthy

/-- A list field: `list(value or [])`. -/
def items (data : Value) (key : String) : Except Fault (List Value) := do
  ((← optional data key).orElse (.list [])).members

/-- A mapping field: `dict(value or {})`. -/
def entries (data : Value) (key : String) : Except Fault (List (Value × Value)) := do
  ((← optional data key).orElse (.dict [])).toEntries

/-- A nested record, decoded when the value is true. -/
def nested {α : Type} (decode : Value → Except Fault α) (value : Value) :
    Except Fault (Option α) :=
  if value.truthy then some <$> decode value else pure Option.none

end Payload

open Payload

/-- Decodes an account. -/
def Account.decode (data : Value) : Except Fault Account := do
  let email ← text data "email"
  let uuid ← text data "uuid"
  let status ← text data "status"
  let statusMessage ← text data "status_message"
  let emailVerified ← flag data "email_verified"
  let dropletLimit ← count data "droplet_limit"
  let floatingIpLimit ← count data "floating_ip_limit"
  pure { email, uuid, status, statusMessage, emailVerified, dropletLimit, floatingIpLimit }

/-- Decodes a key. -/
def Key.decode (data : Value) : Except Fault Key := do
  let id ← count data "id"
  let name ← text data "name"
  let fingerprint ← text data "fingerprint"
  let publicKey ← text data "public_key"
  pure { id, name, fingerprint, publicKey }

/-- Decodes a region. -/
def Region.decode (data : Value) : Except Fault Region := do
  let slug ← text data "slug"
  let name ← text data "name"
  let sizes ← items data "sizes"
  let available ← flag data "available"
  let features ← items data "features"
  pure { slug, name, sizes, available, features }

/-- Decodes a size. -/
def Size.decode (data : Value) : Except Fault Size := do
  let slug ← text data "slug"
  let memory ← count data "memory"
  let vcpus ← count data "vcpus"
  let disk ← count data "disk"
  let priceMonthly ← price data "price_monthly"
  let priceHourly ← price data "price_hourly"
  let regions ← items data "regions"
  let available ← flag data "available"
  let transfer ← price data "transfer"
  pure { slug, memory, vcpus, disk, priceMonthly, priceHourly, regions, available, transfer }

/-- Decodes a droplet; its region is read before any other field. -/
def Droplet.decode (data : Value) : Except Fault Droplet := do
  let regionValue ← optional data "region"
  let id ← count data "id"
  let name ← text data "name"
  let memory ← count data "memory"
  let vcpus ← count data "vcpus"
  let disk ← count data "disk"
  let status ← text data "status"
  let locked ← flag data "locked"
  let sizeSlug ← text data "size_slug"
  let region ← nested Region.decode regionValue
  let tags ← items data "tags"
  let createdAt ← text data "created_at"
  let networks ← entries data "networks"
  pure ⟨id, name, memory, vcpus, disk, status, locked, sizeSlug, region, tags, createdAt,
    networks⟩

/-- Decodes an action. -/
def Action.decode (data : Value) : Except Fault Action := do
  let id ← count data "id"
  let status ← text data "status"
  let type ← text data "type"
  let startedAt ← optional data "started_at"
  let completedAt ← optional data "completed_at"
  let resourceId ← count data "resource_id"
  let resourceType ← text data "resource_type"
  let regionSlug ← text data "region_slug"
  pure { id, status, type, startedAt, completedAt, resourceId, resourceType, regionSlug }

/-- Decodes a floating IP; its region and droplet are read before its address. -/
def FloatingIp.decode (data : Value) : Except Fault FloatingIp := do
  let regionValue ← optional data "region"
  let dropletValue ← optional data "droplet"
  let ip ← text data "ip"
  let region ← nested Region.decode regionValue
  let droplet ← nested Droplet.decode dropletValue
  pure { ip, region, droplet }

/-- Decodes a volume; its region is read before any other field. -/
def Volume.decode (data : Value) : Except Fault Volume := do
  let regionValue ← optional data "region"
  let id ← text data "id"
  let name ← text data "name"
  let region ← nested Region.decode regionValue
  let sizeGigabytes ← count data "size_gigabytes"
  let description ← text data "description"
  let dropletIds ← items data "droplet_ids"
  let createdAt ← text data "created_at"
  pure { id, name, region, sizeGigabytes, description, dropletIds, createdAt }

/-- Decodes a snapshot; its identifiers are kept as their plain text. -/
def Snapshot.decode (data : Value) : Except Fault Snapshot := do
  let id := (← text data "id").plain
  let name ← text data "name"
  let resourceId := (← text data "resource_id").plain
  let resourceType ← text data "resource_type"
  let regions ← items data "regions"
  let minDiskSize ← count data "min_disk_size"
  let sizeGigabytes ← price data "size_gigabytes"
  let createdAt ← text data "created_at"
  pure { id, name, resourceId, resourceType, regions, minDiskSize, sizeGigabytes, createdAt }

/-- Decodes a domain; a false zone file reads as empty text. -/
def Domain.decode (data : Value) : Except Fault Domain := do
  let name ← text data "name"
  let ttl ← count data "ttl"
  let zoneFile := (← optional data "zone_file").orElse (.str "")
  pure { name, ttl, zoneFile }

/-- Decodes a domain record. -/
def DomainRecord.decode (data : Value) : Except Fault DomainRecord := do
  let id ← count data "id"
  let type ← text data "type"
  let name ← text data "name"
  let recordData ← text data "data"
  let priority ← optional data "priority"
  let port ← optional data "port"
  let ttl ← count data "ttl"
  let weight ← optional data "weight"
  pure { id, type, name, data := recordData, priority, port, ttl, weight }

/-- Decodes a tag; its count is read from the mapping under `resources`, after its name. -/
def Tag.decode (data : Value) : Except Fault Tag := do
  let resources := (← optional data "resources").orElse (.dict [])
  let name ← text data "name"
  let resourceCount ← count resources "count"
  pure { name, resourceCount }

/-- Decodes a payload as a record of the given kind and gives its view; buckets have no payload. -/
def RecordKind.decode (kind : RecordKind) (data : Value) : Option (Except Fault Value) :=
  match kind with
  | .account => some (Account.toValue <$> Account.decode data)
  | .key => some (Key.toValue <$> Key.decode data)
  | .region => some (Region.toValue <$> Region.decode data)
  | .size => some (Size.toValue <$> Size.decode data)
  | .droplet => some (Droplet.toValue <$> Droplet.decode data)
  | .action => some (Action.toValue <$> Action.decode data)
  | .spacesBucket => Option.none
  | .floatingIp => some (FloatingIp.toValue <$> FloatingIp.decode data)
  | .volume => some (Volume.toValue <$> Volume.decode data)
  | .snapshot => some (Snapshot.toValue <$> Snapshot.decode data)
  | .domain => some (Domain.toValue <$> Domain.decode data)
  | .domainRecord => some (DomainRecord.toValue <$> DomainRecord.decode data)
  | .tag => some (Tag.toValue <$> Tag.decode data)

end CloudClient

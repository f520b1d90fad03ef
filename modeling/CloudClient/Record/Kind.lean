namespace CloudClient

/-- The kinds of resource record. -/
inductive RecordKind where
  | account
  | key
  | region
  | size
  | droplet
  | action
  | spacesBucket
  | floatingIp
  | volume
  | snapshot
  | domain
  | domainRecord
  | tag
  deriving DecidableEq, Repr

namespace RecordKind

/-- Every kind, in the order of the list above. -/
def all : List RecordKind :=
  [.account, .key, .region, .size, .droplet, .action, .spacesBucket, .floatingIp, .volume,
    .snapshot, .domain, .domainRecord, .tag]

/-- The name of a kind, as the payload language spells the type. -/
def name : RecordKind → String
  | .account => "Account"
  | .key => "Key"
  | .region => "Region"
  | .size => "Size"
  | .droplet => "Droplet"
  | .action => "Action"
  | .spacesBucket => "SpacesBucket"
  | .floatingIp => "FloatingIP"
  | .volume => "Volume"
  | .snapshot => "Snapshot"
  | .domain => "Domain"
  | .domainRecord => "DomainRecord"
  | .tag => "Tag"

/-- The kind of a given name. -/
def ofName? (text : String) : Option RecordKind := all.find? (·.name == text)

/-- The field names of a kind, in declaration order. -/
def fieldNames : RecordKind → List String
  | .account =>
    ["email", "uuid", "status", "status_message", "email_verified", "droplet_limit",
      "floating_ip_limit"]
  | .key => ["id", "name", "fingerprint", "public_key"]
  | .region => ["slug", "name", "sizes", "available", "features"]
  | .size =>
    ["slug", "memory", "vcpus", "disk", "price_monthly", "price_hourly", "regions", "available",
      "transfer"]
  | .droplet =>
    ["id", "name", "memory", "vcpus", "disk", "status", "locked", "size_slug", "region", "tags",
      "created_at", "networks"]
  | .action =>
    ["id", "status", "type", "started_at", "completed_at", "resource_id", "resource_type",
      "region_slug"]
  | .spacesBucket => ["name", "region", "created_at"]
  | .floatingIp => ["ip", "region", "droplet"]
  | .volume =>
    ["id", "name", "region", "size_gigabytes", "description", "droplet_ids", "created_at"]
  | .snapshot =>
    ["id", "name", "resource_id", "resource_type", "regions", "min_disk_size", "size_gigabytes",
      "created_at"]
  | .domain => ["name", "ttl", "zone_file"]
  | .domainRecord => ["id", "type", "name", "data", "priority", "port", "ttl", "weight"]
  | .tag => ["name", "resource_count"]

theorem ofName?_name (kind : RecordKind) : ofName? kind.name = some kind := by
  cases kind <;> rfl

end RecordKind

end CloudClient

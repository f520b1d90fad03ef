import CloudClient.Service.Basic

namespace CloudClient

namespace Cloud

/-- Every volume, or those of a region when the region is true. -/
def volumes (cloud : Cloud) (region : Value := .none) : Api (List Volume) :=
  let params := if region.truthy then request [("region", region)] else .none
  cloud.collect "/volumes" "volumes" Volume.decode params

/-- One volume. -/
def volume (cloud : Cloud) (volumeId : Value) : Api Volume :=
  cloud.fetch (path [.str "/volumes/", volumeId]) "volume" Volume.decode

/-- Creates a volume; the snapshot to restore from is sent when it is true. -/
def createVolume (cloud : Cloud) (name region sizeGigabytes description snapshotId : Value) :
    Api Volume := do
  let base := [("name", name), ("region", region), ("size_gigabytes", sizeGigabytes),
    ("description", description)]
  let members := if snapshotId.truthy then base ++ [("snapshot_id", snapshotId)] else base
  let reply ← cloud.post (.str "/volumes") (request members)
  let created ← Api.lift (Volume.decode (← member reply "volume"))
  cloud.track "Volume" created.id
  pure created

/-- Deletes a volume. -/
def deleteVolume (cloud : Cloud) (volumeId : Value) : Api Unit := do
  let _ ← cloud.delete (path [.str "/volumes/", volumeId])
  cloud.untrack "Volume" volumeId

/-- The resource types that snapshots are listed by. -/
def snapshotResourceTypes : List Value := [.str "droplet", .str "volume"]

/-- Every snapshot, or those of a resource type. -/
def snapshots (cloud : Cloud) (resourceType : Value := .none) : Api (List Snapshot) := do
  match resourceType with
  | .none => pure ()
  | given =>
    if !snapshotResourceTypes.any (·.equals given) then throw (.snapshotResourceType given)
  let params := if resourceType.truthy then request [("resource_type", resourceType)] else .none
  cloud.collect "/snapshots" "snapshots" Snapshot.decode params

/-- One snapshot. -/
def snapshot (cloud : Cloud) (snapshotId : Value) : Api Snapshot :=
  cloud.fetch (path [.str "/snapshots/", snapshotId]) "snapshot" Snapshot.decode

/-- Snapshots a volume. -/
def createSnapshot (cloud : Cloud) (volumeId name : Value) : Api Snapshot := do
  let reply ← cloud.post (path [.str "/volumes/", volumeId, .str "/snapshots"])
    (request [("name", name)])
  let created ← Api.lift (Snapshot.decode (← member reply "snapshot"))
  cloud.track "Snapshot" (.str created.id)
  pure created

/-- Deletes a snapshot. -/
def deleteSnapshot (cloud : Cloud) (snapshotId : Value) : Api Unit := do
  let _ ← cloud.delete (path [.str "/snapshots/", snapshotId])
  cloud.untrack "Snapshot" (.str snapshotId.plain)

end Cloud

end CloudClient

import CloudClient.Service.Basic
import CloudClient.Text.Case

namespace CloudClient

namespace Cloud

/-- The reference to one resource. -/
def resourceRef (resource : Value) : Except Fault Value := do
  let (type, id) ← match resource with
    | .tuple items => Value.unpackPair items
    | other => do pure (Value.str (Text.lowerAscii other.shortTypeName), ← other.attr "id")
  pure (request [("resource_type", type), ("resource_id", .str id.plain)])

/-- The references to resources, in order. -/
def resourceRefs (resources : Value) : Except Fault Value := do
  .list <$> (← resources.members).mapM resourceRef

/-- Every tag. -/
def tags (cloud : Cloud) : Api (List Tag) :=
  cloud.collect "/tags" "tags" Tag.decode

/-- One tag. -/
def tag (cloud : Cloud) (name : Value) : Api Tag :=
  cloud.fetch (path [.str "/tags/", name]) "tag" Tag.decode

/-- Creates a tag. -/
def createTag (cloud : Cloud) (name : Value) : Api Tag := do
  let reply ← cloud.post (.str "/tags") (request [("name", name)])
  let created ← Api.lift (Tag.decode (← member reply "tag"))
  cloud.track "Tag" created.name
  pure created

/-- Deletes a tag. -/
def deleteTag (cloud : Cloud) (name : Value) : Api Unit := do
  let _ ← cloud.delete (path [.str "/tags/", name])
  cloud.untrack "Tag" name

/-- Attaches a tag to resources. -/
def tagResources (cloud : Cloud) (name resources : Value) : Api Unit := do
  let endpoint ← cloud.requestMethod "post"
  let refs ← Api.lift (resourceRefs resources)
  let _ ← endpoint.post (path [.str "/tags/", name, .str "/resources"])
    (request [("resources", refs)])

/-- Detaches a tag from resources. -/
def untagResources (cloud : Cloud) (name resources : Value) : Api Unit := do
  let endpoint ← cloud.requestMethod "delete"
  let refs ← Api.lift (resourceRefs resources)
  let _ ← endpoint.delete (path [.str "/tags/", name, .str "/resources"])
    (request [("resources", refs)])

end Cloud

end CloudClient

import CloudClient.Service.Basic

namespace CloudClient

namespace Cloud

/-- The reference to an SSH key sent when creating a droplet: a record's `id`, or the value. -/
def sshKeyRef (key : Value) : Value := (key.attr? "id").getD key

/-- Every droplet, or those with a tag when the tag is true. -/
def droplets (cloud : Cloud) (tag : Value := .none) : Api (List Droplet) :=
  let params := if tag.truthy then request [("tag_name", tag)] else .none
  cloud.collect "/droplets" "droplets" Droplet.decode params

/-- One droplet. -/
def droplet (cloud : Cloud) (dropletId : Value) : Api Droplet :=
  cloud.fetch (path [.str "/droplets/", dropletId]) "droplet" Droplet.decode

/-- The body of a droplet creation. -/
def dropletRequest (name region size image sshKeys tags backups ipv6 userData : Value) :
    Except Fault Value := do
  let base := [("name", name), ("region", region), ("size", size), ("image", image),
    ("backups", backups), ("ipv6", ipv6)]
  let withKeys ← if sshKeys.truthy then do
      let refs := (← sshKeys.members).map sshKeyRef
      pure (base ++ [("ssh_keys", Value.list refs)])
    else pure base
  let withTags ← if tags.truthy then do pure (withKeys ++ [("tags", ← tags.toList)])
    else pure withKeys
  let withData := if userData.truthy then withTags ++ [("user_data", userData)] else withTags
  pure (request withData)

/-- Creates a droplet, and when asked to, waits for its actions and reads it with `refresh`. -/
def createDropletThen {α : Type} (cloud : Cloud)
    (name region size image sshKeys tags backups ipv6 userData wait : Value)
    (done : Droplet → α) (refresh : Value → Api α) : Api α := do
  let body ← Api.lift (dropletRequest name region size image sshKeys tags backups ipv6 userData)
  let reply := (← cloud.post (.str "/droplets") body).orElse (.dict [])
  let created ← Api.lift (Droplet.decode (← member reply "droplet"))
  cloud.track "Droplet" (.int created.id)
  if !wait.truthy then return done created
  let links := (← Api.lift (reply.get (.str "links") .none)).orElse (.dict [])
  let actions ← Api.lift (links.get (.str "actions") .none)
  let _ ← Waiter.waitForActions (← cloud.endpoint) actions []
  refresh (.int created.id)

/-- Creates a droplet, and when asked to wait, waits for its actions and reads it again. -/
def createDroplet (cloud : Cloud)
    (name region size image sshKeys tags backups ipv6 userData wait : Value) : Api Droplet :=
  cloud.createDropletThen name region size image sshKeys tags backups ipv6 userData wait id
    cloud.droplet

/-- Deletes a droplet. -/
def deleteDroplet (cloud : Cloud) (dropletId : Value) : Api Unit := do
  let _ ← cloud.delete (path [.str "/droplets/", dropletId])
  cloud.untrack "Droplet" dropletId

end Cloud

end CloudClient

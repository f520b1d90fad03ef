import CloudClient.Service.Basic

namespace CloudClient

namespace Cloud

/-- Every floating IP. -/
def floatingIps (cloud : Cloud) : Api (List FloatingIp) :=
  cloud.collect "/floating_ips" "floating_ips" FloatingIp.decode

/-- One floating IP. -/
def floatingIp (cloud : Cloud) (ip : Value) : Api FloatingIp :=
  cloud.fetch (path [.str "/floating_ips/", ip]) "floating_ip" FloatingIp.decode

/-- Whether a value is nothing. -/
def isNothing : Value → Bool
  | .none => true
  | _ => false

/-- Reserves a floating IP in a region or on a droplet. -/
def createFloatingIp (cloud : Cloud) (region dropletId : Value) : Api FloatingIp := do
  if isNothing region == isNothing dropletId then throw .floatingIpTarget
  let body := if isNothing dropletId then request [("region", region)]
    else request [("droplet_id", dropletId)]
  let reply ← cloud.post (.str "/floating_ips") body
  let created ← Api.lift (FloatingIp.decode (← member reply "floating_ip"))
  cloud.track "FloatingIP" created.ip
  pure created

/-- Releases a floating IP. -/
def deleteFloatingIp (cloud : Cloud) (ip : Value) : Api Unit := do
  let _ ← cloud.delete (path [.str "/floating_ips/", ip])
  cloud.untrack "FloatingIP" ip

/-- Posts an action on a floating IP and waits for it when asked to and when it is named. -/
def floatingIpAction (cloud : Cloud) (ip body wait : Value) : Api Action := do
  let address := path [.str "/floating_ips/", ip, .str "/actions"]
  let reply := (← cloud.post address body).orElse (.dict [])
  let action := (← Api.lift (reply.get (.str "action") .none)).orElse (.dict [])
  let actionId ← Api.lift (action.get (.str "id") .none)
  if !wait.truthy || isNothing actionId then Api.lift (Action.decode action)
  else
    Waiter.waitForAction (← cloud.endpoint) actionId (.float 4) (.float 30) (.float 1.5)
      (.float 600)

/-- The body of an assignment to a droplet. -/
def assignRequest (dropletId : Value) : Value :=
  request [("type", .str "assign"), ("droplet_id", dropletId)]

/-- The body of an unassignment. -/
def unassignRequest : Value := request [("type", .str "unassign")]

/-- Assigns a floating IP to a droplet. -/
def assignFloatingIp (cloud : Cloud) (ip dropletId wait : Value) : Api Action :=
  cloud.floatingIpAction ip (assignRequest dropletId) wait

/-- Unassigns a floating IP. -/
def unassignFloatingIp (cloud : Cloud) (ip wait : Value) : Api Action :=
  cloud.floatingIpAction ip unassignRequest wait

end Cloud

end CloudClient

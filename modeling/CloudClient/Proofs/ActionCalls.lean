import CloudClient.Proofs.Observer
import CloudClient.Proofs.Pages
import CloudClient.Proofs.Validation

namespace CloudClient

/-- The cloud of a session, with a tracker or without. -/
def sessionCloud (client : Client) (tracking : Bool) : Cloud :=
  if tracking then trackedCloud client else untrackedCloud client

namespace World

/-- The world after a created resource is told to the tracker, when the session has one. -/
def trackedIf (world : World) (tracking : Bool) (kind : String) (id : Value) : World :=
  if tracking then { world with tracker := { alive := Ledger.add world.tracker.alive kind (.ok id) } }
  else world

end World

namespace Cloud

open Api

/-- A member of a request that is sent only when its value is true. -/
def whenTrue (key : String) (value sent : Value) : List (String × Value) :=
  if value.truthy then [(key, sent)] else []

/-- The items of a collection sent only when true: none when false, else its members. -/
def itemsWhenTrue (value : Value) : Except Fault (List Value) :=
  if value.truthy then value.members else .ok []

/-- The members of a droplet's creation request: the six always sent, then those that are true. -/
def dropletMembers (name region size image sshKeys tags backups ipv6 userData : Value)
    (keyItems tagItems : List Value) : List (String × Value) :=
  [("name", name), ("region", region), ("size", size), ("image", image), ("backups", backups),
    ("ipv6", ipv6)] ++
  whenTrue "ssh_keys" sshKeys (.list (keyItems.map sshKeyRef)) ++
  whenTrue "tags" tags (.list tagItems) ++ whenTrue "user_data" userData userData

/-- The droplet the answer to its creation holds, with the answer's body. -/
def createdDroplet (outcome : Except Fault Value) : Except Fault (Value × Droplet) := do
  let reply := (← outcome).orElse (.dict [])
  let droplet ← Droplet.decode (← reply.get (.str "droplet") (.dict []))
  pure (reply, droplet)

/-- The actions the answer to a creation links to; false links read as an empty mapping. -/
def linkedActions (reply : Value) : Except Fault Value := do
  ((← reply.get (.str "links") .none).orElse (.dict [])).get (.str "actions") .none

/-- The path a droplet is read from. -/
def dropletPath (id : Int) : String := "/droplets/" ++ (Value.int id).plain

/-- A droplet's creation after tracking: with waiting, each linked action's wait, then one read. -/
def awaitCreated (client : Client) (wait reply : Value) (droplet : Droplet) (world : World) :
    Except Fault Droplet × World :=
  if wait.truthy then
    match linkedActions reply with
    | .error fault => (.error fault, world)
    | .ok actions =>
      match (Waiter.waitForActions { client } actions []).run world with
      | (.error fault, waited) => (.error fault, waited)
      | (.ok _, waited) =>
        (Client.recordOf (client.address (dropletPath droplet.id)) "droplet" Droplet.decode
            waited.nextReply,
          waited.record (client.exchangeOf (.str "GET") (dropletPath droplet.id) [("params", .none)]))
  else (.ok droplet, world)

/-- The run of a droplet's creation from its built body: one POST, tracking, then `awaitCreated`. -/
def creationRun (client : Client) (tracking : Bool) (built : Except Fault Value) (wait : Value)
    (world : World) : Except Fault Droplet × World :=
  match built with
  | .error fault => (.error fault, world)
  | .ok body =>
    let posted := world.record (client.exchangeOf (.str "POST") "/droplets" [("json", body)])
    match createdDroplet (Client.outcome (.str "POST") (client.address "/droplets")
        world.nextReply) with
    | .error fault => (.error fault, posted)
    | .ok (reply, droplet) =>
      awaitCreated client wait reply droplet (posted.trackedIf tracking "Droplet" (.int droplet.id))

/-- The action the answer to an action request holds, and its identifier. -/
def answeredAction (outcome : Except Fault Value) : Except Fault (Value × Value) := do
  let reply := (← outcome).orElse (.dict [])
  let action := (← reply.get (.str "action") .none).orElse (.dict [])
  .ok (action, ← action.get (.str "id") .none)

/-- The path a floating IP's actions are posted to. -/
def ipActionsPath (ip : Value) : String := "/floating_ips/" ++ ip.plain ++ "/actions"

/-- An action request on a floating IP: one POST, then a wait when asked and the action is named. -/
def actionRun (client : Client) (ip body wait : Value) (world : World) :
    Except Fault Action × World :=
  let posted := world.record
    (client.exchangeOf (.str "POST") (ipActionsPath ip) [("json", body.orElse (.dict []))])
  match answeredAction (Client.outcome (.str "POST") (client.address (ipActionsPath ip))
      world.nextReply) with
  | .error fault => (.error fault, posted)
  | .ok (action, actionId) =>
    if wait.truthy && !isNothing actionId then
      (Waiter.waitForAction { client } actionId (.float 4) (.float 30) (.float 1.5) (.float 600)).run
        posted
    else (Action.decode action, posted)

section Body

variable (name region size image sshKeys tags backups ipv6 userData : Value)

/-- The body of a droplet's creation: the request of its members, keys and tags when true. -/
theorem dropletRequest_eq :
    dropletRequest name region size image sshKeys tags backups ipv6 userData = (do
      let keyItems ← itemsWhenTrue sshKeys
      let tagItems ← itemsWhenTrue tags
      pure (request (dropletMembers name region size image sshKeys tags backups ipv6 userData
        keyItems tagItems))) := by
  unfold dropletRequest itemsWhenTrue dropletMembers whenTrue
  -- each optional member is decided by its own truthiness; the members of the keys and tags stay
  -- symbolic, bound on both sides in the same order
  cases sshKeys.truthy <;> cases tags.truthy <;> cases userData.truthy <;>
    simp only [Bool.false_eq_true, if_false, if_true, Value.toList, bind_map_left, pure_bind,
      List.nil_append, List.append_nil, List.cons_append, Except.ok_bind]

/-- A built body is a true mapping, so the client sends it as it is. -/
theorem dropletRequest_sent {body : Value}
    (built : dropletRequest name region size image sshKeys tags backups ipv6 userData = .ok body) :
    body.orElse (.dict []) = body := by
  rw [dropletRequest_eq] at built
  cases keys : itemsWhenTrue sshKeys <;> cases tagged : itemsWhenTrue tags <;>
    simp only [keys, tagged, Except.ok_bind, Except.error_bind, reduceCtorEq] at built
  cases built
  rfl

end Body

/-- A path of a fixed part and one identifier. -/
theorem path_pair (part : String) (id : Value) : path [.str part, id] = .str (part ++ id.plain) := by
  simp only [path, List.map, Value.plain_str, String.join, List.foldl, String.empty_append]

/-- A path of a fixed part, an identifier and a fixed part. -/
theorem path_triple (first : String) (id : Value) (last : String) :
    path [.str first, id, .str last] = .str (first ++ id.plain ++ last) := by
  simp only [path, List.map, Value.plain_str, String.join, List.foldl, String.empty_append]

section Through

variable {cloud : Cloud} (through : cloud.api = .ok (.handle .client))
include through

/-- A POST through the session's client: one exchange, and the outcome of the reply it takes. -/
theorem post_run (path : String) (body : Value) (world : World) :
    (cloud.post (.str path) body).run world =
      (Client.outcome (.str "POST") (cloud.client.address path) world.nextReply,
        world.record (cloud.client.exchangeOf (.str "POST") path [("json", body.orElse (.dict []))])) := by
  rw [post, endpoint_through cloud through, pure_bind, Endpoint.post_client, Client.post,
    Client.request_run, Client.checkOptions_json]

/-- A DELETE with a body through the session's client: one exchange, and its reply's outcome. -/
theorem delete_body_run (path : String) (entries : List (Value × Value)) (world : World) :
    (cloud.delete (.str path) (.dict entries)).run world =
      (Client.outcome (.str "DELETE") (cloud.client.address path) world.nextReply,
        world.record (cloud.client.exchangeOf (.str "DELETE") path [("json", .dict entries)])) := by
  rw [delete, endpoint_through cloud through, pure_bind]
  exact Client.request_run cloud.client (.str "DELETE") path _ world

/-- Reading a droplet through the session's client: one GET, and the droplet its answer holds. -/
theorem droplet_run (id : Int) (world : World) :
    (cloud.droplet (.int id)).run world =
      (Client.recordOf (cloud.client.address (dropletPath id)) "droplet" Droplet.decode
          world.nextReply,
        world.record (cloud.client.exchangeOf (.str "GET") (dropletPath id) [("params", .none)])) := by
  rw [droplet, path_pair]
  exact Client.fetch_run cloud through _ _ _ world

/-- What follows the tracking of a created droplet runs as `awaitCreated` says. -/
theorem awaitCreated_run (wait reply : Value) (droplet : Droplet) (world : World) :
    (if (!wait.truthy) = true then pure droplet else do
        let links := (← Api.lift (reply.get (.str "links") .none)).orElse (.dict [])
        let actions ← Api.lift (links.get (.str "actions") .none)
        let _ ← Waiter.waitForActions (← cloud.endpoint) actions []
        cloud.droplet (.int droplet.id)).run world =
      awaitCreated cloud.client wait reply droplet world := by
  unfold awaitCreated linkedActions
  cases waits : wait.truthy with
  | false => rfl
  | true =>
    simp only [Bool.not_true, Bool.false_eq_true, if_false, if_true, endpoint_through cloud through,
      pure_bind, Api.run_bind, Api.run_lift]
    cases reply.get (.str "links") .none with
    | error fault => rfl
    | ok links =>
      simp only [Except.ok_bind]
      cases (links.orElse (.dict [])).get (.str "actions") .none with
      | error fault => rfl
      | ok actions =>
        dsimp only
        rcases (Waiter.waitForActions { client := cloud.client } actions []).run world with
          ⟨_ | _, waited⟩
        · rfl
        · exact droplet_run through droplet.id waited

end Through

/-- The session's cloud sends its requests through the client. -/
theorem sessionCloud_api (client : Client) (tracking : Bool) :
    (sessionCloud client tracking).api = .ok (.handle .client) := by
  cases tracking <;> rfl

@[simp] theorem sessionCloud_client (client : Client) (tracking : Bool) :
    (sessionCloud client tracking).client = client := by
  cases tracking <;> rfl

/-- Telling the session of a created droplet: the ledger adds it when there is a tracker. -/
theorem track_droplet_run (client : Client) (tracking : Bool) (id : Int) (world : World) :
    ((sessionCloud client tracking).track "Droplet" (.int id)).run world =
      (.ok (), world.trackedIf tracking "Droplet" (.int id)) := by
  cases tracking with
  | true => exact track_keyable client world "Droplet" rfl
  | false => rfl

section Session

variable (client : Client) (tracking : Bool)

/-- Creating a droplet, request by request, as `creationRun` says of its body. -/
theorem createDroplet_run (name region size image sshKeys tags backups ipv6 userData wait : Value)
    (world : World) :
    ((sessionCloud client tracking).createDroplet name region size image sshKeys tags backups ipv6
        userData wait).run world =
      creationRun client tracking
        (dropletRequest name region size image sshKeys tags backups ipv6 userData) wait world := by
  have through := sessionCloud_api client tracking
  rw [createDroplet, createDropletThen, Api.run_bind, Api.run_lift]
  cases built : dropletRequest name region size image sshKeys tags backups ipv6 userData with
  | error fault => rfl
  | ok body =>
    simp only [creationRun]
    rw [Api.run_bind, post_run through, sessionCloud_client,
      dropletRequest_sent _ _ _ _ _ _ _ _ _ built]
    cases Client.outcome (.str "POST") (client.address "/droplets") world.nextReply with
    | error fault => rfl
    | ok answer =>
      simp only [member_orElse]
      simp only [createdDroplet, member, Api.run_bind, Api.run_lift, Except.ok_bind]
      cases (answer.orElse (.dict [])).get (.str "droplet") (.dict []) with
      | error fault => rfl
      | ok data =>
        simp only [Except.ok_bind]
        cases Droplet.decode data with
        | error fault => rfl
        | ok droplet =>
          simp only [Except.ok_bind, track_droplet_run]
          have waited := awaitCreated_run through wait (answer.orElse (.dict [])) droplet
            ((world.record (client.exchangeOf (.str "POST") "/droplets" [("json", body)])).trackedIf
              tracking "Droplet" (.int droplet.id))
          rw [sessionCloud_client] at waited
          exact waited

/-- An action request on a floating IP, request by request, as `actionRun` says. -/
theorem floatingIpAction_run (ip body wait : Value) (world : World) :
    ((sessionCloud client tracking).floatingIpAction ip body wait).run world =
      actionRun client ip body wait world := by
  have through := sessionCloud_api client tracking
  unfold floatingIpAction actionRun answeredAction ipActionsPath
  rw [path_triple, Api.run_bind, post_run through, sessionCloud_client]
  cases Client.outcome (.str "POST") (client.address ("/floating_ips/" ++ ip.plain ++ "/actions"))
      world.nextReply with
  | error fault => rfl
  | ok answer =>
    simp only [Api.run_bind, Api.run_lift, Except.ok_bind]
    cases (answer.orElse (.dict [])).get (.str "action") .none with
    | error fault => rfl
    | ok action =>
      simp only [Except.ok_bind]
      cases ((action.orElse (.dict [])).get (.str "id") .none) with
      | error fault => rfl
      | ok actionId =>
        simp only [Except.ok_bind]
        cases wait.truthy <;> cases isNothing actionId <;>
          simp [endpoint_through _ through]

/-- Calls that start actions, request by request: a droplet's creation, tracked before any wait,
and the assignment and unassignment of a floating IP, each waiting only when asked. -/
theorem action_calls_run (world : World) :
    (∀ name region size image sshKeys tags backups ipv6 userData,
      dropletRequest name region size image sshKeys tags backups ipv6 userData = (do
        let keyItems ← itemsWhenTrue sshKeys
        let tagItems ← itemsWhenTrue tags
        pure (request (dropletMembers name region size image sshKeys tags backups ipv6 userData
          keyItems tagItems)))) ∧
    (∀ name region size image sshKeys tags backups ipv6 userData wait,
      ((sessionCloud client tracking).createDroplet name region size image sshKeys tags backups
          ipv6 userData wait).run world =
        creationRun client tracking
          (dropletRequest name region size image sshKeys tags backups ipv6 userData) wait world) ∧
    (∀ ip dropletId wait,
      ((sessionCloud client tracking).assignFloatingIp ip dropletId wait).run world =
        actionRun client ip (request [("type", .str "assign"), ("droplet_id", dropletId)]) wait
          world) ∧
    ∀ ip wait,
      ((sessionCloud client tracking).unassignFloatingIp ip wait).run world =
        actionRun client ip (request [("type", .str "unassign")]) wait world :=
  ⟨dropletRequest_eq, fun _ _ _ _ _ _ _ _ _ _ => createDroplet_run client tracking _ _ _ _ _ _ _ _ _ _ world,
    fun ip _ wait => floatingIpAction_run client tracking ip _ wait world,
    fun ip wait => floatingIpAction_run client tracking ip _ wait world⟩

/-- Keys that are true but cannot be iterated fail a droplet's creation before any request. -/
theorem creation_with_uniterable_keys_sends_nothing :
    ((sessionCloud { baseUrl := "https://api.digitalocean.com/v2", timeout := .int 30 } true).createDroplet
        (.str "n") (.str "nyc3") (.str "s") (.str "img") (.int 5) .none (.bool false) (.bool false)
        .none (.bool false)).run {} =
      (.error (.notIterable (.int 5)), {}) ∧
    (Fault.notIterable (.int 5)).className = "TypeError" := by
  refine ⟨?_, rfl⟩
  rw [createDroplet_run, dropletRequest_eq]
  rfl

end Session

end Cloud

end CloudClient

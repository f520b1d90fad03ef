import CloudClient.Proofs.Ledger
import CloudClient.Proofs.Pages

namespace CloudClient

namespace Api

variable {α β : Type}

/-- From any world, an operation sends at least `least` requests, every one to one address. -/
def SendsTo (address : String) (least : Nat) (operation : Api α) : Prop :=
  ∀ world, ∃ added, (operation.run world).2.sent = world.sent ++ added ∧ least ≤ added.length ∧
    ∀ request ∈ added, request.url = address

/-- An operation that raises a fault before doing anything, from whatever world it starts. -/
def Refuses (fault : Fault) (operation : Api α) : Prop :=
  ∀ world, operation.run world = (.error fault, world)

section SendsTo

variable {address : String}

theorem SendsTo.mono {operation : Api α} {least fewer : Nat} (sends : operation.SendsTo address least)
    (le : fewer ≤ least) : operation.SendsTo address fewer := fun world => by
  obtain ⟨added, sent, enough, toAddress⟩ := sends world
  exact ⟨added, sent, by omega, toAddress⟩

theorem sendsTo_of_keeps {operation : Api α}
    (keeps : ∀ world, (operation.run world).2.sent = world.sent) :
    operation.SendsTo address 0 :=
  fun world => ⟨[], by rw [keeps, List.append_nil], Nat.le_refl 0, by simp⟩

theorem sendsTo_pure (a : α) : (pure a : Api α).SendsTo address 0 :=
  sendsTo_of_keeps fun _ => rfl

theorem sendsTo_throw (fault : Fault) : (throw fault : Api α).SendsTo address 0 :=
  sendsTo_of_keeps fun _ => rfl

theorem sendsTo_lift (outcome : Except Fault α) : (lift outcome).SendsTo address 0 :=
  sendsTo_of_keeps fun world => by rw [run_lift]

/-- A sequence sends what its first part sent and then, if it returned, what the rest sent. -/
theorem sendsTo_bind {x : Api α} {f : α → Api β} {least : Nat} (first : x.SendsTo address least)
    (next : ∀ a, (f a).SendsTo address 0) : (x >>= f).SendsTo address least := by
  intro world
  obtain ⟨added, sent, enough, toAddress⟩ := first world
  rw [run_bind]
  rcases ran : x.run world with ⟨_ | a, after⟩
  case error fault =>
    rw [ran] at sent
    exact ⟨added, sent, enough, toAddress⟩
  case ok =>
    rw [ran] at sent
    obtain ⟨more, sent', -, toAddress'⟩ := next a after
    refine ⟨added ++ more, by rw [sent', sent, List.append_assoc], ?_, ?_⟩
    · rw [List.length_append]
      omega
    · intro request member
      rcases List.mem_append.1 member with early | late
      · exact toAddress request early
      · exact toAddress' request late

theorem sendsTo_map {x : Api α} {least : Nat} (f : α → β) (first : x.SendsTo address least) :
    (f <$> x).SendsTo address least := by
  rw [map_eq_pure_bind]
  exact sendsTo_bind first fun a => sendsTo_pure (f a)

theorem sendsTo_ite {condition : Prop} [Decidable condition] {yes no : Api α} {least : Nat}
    (ifYes : yes.SendsTo address least) (ifNo : no.SendsTo address least) :
    (if condition then yes else no).SendsTo address least := by
  split
  · exact ifYes
  · exact ifNo

theorem sendsTo_getThe_bind {f : World → Api α} {least : Nat}
    (next : ∀ world, (f world).SendsTo address least) : (getThe World >>= f).SendsTo address least :=
  fun world => by
    rw [run_bind]
    exact next world world

theorem sendsTo_track (kind id : Value) : (track kind id).SendsTo address 0 :=
  sendsTo_of_keeps fun world => by
    simp only [track, run_bind, run_get, run_lift]
    cases world.tracker.created kind id <;> rfl

theorem sendsTo_untrack (kind id : Value) : (untrack kind id).SendsTo address 0 :=
  sendsTo_of_keeps fun world => by
    simp only [untrack, run_bind, run_get, run_lift]
    cases world.tracker.deleted kind id <;> rfl

end SendsTo

end Api

open Api

namespace Client

variable (client : Client) (path : String)

/-- A request with a text path and accepted options sends one request, to its address. -/
theorem sendsTo_request (method : Value) {options : List (String × Value)}
    (accepted : checkOptions options = .ok ()) :
    (client.request method (.str path) options).SendsTo (client.address path) 1 := by
  intro world
  rw [request_run, accepted]
  exact ⟨[client.exchangeOf method path options], rfl, Nat.le_refl 1, by simp [exchangeOf]⟩

theorem sendsTo_get (params : Value) :
    (client.get (.str path) params).SendsTo (client.address path) 1 :=
  sendsTo_request client path _ (checkOptions_params params)

theorem sendsTo_post (body : Value) :
    (client.post (.str path) body).SendsTo (client.address path) 1 :=
  sendsTo_request client path _ (checkOptions_json _)

theorem sendsTo_put (body : Value) :
    (client.put (.str path) body).SendsTo (client.address path) 1 :=
  sendsTo_request client path _ (checkOptions_json _)

theorem sendsTo_delete (body : Value) :
    (client.delete (.str path) body).SendsTo (client.address path) 1 := by
  unfold delete
  split
  · exact sendsTo_request client path _ checkOptions_nil
  · exact sendsTo_request client path _ (checkOptions_json _)

end Client

namespace Endpoint

variable (endpoint : Endpoint) (path : String)

/-- A read through any endpoint sends to the client's address of the path, or nowhere. -/
theorem sendsTo_get : (endpoint.get (.str path)).SendsTo (endpoint.client.address path) 0 := by
  unfold get
  split
  · exact (endpoint.client.sendsTo_get path _).mono (Nat.zero_le 1)
  · exact sendsTo_lift _
  · exact sendsTo_throw _

theorem sendsTo_post (body : Value) :
    (endpoint.post (.str path) body).SendsTo (endpoint.client.address path) 0 := by
  unfold post
  split
  · exact (endpoint.client.sendsTo_post path _).mono (Nat.zero_le 1)
  · exact sendsTo_throw _

theorem sendsTo_put (body : Value) :
    (endpoint.put (.str path) body).SendsTo (endpoint.client.address path) 0 := by
  unfold put
  split
  · exact (endpoint.client.sendsTo_put path _).mono (Nat.zero_le 1)
  · exact sendsTo_throw _

theorem sendsTo_delete (body : Value) :
    (endpoint.delete (.str path) body).SendsTo (endpoint.client.address path) 0 := by
  unfold delete
  split
  · exact (endpoint.client.sendsTo_delete path _).mono (Nat.zero_le 1)
  · exact sendsTo_throw _

end Endpoint

namespace Client

variable {α : Type} (client : Client) (path : String) (key params : Value) {consume : Value → Api α}
  (consumed : ∀ item, (consume item).SendsTo (client.address path) 0)
include consumed

theorem sendsTo_consumeAll (items : List Value) (done : List α) :
    (consumeAll consume items done).SendsTo (client.address path) 0 := by
  induction items generalizing done with
  | nil => exact sendsTo_pure done
  | cons item rest ih => exact sendsTo_bind (consumed item) fun result => ih _

variable {entries : List (Value × Value)} (given : params.orElse (.dict []) = .dict entries)
include given

/-- A walk asks for its pages at the collection's address only, the first page always. -/
theorem sendsTo_walkFrom (fuel page : Nat) (done : List α) :
    (client.walkFrom (.str path) key params consume fuel page done).SendsTo
      (client.address path) (min fuel 1) := by
  induction fuel generalizing page done with
  | zero => exact sendsTo_pure done
  | succ fuel ih =>
    simp only [walkFrom, pageQuery_of_entries given, lift_ok, pure_bind]
    rw [show min (fuel + 1) 1 = 1 by omega]
    refine sendsTo_bind (client.sendsTo_get path _) fun reply => ?_
    refine sendsTo_bind (sendsTo_lift _) fun found => ?_
    refine sendsTo_bind (sendsTo_lift _) fun items => ?_
    refine sendsTo_bind (client.sendsTo_consumeAll path consumed items done) fun done => ?_
    refine sendsTo_bind (sendsTo_lift _) fun more => ?_
    split
    · exact (ih _ _).mono (Nat.zero_le _)
    · exact sendsTo_pure _

theorem sendsTo_walk :
    (client.walk (.str path) key params consume).SendsTo (client.address path) 1 :=
  sendsTo_getThe_bind fun world =>
    (client.sendsTo_walkFrom path key params consumed given _ 1 []).mono (by omega)

end Client

namespace Cloud

variable (cloud : Cloud)

/-- What goes through a cloud's endpoint reads the `api` attribute and nothing else first. -/
theorem endpoint_bind {α : Type} (f : Endpoint → Api α) :
    cloud.endpoint >>= f =
      Api.lift cloud.api >>= fun target => f { client := cloud.client, target } := by
  simp only [endpoint, bind_assoc, pure_bind]

/-- A cloud whose `api` attribute is the session's client has the client as its endpoint. -/
theorem endpoint_through (through : cloud.api = .ok (.handle .client)) :
    cloud.endpoint = pure { client := cloud.client } := by
  simp [endpoint, through]

section Addresses

variable (path : String)

theorem sendsTo_get : (cloud.get (.str path)).SendsTo (cloud.client.address path) 0 := by
  rw [get, endpoint_bind]
  exact sendsTo_bind (sendsTo_lift _) fun _ => Endpoint.sendsTo_get _ path

theorem sendsTo_post (body : Value) :
    (cloud.post (.str path) body).SendsTo (cloud.client.address path) 0 := by
  rw [post, endpoint_bind]
  exact sendsTo_bind (sendsTo_lift _) fun _ => Endpoint.sendsTo_post _ path body

theorem sendsTo_put (body : Value) :
    (cloud.put (.str path) body).SendsTo (cloud.client.address path) 0 := by
  rw [put, endpoint_bind]
  exact sendsTo_bind (sendsTo_lift _) fun _ => Endpoint.sendsTo_put _ path body

theorem sendsTo_delete (body : Value) :
    (cloud.delete (.str path) body).SendsTo (cloud.client.address path) 0 := by
  rw [delete, endpoint_bind]
  exact sendsTo_bind (sendsTo_lift _) fun _ => Endpoint.sendsTo_delete _ path body

theorem sendsTo_fetch {α : Type} {least : Nat} (key : String) (decode : Value → Except Fault α)
    (read : (cloud.get (.str path)).SendsTo (cloud.client.address path) least) :
    (cloud.fetch (.str path) key decode).SendsTo (cloud.client.address path) least :=
  sendsTo_bind read fun _ => sendsTo_bind (sendsTo_lift _) fun _ => sendsTo_lift _

theorem sendsTo_collect {α : Type} (key : String) (decode : Value → Except Fault α)
    {params : Value} {entries : List (Value × Value)} (given : params.orElse (.dict []) = .dict entries) :
    (cloud.collect path key decode params).SendsTo (cloud.client.address path) 0 := by
  rw [collect, endpoint_bind]
  refine sendsTo_bind (sendsTo_lift _) fun target => ?_
  unfold Endpoint.walk
  split
  · exact (Client.sendsTo_walk _ path _ _ (fun _ => sendsTo_lift _) given).mono (Nat.zero_le 1)
  · exact sendsTo_throw _

/-- Asking whether there is a tracker reads the attribute and sends nothing. -/
theorem sendsTo_tracking : cloud.tracking.SendsTo (cloud.client.address path) 0 := by
  refine sendsTo_bind (sendsTo_lift _) fun tracker => ?_
  split <;> exact sendsTo_pure _

/-- Telling the tracker sends nothing. -/
theorem sendsTo_report (name : String) {tell : Api Unit}
    (told : tell.SendsTo (cloud.client.address path) 0) :
    (cloud.report name tell).SendsTo (cloud.client.address path) 0 := by
  refine sendsTo_bind (sendsTo_lift _) fun tracker => ?_
  split
  · exact sendsTo_pure _
  · exact told
  · exact sendsTo_throw _

theorem sendsTo_untrack (kind : String) (id : Value) :
    (cloud.untrack kind id).SendsTo (cloud.client.address path) 0 :=
  cloud.sendsTo_report path _ (Api.sendsTo_untrack _ _)

theorem sendsTo_trackCreated (kind : String) (id : Value) :
    (cloud.track kind id).SendsTo (cloud.client.address path) 0 :=
  cloud.sendsTo_report path _ (Api.sendsTo_track _ _)

variable {cloud} (through : cloud.api = .ok (.handle .client))
include through

theorem sendsTo_get_through : (cloud.get (.str path)).SendsTo (cloud.client.address path) 1 := by
  rw [get, endpoint_through cloud through, pure_bind]
  exact cloud.client.sendsTo_get path _

theorem sendsTo_post_through (body : Value) :
    (cloud.post (.str path) body).SendsTo (cloud.client.address path) 1 := by
  rw [post, endpoint_through cloud through, pure_bind]
  exact cloud.client.sendsTo_post path _

theorem sendsTo_put_through (body : Value) :
    (cloud.put (.str path) body).SendsTo (cloud.client.address path) 1 := by
  rw [put, endpoint_through cloud through, pure_bind]
  exact cloud.client.sendsTo_put path _

theorem sendsTo_delete_through (body : Value) :
    (cloud.delete (.str path) body).SendsTo (cloud.client.address path) 1 := by
  rw [delete, endpoint_through cloud through, pure_bind]
  exact cloud.client.sendsTo_delete path _

theorem sendsTo_collect_through {α : Type} (key : String) (decode : Value → Except Fault α)
    {params : Value} {entries : List (Value × Value)} (given : params.orElse (.dict []) = .dict entries) :
    (cloud.collect path key decode params).SendsTo (cloud.client.address path) 1 := by
  rw [collect, endpoint_through cloud through, pure_bind]
  exact Client.sendsTo_walk _ path _ _ (fun _ => sendsTo_lift _) given

end Addresses

/-- Whether a cloud has a tracker, once its tracker attribute can be read. -/
theorem tracking_of_readable {tracker : Value} (readable : cloud.tracker = .ok tracker) :
    cloud.tracking = pure (!isNothing tracker) := by
  cases tracker <;> simp [tracking, readable, isNothing]

section Keys

/-- A key addressed by anything but an integer or text, a truth value included, is refused. -/
theorem keyPath_type_error (x : Value) :
    keyPath x = .error (.keyAddressType x) ↔
      (∃ b, x = .bool b) ∨ (∀ n, x ≠ .int n) ∧ ∀ text, x ≠ .str text := by
  cases x <;> simp [keyPath]
  case str text => split <;> simp

/-- A key addressed by empty text is refused with a value error. -/
theorem keyPath_empty (x : Value) : keyPath x = .error .emptyFingerprint ↔ x = .str "" := by
  cases x <;> simp [keyPath]

/-- A key addressed by an integer or by nonempty text has the path of its plain text. -/
theorem keyPath_accepted {x : Value}
    (accepted : (∃ n, x = .int n) ∨ ∃ text, x = .str text ∧ text ≠ "") :
    keyPath x = .ok (.str ("/account/keys/" ++ x.plain)) := by
  rcases accepted with ⟨n, rfl⟩ | ⟨text, rfl, nonempty⟩
  · rfl
  · simp [keyPath, nonempty]
    rfl

/-- The fault of reading a request method from the service's `api` attribute, if any. -/
def methodFault (cloud : Cloud) (name : String) : Option Fault :=
  match cloud.api with
  | .error fault => some fault
  | .ok target =>
    if Endpoint.offers target name then Option.none else some (.missingAttribute target name)

/-- The client has every request method. -/
theorem methodFault_through (through : cloud.api = .ok (.handle .client)) (name : String) :
    cloud.methodFault name = Option.none := by
  simp [methodFault, through, Endpoint.offers]

/-- Reading a request method reads the `api` attribute, then the method of what it holds. -/
theorem requestMethod_bind {α : Type} (name : String) (rest : Endpoint → Api α) :
    cloud.requestMethod name >>= rest =
      Api.lift cloud.api >>= fun target =>
        ({ client := cloud.client, target } : Endpoint).method name >>= fun _ =>
          rest { client := cloud.client, target } := by
  simp only [requestMethod, endpoint_bind, bind_assoc, pure_bind]

theorem sendsTo_requestMethod_bind {α : Type} {address : String} (name : String)
    {rest : Endpoint → Api α} (next : ∀ target, (rest { client := cloud.client, target }).SendsTo address 0) :
    (cloud.requestMethod name >>= rest).SendsTo address 0 := by
  rw [requestMethod_bind]
  refine sendsTo_bind (sendsTo_lift _) fun target => sendsTo_bind ?_ fun _ => next target
  unfold Endpoint.method
  split
  · exact sendsTo_pure ()
  · exact sendsTo_throw _

section Refused

variable {x : Value} {fault : Fault} (refused : keyPath x = .error fault)
include refused

/-- Reading a request method, then a key's path: the method's fault if any, else the path's. -/
theorem method_then_path_refuses {α : Type} (name : String) (rest : Endpoint → Value → Api α) :
    (cloud.requestMethod name >>= fun endpoint => Api.lift (keyPath x) >>= rest endpoint).Refuses
      ((cloud.methodFault name).getD fault) := fun world => by
  rw [requestMethod_bind]
  unfold methodFault
  cases api : cloud.api with
  | error apiFault => simp
  | ok target =>
    by_cases offered : Endpoint.offers target name <;>
      simp [Endpoint.method, offered, refused, Endpoint.lacks]

theorem key_refuses : (cloud.key x).Refuses ((cloud.methodFault "get").getD fault) :=
  cloud.method_then_path_refuses refused "get" _

theorem updateKey_refuses (name : Value) :
    (cloud.updateKey x name).Refuses ((cloud.methodFault "put").getD fault) :=
  cloud.method_then_path_refuses refused "put" _

theorem deleteKey_refuses : (cloud.deleteKey x).Refuses fault := fun world => by
  simp [deleteKey, refused]

end Refused

/-- Deleting a key once its identifier to forget is known: the deletion, then the tracker. -/
theorem deleteKey_rest_sendsTo (path : String) (keyId : Value) :
    (do let _ ← cloud.delete (.str path); cloud.untrack "Key" keyId).SendsTo
      (cloud.client.address path) 0 :=
  sendsTo_bind (cloud.sendsTo_delete path _) fun _ => cloud.sendsTo_untrack path _ _

/-- A service whose own `get` is its class's reads a key's identifier where it reads the key. -/
theorem keyId_sendsTo {x : Value} {address : String} {least : Nat}
    (own : cloud.overrides "get" = Option.none) (read : (cloud.key x).SendsTo address least) :
    (cloud.keyId x).SendsTo address least := by
  rw [keyId_own own]
  exact sendsTo_map _ (sendsTo_map _ read)

section Accepted

variable {x : Value} {path : String} (located : keyPath x = .ok (.str path))
include located

theorem key_sendsTo : (cloud.key x).SendsTo (cloud.client.address path) 0 := by
  refine cloud.sendsTo_requestMethod_bind "get" fun target => ?_
  rw [located, lift_ok, pure_bind]
  exact sendsTo_bind (Endpoint.sendsTo_get _ path) fun _ =>
    sendsTo_bind (sendsTo_lift _) fun _ => sendsTo_lift _

theorem updateKey_sendsTo (name : Value) :
    (cloud.updateKey x name).SendsTo (cloud.client.address path) 0 := by
  refine cloud.sendsTo_requestMethod_bind "put" fun target => ?_
  rw [located, lift_ok, pure_bind]
  exact sendsTo_bind (Endpoint.sendsTo_put _ path _) fun _ =>
    sendsTo_bind (sendsTo_lift _) fun _ => sendsTo_lift _

theorem deleteKey_sendsTo (own : cloud.overrides "get" = Option.none) :
    (cloud.deleteKey x).SendsTo (cloud.client.address path) 0 := by
  simp only [deleteKey, located, lift_ok, pure_bind]
  refine sendsTo_bind (cloud.sendsTo_tracking path) fun tracking => sendsTo_ite ?_ ?_
  · exact sendsTo_bind (cloud.keyId_sendsTo own (cloud.key_sendsTo located))
      (cloud.deleteKey_rest_sendsTo path)
  · exact cloud.deleteKey_rest_sendsTo path x

variable {cloud} (through : cloud.api = .ok (.handle .client))
include through

theorem key_sendsTo_through : (cloud.key x).SendsTo (cloud.client.address path) 1 := by
  rw [key_through through, located, lift_ok, pure_bind]
  exact cloud.sendsTo_fetch path _ _ (sendsTo_get_through path through)

theorem updateKey_sendsTo_through (name : Value) :
    (cloud.updateKey x name).SendsTo (cloud.client.address path) 1 := by
  rw [updateKey_through through, located, lift_ok, pure_bind]
  exact sendsTo_bind (sendsTo_put_through path through _) fun _ =>
    sendsTo_bind (sendsTo_lift _) fun _ => sendsTo_lift _

/-- Deleting a key through the client sends a request: a read when tracking, else the deletion. -/
theorem deleteKey_sendsTo_through (own : cloud.overrides "get" = Option.none) {tracker : Value}
    (readable : cloud.tracker = .ok tracker) :
    (cloud.deleteKey x).SendsTo (cloud.client.address path) 1 := by
  simp only [deleteKey, located, lift_ok, pure_bind, tracking_of_readable cloud readable]
  refine sendsTo_ite ?_ ?_
  · exact sendsTo_bind (cloud.keyId_sendsTo own (key_sendsTo_through located through))
      (cloud.deleteKey_rest_sendsTo path)
  · exact sendsTo_bind (sendsTo_delete_through path through _) fun _ => cloud.sendsTo_untrack path _ _

end Accepted

end Keys

section FloatingIps

theorem isNothing_iff (v : Value) : isNothing v = true ↔ v = .none := by
  cases v <;> simp [isNothing]

/-- The floating IP check compares whether each target is nothing. -/
theorem floatingIpTarget_test (region dropletId : Value) :
    (isNothing region == isNothing dropletId) = true ↔ (region = .none ↔ dropletId = .none) := by
  rw [beq_iff_eq, Bool.eq_iff_iff, isNothing_iff, isNothing_iff]

variable {region dropletId : Value}

/-- Reserving a floating IP with both or neither of a region and a droplet is refused. -/
theorem createFloatingIp_refuses (same : region = .none ↔ dropletId = .none) :
    (cloud.createFloatingIp region dropletId).Refuses .floatingIpTarget := fun world => by
  simp [createFloatingIp, (floatingIpTarget_test region dropletId).2 same]

theorem createFloatingIp_sendsTo {least : Nat} (different : ¬(region = .none ↔ dropletId = .none))
    (posted : ∀ body, (cloud.post (.str "/floating_ips") body).SendsTo
      (cloud.client.address "/floating_ips") least) :
    (cloud.createFloatingIp region dropletId).SendsTo (cloud.client.address "/floating_ips") least := by
  have test : (isNothing region == isNothing dropletId) = false := by
    rw [← Bool.not_eq_true, floatingIpTarget_test]
    exact different
  simp only [createFloatingIp, test]
  exact sendsTo_bind (posted _) fun _ => sendsTo_bind (sendsTo_lift _) fun _ =>
    sendsTo_bind (sendsTo_lift _) fun _ => sendsTo_bind (cloud.sendsTo_trackCreated _ _ _) fun _ =>
      sendsTo_pure _

end FloatingIps

section Snapshots

theorem equals_str_iff (text : String) (v : Value) : (Value.str text).equals v = true ↔ v = .str text := by
  cases v <;> simp [Value.equals]
  case str other => exact ⟨fun same => same ▸ rfl, fun same => same ▸ rfl⟩

/-- The resource types snapshots are listed by. -/
theorem snapshotResourceTypes_any (given : Value) :
    snapshotResourceTypes.any (·.equals given) = true ↔
      given = .str "droplet" ∨ given = .str "volume" := by
  simp [snapshotResourceTypes, equals_str_iff]

/-- Snapshots listed by a resource type other than nothing, `droplet` and `volume` are refused. -/
theorem snapshots_refuses {resourceType : Value}
    (invalid : resourceType ≠ .none ∧ resourceType ≠ .str "droplet" ∧ resourceType ≠ .str "volume") :
    (cloud.snapshots resourceType).Refuses (.snapshotResourceType resourceType) := fun world => by
  have unknown : snapshotResourceTypes.any (·.equals resourceType) = false := by
    rw [← Bool.not_eq_true, snapshotResourceTypes_any]
    exact fun known => known.elim invalid.2.1 invalid.2.2
  unfold snapshots
  dsimp only
  split
  · exact absurd rfl invalid.1
  · simp [unknown]

/-- Snapshots listed by nothing, `droplet` or `volume` are listed, by that type when true. -/
theorem snapshots_lists {resourceType : Value}
    (valid : resourceType = .none ∨ resourceType = .str "droplet" ∨ resourceType = .str "volume") :
    cloud.snapshots resourceType =
      cloud.collect "/snapshots" "snapshots" Snapshot.decode
        (if resourceType.truthy then request [("resource_type", resourceType)] else .none) := by
  unfold snapshots
  dsimp only
  split
  · rfl
  · have known : snapshotResourceTypes.any (·.equals resourceType) = true := by
      rw [snapshotResourceTypes_any]
      rcases valid with none | known
      · contradiction
      · exact known
    simp [known]

/-- The parameters snapshots are listed with form a mapping. -/
theorem snapshotParams_mapping (resourceType : Value) :
    ∃ entries, (if resourceType.truthy then request [("resource_type", resourceType)]
      else Value.none).orElse (.dict []) = .dict entries := by
  split
  · exact ⟨_, rfl⟩
  · exact ⟨[], rfl⟩

end Snapshots

/-- What checking a key's address before any request means for one argument. -/
structure KeyChecked (cloud : Cloud) (x : Value) : Prop where
  /-- A truth value, or anything but an integer or text, is refused with the type error. -/
  typeError : keyPath x = .error (.keyAddressType x) ↔
    (∃ b, x = .bool b) ∨ (∀ n, x ≠ .int n) ∧ ∀ text, x ≠ .str text
  /-- Empty text is refused with the value error. -/
  emptyText : keyPath x = .error .emptyFingerprint ↔ x = .str ""
  /-- Any other argument is addressed at the path of its plain text. -/
  accepted : (∃ n, x = .int n) ∨ (∃ text, x = .str text ∧ text ≠ "") →
    keyPath x = .ok (.str ("/account/keys/" ++ x.plain))
  /-- A refused argument raises its fault first; reading and renaming read their method first. -/
  refused : ∀ fault, keyPath x = .error fault →
    (cloud.key x).Refuses ((cloud.methodFault "get").getD fault) ∧
    (∀ name, (cloud.updateKey x name).Refuses ((cloud.methodFault "put").getD fault)) ∧
      (cloud.deleteKey x).Refuses fault
  /-- An accepted argument sends every request to its path, one through the client at least. -/
  addressed : ∀ path, keyPath x = .ok (.str path) →
    (cloud.key x).SendsTo (cloud.client.address path) 0 ∧
    (∀ name, (cloud.updateKey x name).SendsTo (cloud.client.address path) 0) ∧
    (cloud.overrides "get" = Option.none → (cloud.deleteKey x).SendsTo (cloud.client.address path) 0) ∧
    (cloud.api = .ok (.handle .client) → ∀ tracker, cloud.tracker = .ok tracker →
      (cloud.key x).SendsTo (cloud.client.address path) 1 ∧
      (∀ name, (cloud.updateKey x name).SendsTo (cloud.client.address path) 1) ∧
      (cloud.overrides "get" = Option.none →
        (cloud.deleteKey x).SendsTo (cloud.client.address path) 1))

/-- What checking a floating IP's target before any request means for one pair of arguments. -/
structure FloatingIpChecked (cloud : Cloud) (region dropletId : Value) : Prop where
  /-- Both or neither of a region and a droplet are refused before anything else. -/
  refused : (region = .none ↔ dropletId = .none) →
    (cloud.createFloatingIp region dropletId).Refuses .floatingIpTarget
  /-- Exactly one of them sends every request to the floating IPs, one through the client. -/
  addressed : ¬(region = .none ↔ dropletId = .none) →
    (cloud.createFloatingIp region dropletId).SendsTo (cloud.client.address "/floating_ips") 0 ∧
    (cloud.api = .ok (.handle .client) →
      (cloud.createFloatingIp region dropletId).SendsTo (cloud.client.address "/floating_ips") 1)

/-- What checking a snapshot listing's resource type before any request means for one argument. -/
structure SnapshotsChecked (cloud : Cloud) (resourceType : Value) : Prop where
  /-- A type other than nothing, `droplet` and `volume` is refused before anything else. -/
  refused : resourceType ≠ .none ∧ resourceType ≠ .str "droplet" ∧ resourceType ≠ .str "volume" →
    (cloud.snapshots resourceType).Refuses (.snapshotResourceType resourceType)
  /-- The others list snapshots at their address only, one request through the client at least. -/
  addressed : resourceType = .none ∨ resourceType = .str "droplet" ∨ resourceType = .str "volume" →
    (cloud.snapshots resourceType).SendsTo (cloud.client.address "/snapshots") 0 ∧
    (cloud.api = .ok (.handle .client) →
      (cloud.snapshots resourceType).SendsTo (cloud.client.address "/snapshots") 1)

theorem keyChecked (x : Value) : KeyChecked cloud x where
  typeError := keyPath_type_error x
  emptyText := keyPath_empty x
  accepted := keyPath_accepted
  refused _ refused :=
    ⟨cloud.key_refuses refused, fun name => cloud.updateKey_refuses refused name,
      cloud.deleteKey_refuses refused⟩
  addressed _ located :=
    ⟨cloud.key_sendsTo located, fun name => cloud.updateKey_sendsTo located name,
      cloud.deleteKey_sendsTo located, fun through _ readable =>
        ⟨key_sendsTo_through located through, fun name => updateKey_sendsTo_through located through name,
          fun own => deleteKey_sendsTo_through located through own readable⟩⟩

theorem floatingIpChecked (region dropletId : Value) : FloatingIpChecked cloud region dropletId where
  refused := cloud.createFloatingIp_refuses
  addressed different :=
    ⟨cloud.createFloatingIp_sendsTo different fun _ => cloud.sendsTo_post _ _,
      fun through => cloud.createFloatingIp_sendsTo different fun _ =>
        sendsTo_post_through _ through _⟩

theorem snapshotsChecked (resourceType : Value) : SnapshotsChecked cloud resourceType where
  refused := cloud.snapshots_refuses
  addressed valid := by
    obtain ⟨entries, given⟩ := snapshotParams_mapping resourceType
    rw [cloud.snapshots_lists valid]
    exact ⟨cloud.sendsTo_collect _ _ _ given, fun through => sendsTo_collect_through _ through _ _ given⟩

/-- Arguments are checked before any request, on every cloud: a refused one raises with nothing
sent and the tracker as it was; an accepted one sends every request to the address it names. -/
theorem arguments_checked_before_requests (cloud : Cloud) :
    (∀ x, KeyChecked cloud x) ∧ (∀ region dropletId, FloatingIpChecked cloud region dropletId) ∧
    (∀ resourceType, SnapshotsChecked cloud resourceType) ∧
    (cloud.api = .ok (.handle .client) → ∀ name, cloud.methodFault name = Option.none) ∧
    (∀ x, (Fault.keyAddressType x).className = "TypeError") ∧
    Fault.emptyFingerprint.className = "ValueError" ∧
    Fault.floatingIpTarget.className = "ValueError" ∧
    ∀ resourceType, (Fault.snapshotResourceType resourceType).className = "ValueError" :=
  ⟨cloud.keyChecked, cloud.floatingIpChecked, cloud.snapshotsChecked, cloud.methodFault_through,
    fun _ => rfl, rfl, rfl, fun _ => rfl⟩

end Cloud

end CloudClient

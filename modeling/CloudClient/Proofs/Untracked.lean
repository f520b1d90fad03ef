import CloudClient.Service.Operation
import CloudClient.Proofs.Run

namespace CloudClient

namespace Api

variable {α β : Type}

/-- An operation that neither reads nor changes the tracker. -/
def Untracked (operation : Api α) : Prop :=
  ∀ (world : World) (tracker : Tracker),
    operation.run { world with tracker } =
      ((operation.run world).1, { (operation.run world).2 with tracker })

/-- An untracked operation leaves the tracker as it found it. -/
theorem Untracked.keeps {operation : Api α} (untracked : operation.Untracked) (world : World) :
    (operation.run world).2.tracker = world.tracker :=
  congrArg (fun ran => ran.2.tracker) (untracked world world.tracker)

/-- The world an untracked run ends in has the tracker the run started from. -/
theorem Untracked.tracker_after {operation : Api α} (untracked : operation.Untracked)
    {world after : World} {outcome : Except Fault α} (ran : operation.run world = (outcome, after)) :
    after.tracker = world.tracker := by
  have kept := untracked.keeps world
  rw [ran] at kept
  exact kept

theorem untracked_pure (a : α) : (pure a : Api α).Untracked := fun _ _ => rfl

theorem untracked_throw (fault : Fault) : (throw fault : Api α).Untracked :=
  fun _ _ => rfl

theorem untracked_lift (outcome : Except Fault α) : (lift outcome).Untracked := by
  intro world tracker
  simp only [run_lift]

theorem untracked_bind {x : Api α} {f : α → Api β} (first : x.Untracked)
    (next : ∀ a, (f a).Untracked) : (x >>= f).Untracked := by
  intro world tracker
  rw [run_bind, run_bind, first world tracker]
  rcases x.run world with ⟨_ | a, after⟩
  · rfl
  · exact next a after tracker

theorem untracked_map {x : Api α} (f : α → β) (first : x.Untracked) :
    (f <$> x).Untracked := by
  rw [map_eq_pure_bind]
  exact untracked_bind first fun a => untracked_pure (f a)

theorem untracked_exchange (request : Exchange) : (exchange request).Untracked :=
  fun _ _ => rfl

theorem untracked_askStorage (region : Value) : (askStorage region).Untracked :=
  fun _ _ => rfl

theorem untracked_nextListing : nextListing.Untracked := fun _ _ => rfl

/-- Reading the world is untracked when what follows reads no tracker. -/
theorem untracked_getThe_bind {f : World → Api α} (next : ∀ world, (f world).Untracked)
    (blind : ∀ (world : World) (tracker : Tracker), f { world with tracker } = f world) :
    (getThe World >>= f).Untracked := by
  intro world tracker
  rw [run_bind, run_bind, run_getThe, run_getThe]
  dsimp only
  rw [blind world tracker]
  exact next world world tracker

theorem untracked_mapM {f : α → Api β} (each : ∀ a, (f a).Untracked) :
    ∀ items : List α, (items.mapM f).Untracked
  | [] => untracked_pure []
  | item :: rest => by
    rw [List.mapM_cons]
    exact untracked_bind (each item) fun b =>
      untracked_bind (untracked_mapM each rest) fun bs => untracked_pure (b :: bs)

end Api

open Api

namespace Client

variable (client : Client)

theorem untracked_request (method path : Value) (options : List (String × Value)) :
    (client.request method path options).Untracked := by
  unfold request
  refine untracked_bind (untracked_lift _) fun address => ?_
  refine untracked_bind (untracked_lift _) fun _ => ?_
  exact untracked_bind (untracked_exchange _) fun reply => untracked_lift _

theorem untracked_get (path params : Value) : (client.get path params).Untracked :=
  client.untracked_request _ path _

theorem untracked_post (path body : Value) : (client.post path body).Untracked :=
  client.untracked_request _ path _

theorem untracked_put (path body : Value) : (client.put path body).Untracked :=
  client.untracked_request _ path _

theorem untracked_delete (path body : Value) : (client.delete path body).Untracked := by
  unfold delete
  split
  · exact client.untracked_request _ path _
  · exact client.untracked_request _ path _

section Walk

variable {α : Type} {consume : Value → Api α} (consumed : ∀ item, (consume item).Untracked)
include consumed

theorem untracked_consumeAll : ∀ (items : List Value) (done : List α),
    (consumeAll consume items done).Untracked
  | [], done => untracked_pure done
  | item :: rest, done =>
    untracked_bind (consumed item) fun result => untracked_consumeAll rest (done ++ [result])

/-- Every page of a walk is one request and the consumption of its items. -/
theorem untracked_walkFrom (path key params : Value) :
    ∀ (fuel page : Nat) (done : List α),
      (client.walkFrom path key params consume fuel page done).Untracked
  | 0, _, done => untracked_pure done
  | fuel + 1, page, done => by
    unfold walkFrom
    refine untracked_bind (untracked_lift _) fun query => ?_
    refine untracked_bind (client.untracked_get path query) fun body => ?_
    refine untracked_bind (untracked_lift _) fun entries => ?_
    refine untracked_bind (untracked_lift _) fun items => ?_
    refine untracked_bind (untracked_consumeAll consumed items done) fun collected => ?_
    refine untracked_bind (untracked_lift _) fun more => ?_
    split
    · exact untracked_walkFrom path key params fuel (page + 1) collected
    · exact untracked_pure collected

theorem untracked_walk (path key params : Value) :
    (client.walk path key params consume).Untracked :=
  untracked_getThe_bind (fun _ => client.untracked_walkFrom consumed path key params _ 1 [])
    fun _ _ => rfl

end Walk

end Client

namespace Endpoint

variable (endpoint : Endpoint)

theorem untracked_method (name : String) : (endpoint.method name).Untracked := by
  unfold method
  split
  · exact untracked_pure ()
  · exact untracked_throw _

theorem untracked_get (path : Value) : (endpoint.get path).Untracked := by
  unfold get
  split
  · exact endpoint.client.untracked_get path _
  · exact untracked_lift _
  · exact untracked_throw _

theorem untracked_post (path body : Value) : (endpoint.post path body).Untracked := by
  unfold post
  split
  · exact endpoint.client.untracked_post path body
  · exact untracked_throw _

theorem untracked_put (path body : Value) : (endpoint.put path body).Untracked := by
  unfold put
  split
  · exact endpoint.client.untracked_put path body
  · exact untracked_throw _

theorem untracked_delete (path body : Value) : (endpoint.delete path body).Untracked := by
  unfold delete
  split
  · exact endpoint.client.untracked_delete path body
  · exact untracked_throw _

theorem untracked_walk {α : Type} {consume : Value → Api α}
    (consumed : ∀ item, (consume item).Untracked) (path key params : Value) :
    (endpoint.walk path key params consume).Untracked := by
  unfold walk
  split
  · exact endpoint.client.untracked_walk consumed path key params
  · exact untracked_throw _

end Endpoint

namespace Cloud

variable (cloud : Cloud)

theorem untracked_endpoint : cloud.endpoint.Untracked :=
  untracked_bind (untracked_lift _) fun _ => untracked_pure _

theorem untracked_requestMethod (name : String) : (cloud.requestMethod name).Untracked :=
  untracked_bind cloud.untracked_endpoint fun endpoint =>
    untracked_bind (endpoint.untracked_method name) fun _ => untracked_pure endpoint

theorem untracked_get (path : Value) : (cloud.get path).Untracked :=
  untracked_bind cloud.untracked_endpoint fun endpoint => endpoint.untracked_get path

theorem untracked_post (path body : Value) : (cloud.post path body).Untracked :=
  untracked_bind cloud.untracked_endpoint fun endpoint => endpoint.untracked_post path body

theorem untracked_put (path body : Value) : (cloud.put path body).Untracked :=
  untracked_bind cloud.untracked_endpoint fun endpoint => endpoint.untracked_put path body

theorem untracked_delete (path body : Value) : (cloud.delete path body).Untracked :=
  untracked_bind cloud.untracked_endpoint fun endpoint => endpoint.untracked_delete path body

theorem untracked_fetch {α : Type} (address : Value) (key : String)
    (decode : Value → Except Fault α) : (cloud.fetch address key decode).Untracked :=
  untracked_bind (cloud.untracked_get address) fun _ =>
    untracked_bind (untracked_lift _) fun item => untracked_lift (decode item)

theorem untracked_collect {α : Type} (address key : String) (decode : Value → Except Fault α)
    (params : Value) : (cloud.collect address key decode params).Untracked :=
  untracked_bind cloud.untracked_endpoint fun endpoint =>
    endpoint.untracked_walk (fun item => untracked_lift (decode item)) _ _ params

end Cloud

namespace Waiter

variable (endpoint : Endpoint) (actionId : Value)

theorem untracked_poll : (poll endpoint actionId).Untracked := by
  unfold poll
  refine untracked_bind (endpoint.untracked_get _) fun reply => ?_
  refine untracked_bind (untracked_lift _) fun data => ?_
  refine untracked_bind (untracked_lift _) fun action => ?_
  split
  · exact untracked_bind (untracked_throw _) fun _ => untracked_pure action
  · exact untracked_pure action

/-- Each round of polling is one poll, the backoff checks and a timeout or another round. -/
theorem untracked_pollUntilDone (multiplier factor : Value) (givesUp : Bool) :
    ∀ fuel, (pollUntilDone endpoint actionId multiplier factor givesUp fuel).Untracked
  | 0 => untracked_throw _
  | fuel + 1 => by
    unfold pollUntilDone
    refine untracked_bind (untracked_poll endpoint actionId) fun action => ?_
    split
    · exact untracked_pure action
    · refine untracked_bind (untracked_lift _) fun _ => ?_
      refine untracked_bind (untracked_lift _) fun _ => ?_
      split
      · exact untracked_throw _
      · exact untracked_pollUntilDone multiplier factor givesUp fuel

theorem untracked_waitForAction (base cap factor timeout : Value) :
    (waitForAction endpoint actionId base cap factor timeout).Untracked := by
  unfold waitForAction
  refine untracked_bind (untracked_lift _) fun _ => ?_
  refine untracked_bind (untracked_lift _) fun seconds => ?_
  exact untracked_getThe_bind
    (fun _ => untracked_pollUntilDone endpoint actionId base factor _ _) fun _ _ => rfl

theorem untracked_waitCall (positional : List Value) (keywords : List (String × Value)) :
    (waitCall endpoint positional keywords).Untracked :=
  untracked_bind (untracked_lift _) fun _ => untracked_waitForAction endpoint _ _ _ _ _

theorem untracked_waitForActions (links : Value) (keywords : List (String × Value)) :
    (waitForActions endpoint links keywords).Untracked :=
  untracked_bind (untracked_lift _) fun items =>
    untracked_mapM (fun _ => untracked_bind (untracked_lift _) fun actionId =>
      untracked_waitCall endpoint [.none, actionId] keywords) items

end Waiter

theorem untracked_callObject (callee : Value) (positional : List Value)
    (keywords : List (String × Value)) : (callObject callee positional keywords).Untracked := by
  unfold callObject
  split
  · exact untracked_bind (untracked_lift _) fun binding =>
      untracked_bind (untracked_askStorage _) fun _ => untracked_pure _
  · exact untracked_lift _

namespace Cloud

variable (cloud : Cloud)

theorem untracked_floatingIpAction (ip body wait : Value) :
    (cloud.floatingIpAction ip body wait).Untracked := by
  unfold floatingIpAction
  refine untracked_bind (cloud.untracked_post _ body) fun reply => ?_
  refine untracked_bind (untracked_lift _) fun action => ?_
  refine untracked_bind (untracked_lift _) fun actionId => ?_
  split
  · exact untracked_lift _
  · exact untracked_bind cloud.untracked_endpoint fun endpoint =>
      Waiter.untracked_waitForAction endpoint actionId _ _ _ _

/-- Listing object storage makes a storage client and takes one scripted storage answer. -/
theorem untracked_spacesBuckets (region : Value) : (cloud.spacesBuckets region).Untracked := by
  unfold spacesBuckets
  refine untracked_bind (untracked_lift _) fun factory => ?_
  refine untracked_bind (untracked_callObject factory [region] []) fun made => ?_
  -- the storage answer is read after either outcome of the client check
  dsimp only
  split
  rotate_left
  refine untracked_bind (untracked_throw _) fun _ => ?_
  all_goals
    refine untracked_bind untracked_nextListing fun listing => ?_
    split
    · exact untracked_throw _
    · exact untracked_throw _
    · exact untracked_throw _
    · exact untracked_bind (untracked_lift _) fun fault => untracked_throw fault
    · exact untracked_bind (untracked_lift _) fun _ =>
        untracked_bind (untracked_lift _) fun _ => untracked_lift _

end Cloud

end CloudClient

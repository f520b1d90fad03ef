import CloudClient.Proofs.ActionCalls
import CloudClient.Service.Tags

namespace CloudClient

namespace Cloud

/-- The resource type and identifier a tagging element names: a pair's, or its type and `id`. -/
def referent? : Value → Option (Value × Value)
  | .tuple [type, id] => some (type, id)
  | .tuple _ => none
  | other => (other.attr? "id").map fun id => (.str (Text.lowerAscii other.shortTypeName), id)

/-- What the elements of a collection name, in order, when each of them names a resource. -/
def referents? (resources : Value) : Option (List (Value × Value)) :=
  match resources.members with
  | .ok items => items.mapM referent?
  | .error _ => none

/-- The reference to a resource in the body of a tagging, with its identifier as text. -/
def referenceEntry (referent : Value × Value) : Value :=
  request [("resource_type", referent.1), ("resource_id", .str referent.2.plain)]

/-- The path of the resources of a tag. -/
def tagPath (name : Value) : String := "/tags/" ++ name.plain ++ "/resources"

/-- A tagging request: one exchange to the tag's resources with their references as its body. -/
def taggingRun (client : Client) (method : String) (name : Value)
    (referents : List (Value × Value)) (world : World) : Except Fault Unit × World :=
  ((fun _ => ()) <$> Client.outcome (.str method) (client.address (tagPath name)) world.nextReply,
    world.record (client.exchangeOf (.str method) (tagPath name)
      [("json", request [("resources", .list (referents.map referenceEntry))])]))

/-- The elements that name no resource: tuples that are no pair, and values without an `id`. -/
theorem referent?_eq_none_iff (element : Value) :
    referent? element = none ↔
      (∃ items, element = .tuple items ∧ items.length ≠ 2) ∨
        ((∀ items, element ≠ .tuple items) ∧ element.attr? "id" = none) := by
  cases element with
  | tuple items =>
    rcases items with _ | ⟨type, _ | ⟨id, _ | ⟨third, rest⟩⟩⟩ <;> simp [referent?]
  | _ => simp [referent?]

/-- An element has a reference exactly when it names a resource: the entry of what it names. -/
theorem resourceRef_eq_ok_iff (element reference : Value) :
    resourceRef element = .ok reference ↔
      ∃ referent, referent? element = some referent ∧ referenceEntry referent = reference := by
  cases element with
  | tuple items =>
    rcases items with _ | ⟨type, _ | ⟨id, _ | ⟨third, rest⟩⟩⟩ <;>
      simp [resourceRef, referent?, Value.unpackPair, referenceEntry]
  | _ =>
    simp only [resourceRef, referent?, Value.attr]
    split <;> rename_i found <;> simp [found, referenceEntry, request]

/-- A collection's references are built exactly when every element names a resource. -/
theorem resourceRefs_eq_ok_iff (resources references : Value) :
    resourceRefs resources = .ok references ↔
      ∃ referents, referents? resources = some referents ∧
        .list (referents.map referenceEntry) = references := by
  unfold resourceRefs referents?
  cases resources.members with
  | error fault => simp
  | ok items =>
    have each := Except.mapM_eq_ok_iff resourceRef_eq_ok_iff items
    simp only [Except.ok_bind]
    cases traversed : items.mapM resourceRef with
    | ok refs =>
      obtain ⟨referents, named, rfl⟩ := (each refs).mp traversed
      simp [named]
    | error fault =>
      simp only [Except.map_error, reduceCtorEq, false_iff, not_exists, not_and]
      intro referents named built
      obtain ⟨⟩ := traversed ▸ (each _).mpr ⟨referents, named, rfl⟩

section Through

variable {cloud : Cloud} (through : cloud.api = .ok (.handle .client)) {resources : Value}
  {referents : List (Value × Value)}
  (built : resourceRefs resources = .ok (.list (referents.map referenceEntry)))
include through built

theorem tagResources_run (name : Value) (world : World) :
    (cloud.tagResources name resources).run world =
      taggingRun cloud.client "POST" name referents world := by
  simp only [tagResources_through through, built, Api.lift_ok, pure_bind, path_triple,
    Api.run_bind, post_run through]
  -- the body holds one member, so it is true and is sent as it is
  rw [Value.orElse_of_truthy (show (request [("resources", _)]).truthy = true from rfl)]
  unfold taggingRun tagPath
  cases Client.outcome (.str "POST")
    (cloud.client.address ("/tags/" ++ name.plain ++ "/resources")) world.nextReply <;> rfl

theorem untagResources_run (name : Value) (world : World) :
    (cloud.untagResources name resources).run world =
      taggingRun cloud.client "DELETE" name referents world := by
  simp only [untagResources_through through, built, Api.lift_ok, pure_bind, path_triple,
    Api.run_bind, request, List.map, delete_body_run through]
  unfold taggingRun tagPath request
  cases Client.outcome (.str "DELETE")
    (cloud.client.address ("/tags/" ++ name.plain ++ "/resources")) world.nextReply <;> rfl

end Through

/-- Tagging sends one request with every element's reference when all name a resource,
and otherwise fails with nothing sent and the world as it was. -/
theorem tagging_sends_all_or_nothing (client : Client) (tracking : Bool) (name resources : Value)
    (world : World) :
    match referents? resources with
    | some referents =>
      ((sessionCloud client tracking).tagResources name resources).run world =
          taggingRun client "POST" name referents world ∧
        ((sessionCloud client tracking).untagResources name resources).run world =
          taggingRun client "DELETE" name referents world
    | none => ∃ fault,
      ((sessionCloud client tracking).tagResources name resources).run world =
          (.error fault, world) ∧
        ((sessionCloud client tracking).untagResources name resources).run world =
          (.error fault, world) := by
  have through := sessionCloud_api client tracking
  cases named : referents? resources with
  | some referents =>
    have built := (resourceRefs_eq_ok_iff resources _).mpr ⟨referents, named, rfl⟩
    have posted := tagResources_run through built name world
    have deleted := untagResources_run through built name world
    rw [sessionCloud_client] at posted deleted
    exact ⟨posted, deleted⟩
  | none =>
    cases built : resourceRefs resources with
    | ok references =>
      obtain ⟨referents, found, -⟩ := (resourceRefs_eq_ok_iff resources references).mp built
      rw [named] at found
      cases found
    | error fault =>
      exact ⟨fault, by simp [tagResources_through through, built],
        by simp [untagResources_through through, built]⟩

end Cloud

end CloudClient

import CloudClient.Proofs.Calls
import CloudClient.Proofs.Request

namespace CloudClient

/-- The cloud of a tracking session: requests go through the client, and the tracker hears all. -/
def trackedCloud (client : Client) : Cloud := { client, tracker := .ok (.handle .tracker) }

namespace Ledger

/-- Whether a value can key a mapping. -/
def keyable (id : Value) : Bool := id.unhashablePart?.isNone

/-- The resources alive after one of a kind was made, given its identifier or the fault met. -/
def add (alive : List (Value × Value)) (kind : String) (made : Except Fault Value) :
    List (Value × Value) :=
  match made with
  | .ok id =>
    if keyable id && !alive.any (Tracker.same (.str kind, id)) then alive ++ [(.str kind, id)]
    else alive
  | .error _ => alive

/-- The resources alive after the deletion of a resource, given what its request answered. -/
def remove (alive : List (Value × Value)) (kind : String) (deleted : Except Fault Value)
    (id : Value) : List (Value × Value) :=
  match deleted with
  | .ok _ => if keyable id then alive.eraseP (Tracker.same · (.str kind, id)) else alive
  | .error _ => alive

/-- Whether an alive resource is a domain record tracked under the domain's name and a slash. -/
def recordUnder (name : Value) (entry : Value × Value) : Bool :=
  entry.1.equals (.str "DomainRecord") &&
    match entry.2 with
    | .str text => text.startsWith (name.plain ++ "/")
    | _ => false

/-- The resources alive after a domain's deletion: without it and the records under its name. -/
def removeDomain (alive : List (Value × Value)) (deleted : Except Fault Value) (name : Value) :
    List (Value × Value) :=
  match deleted with
  | .ok _ =>
    if keyable name then
      (alive.eraseP (Tracker.same · (.str "Domain", name))).filter fun entry =>
        !recordUnder name entry
    else alive
  | .error _ => alive

/-- The identifier of the record a create call's answer holds, read as the call reads it. -/
def madeBy {α β : Type} (answer : Except Fault Value) (key : String)
    (decode : Value → Except Fault α) (idOf : α → β) : Except Fault β := do
  let body ← answer
  let record ← decode (← (body.orElse (.dict [])).get (.str key) (.dict []))
  pure (idOf record)

/-- What a reply answers to a request of a method to a path, as the client reads it. -/
def answerTo (client : Client) (method : String) (path : Value) (reply : Reply) :
    Except Fault Value :=
  Client.outcome (.str method) (client.address path.plain) reply

/-- The reply the request after the next one gets. -/
def secondReply (world : World) : Reply := (world.replies.drop 1).head?.getD noReplyLeft

/-- The reply after the next one is the next reply once a request has been sent. -/
theorem nextReply_record (world : World) (request : Exchange) :
    (world.record request).nextReply = secondReply world := rfl

theorem map_madeBy {α β γ : Type} (f : β → γ) (answer : Except Fault Value) (key : String)
    (decode : Value → Except Fault α) (idOf : α → β) :
    (madeBy answer key decode idOf).map f = madeBy answer key decode (f ∘ idOf) := by
  simp only [madeBy]
  cases answer with
  | error fault => rfl
  | ok body =>
    simp only [Except.ok_bind]
    cases (body.orElse (.dict [])).get (.str key) (.dict []) with
    | error fault => rfl
    | ok data =>
      simp only [Except.ok_bind]
      cases decode data <;> rfl

/-- Every alive domain record is tracked under a text. -/
def RecordsByText (alive : List (Value × Value)) : Prop :=
  ∀ entry ∈ alive, entry.1.equals (.str "DomainRecord") = true → ∃ text, entry.2 = .str text

theorem madeBy_ok {α β : Type} {answer : Except Fault Value} {key : String}
    {decode : Value → Except Fault α} {idOf : α → β} {made : β}
    (read : madeBy answer key decode idOf = .ok made) : ∃ record, made = idOf record := by
  simp only [madeBy] at read
  cases answer with
  | error fault => cases read
  | ok body =>
    cases entry : (body.orElse (.dict [])).get (.str key) (.dict []) with
    | error fault => simp [entry] at read
    | ok data =>
      cases decoded : decode data with
      | error fault => simp [entry, decoded] at read
      | ok record =>
        simp only [entry, decoded, Except.ok_bind] at read
        exact ⟨record, (Except.ok.inj read).symm⟩

theorem RecordsByText.of_subset {alive kept : List (Value × Value)} (texts : RecordsByText alive)
    (within : ∀ entry ∈ kept, entry ∈ alive) : RecordsByText kept :=
  fun entry member => texts entry (within entry member)

/-- A kind other than the records' is not the records' kind. -/
theorem other_kind {kind : String} (other : kind ≠ "DomainRecord") :
    (Value.str kind).equals (.str "DomainRecord") = false := by
  simp [Value.equals_str, other]

namespace RecordsByText

variable {alive : List (Value × Value)} (texts : RecordsByText alive)
include texts

/-- Adding a resource keeps every record under a text, unless it is a record under another value. -/
theorem add (kind : String) {made : Except Fault Value}
    (named : (Value.str kind).equals (.str "DomainRecord") = true →
      ∀ id, made = .ok id → ∃ text, id = .str text) :
    RecordsByText (Ledger.add alive kind made) := by
  unfold Ledger.add
  split
  · split
    · intro entry member isRecord
      rcases List.mem_append.mp member with old | new
      · exact texts entry old isRecord
      · rw [List.mem_singleton] at new
        subst new
        exact named isRecord _ rfl
    · exact texts
  · exact texts

theorem add_other (kind : String) (made : Except Fault Value)
    (other : (Value.str kind).equals (.str "DomainRecord") = false) :
    RecordsByText (Ledger.add alive kind made) :=
  texts.add kind fun isRecord => absurd isRecord (by simp [other])

theorem remove (kind : String) (deleted : Except Fault Value) (id : Value) :
    RecordsByText (Ledger.remove alive kind deleted id) := by
  unfold Ledger.remove
  split
  · split
    · exact texts.of_subset fun _ member => List.mem_of_mem_eraseP member
    · exact texts
  · exact texts

theorem removeDomain (deleted : Except Fault Value) (name : Value) :
    RecordsByText (Ledger.removeDomain alive deleted name) := by
  unfold Ledger.removeDomain
  split
  · split
    · exact texts.of_subset fun _ member =>
        List.mem_of_mem_eraseP (List.mem_filter.mp member).1
    · exact texts
  · exact texts

end RecordsByText

end Ledger

namespace Tracker

theorem removeFirst_eq_eraseP (pair : Value × Value) :
    ∀ alive : List (Value × Value), removeFirst pair alive = alive.eraseP (same · pair)
  | [] => rfl
  | head :: rest => by
    rw [removeFirst, List.eraseP_cons, removeFirst_eq_eraseP pair rest]
    cases same head pair <;> rfl

/-- Forgetting a domain's records never fails, and keeps exactly the other resources. -/
theorem dropWhere_records (name : Value) :
    ∀ alive, Ledger.RecordsByText alive →
      dropWhere (.str "DomainRecord") (fun id => id.startsWith (.str (name.plain ++ "/"))) alive =
        (alive.filter fun entry => !Ledger.recordUnder name entry, Option.none) := by
  intro alive
  induction alive with
  | nil => exact fun _ => rfl
  | cons entry rest ih =>
    obtain ⟨kind, id⟩ := entry
    intro texts
    have later := ih fun entry member => texts entry (by simp [member])
    cases isRecord : kind.equals (.str "DomainRecord") with
    | false =>
      have kept : Ledger.recordUnder name (kind, id) = false := by
        simp [Ledger.recordUnder, isRecord]
      rw [dropWhere, if_neg (by simp [isRecord]), later, List.filter_cons, kept]
      rfl
    | true =>
      -- a record is tracked under a text, so the condition answers
      obtain ⟨text, rfl⟩ := texts (kind, id) (by simp) isRecord
      have head : Ledger.recordUnder name (kind, .str text) =
          text.startsWith (name.plain ++ "/") := by
        simp [Ledger.recordUnder, isRecord]
      rw [dropWhere, if_pos isRecord, later, List.filter_cons, head]
      cases starts : text.startsWith (name.plain ++ "/") <;> simp [Value.startsWith, starts]

end Tracker

namespace Client

variable (client : Client) (path : String) (world : World)

theorem post_answer (body : Value) :
    ((client.post (.str path) body).run world).1 =
      Ledger.answerTo client "POST" (.str path) world.nextReply := by
  simp [post, request_run, Ledger.answerTo]

theorem delete_answer :
    ((client.delete (.str path)).run world).1 =
      Ledger.answerTo client "DELETE" (.str path) world.nextReply := by
  simp [delete, request_run, Ledger.answerTo]

end Client

namespace Cloud

variable (client : Client) (world : World)

@[simp] theorem trackedCloud_get (path : Value) :
    (trackedCloud client).get path = client.get path := rfl

@[simp] theorem trackedCloud_post (path body : Value) :
    (trackedCloud client).post path body = client.post path body := rfl

@[simp] theorem trackedCloud_delete (path : Value) :
    (trackedCloud client).delete path = client.delete path := rfl

theorem requireHashable_keyable {id : Value} (keyed : Ledger.keyable id = true) :
    id.requireHashable = .ok () := by
  simp only [Ledger.keyable, Option.isNone_iff_eq_none] at keyed
  simp [Value.requireHashable, keyed]

theorem requireHashable_unkeyable {id : Value} (unkeyed : Ledger.keyable id = false) :
    ∃ fault, id.requireHashable = .error fault := by
  simp only [Ledger.keyable, Option.isNone_eq_false_iff, Option.isSome_iff_exists] at unkeyed
  obtain ⟨part, found⟩ := unkeyed
  exact ⟨.unhashable part, by simp [Value.requireHashable, found]⟩

variable (kind : String) {id : Value}

/-- Tracking a resource with a hashable identifier records it as the ledger adds it. -/
theorem track_keyable (keyed : Ledger.keyable id = true) :
    ((trackedCloud client).track kind id).run world =
      (.ok (), { world with tracker := { alive := Ledger.add world.tracker.alive kind (.ok id) } }) := by
  have kindHashable : (Value.str kind).requireHashable = .ok () := rfl
  simp only [track, report, trackedCloud, Api.run_bind, Api.run_lift, Api.track, Api.run_get,
    Tracker.created, Tracker.checkPair, requireHashable_keyable keyed, kindHashable,
    Except.ok_bind]
  cases alive : world.tracker.alive.any (Tracker.same (.str kind, id)) <;>
    simp [Ledger.add, keyed, alive, Api.run_set, pure, Except.pure]

/-- Tracking a resource with an unhashable identifier fails and changes nothing. -/
theorem track_unkeyable (unkeyed : Ledger.keyable id = false) :
    ∃ fault, ((trackedCloud client).track kind id).run world = (.error fault, world) := by
  obtain ⟨fault, unhashable⟩ := requireHashable_unkeyable unkeyed
  have kindHashable : (Value.str kind).requireHashable = .ok () := rfl
  refine ⟨fault, ?_⟩
  simp only [track, report, trackedCloud, Api.run_bind, Api.run_lift, Api.track, Api.run_get,
    Tracker.created, Tracker.checkPair, unhashable, kindHashable, Except.ok_bind,
    Except.error_bind]

/-- Untracking a hashable identifier removes the first resource that is the same. -/
theorem untrack_keyable (keyed : Ledger.keyable id = true) :
    ((trackedCloud client).untrack kind id).run world =
      (.ok (), { world with tracker :=
        { alive := world.tracker.alive.eraseP (Tracker.same · (.str kind, id)) } }) := by
  have kindHashable : (Value.str kind).requireHashable = .ok () := rfl
  have checked : Tracker.checkPair (.str kind) id = .ok () := by
    simp [Tracker.checkPair, requireHashable_keyable keyed, kindHashable]
  simp only [untrack, report, trackedCloud, Api.run_bind, Api.run_lift, Api.untrack, Api.run_get,
    Tracker.deleted_of_checked _ checked, Tracker.removeFirst_eq_eraseP]
  rfl

theorem requireHashable_unhashable {id part : Value} (unhashable : id.unhashablePart? = some part) :
    id.requireHashable = .error (.unhashable part) := by
  simp [Value.requireHashable, unhashable]

/-- With nothing alive, untracking succeeds and changes nothing, whatever the identifier. -/
theorem untrack_nothing_alive (nothing : world.tracker.alive = []) (id : Value) :
    ((trackedCloud client).untrack kind id).run world = (.ok (), world) := by
  have empty : world.tracker = ⟨[]⟩ := by rw [← nothing]
  simp only [untrack, report, trackedCloud, Api.run_bind, Api.run_lift, Api.untrack, Api.run_get,
    empty, Tracker.deleted_nil]
  rw [← empty]
  rfl

/-- While something is alive, untracking an unhashable identifier raises its type error. -/
theorem untrack_unhashable {part : Value} (unhashable : id.unhashablePart? = some part)
    (something : world.tracker.alive ≠ []) :
    ((trackedCloud client).untrack kind id).run world = (.error (.unhashable part), world) := by
  have kindHashable : (Value.str kind).requireHashable = .ok () := rfl
  simp only [untrack, report, trackedCloud, Api.run_bind, Api.run_lift, Api.untrack, Api.run_get,
    Tracker.deleted_of_ne_nil something, Tracker.checkPair, requireHashable_unhashable unhashable,
    kindHashable, Except.ok_bind, Except.error_bind]

/-- Untracking an unhashable identifier leaves the world as it was. -/
theorem untrack_unkeyable (unkeyed : Ledger.keyable id = false) :
    (((trackedCloud client).untrack kind id).run world).2 = world := by
  simp only [Ledger.keyable, Option.isNone_eq_false_iff, Option.isSome_iff_exists] at unkeyed
  obtain ⟨part, unhashable⟩ := unkeyed
  by_cases nothing : world.tracker.alive = []
  · rw [untrack_nothing_alive client world kind nothing]
  · rw [untrack_unhashable client world kind unhashable nothing]

/-- Forgetting the records under a domain's name, while every record is tracked under a text. -/
theorem forgetRecords_run (name : Value) (texts : Ledger.RecordsByText world.tracker.alive) :
    ((trackedCloud client).report "deleted_where" (Api.untrackWhere (.str "DomainRecord")
        fun id => id.startsWith (.str (name.plain ++ "/")))).run world =
      (.ok (), { world with tracker :=
        { alive := world.tracker.alive.filter fun entry => !Ledger.recordUnder name entry } }) := by
  simp only [report, trackedCloud, Api.run_bind, Api.run_lift, Api.untrackWhere, Api.run_get,
    Tracker.deletedWhere, Tracker.dropWhere_records name _ texts]
  rfl

/-- The path a key is addressed by. -/
theorem keyPath_ok {address path : Value} (located : keyPath address = .ok path) :
    path = .str ("/account/keys/" ++ address.plain) := by
  unfold keyPath at located
  split at located
  · cases located
    rfl
  · split at located
    · cases located
    · cases located
      rfl
  · cases located

/-- Reading one resource through the client: one GET, and the record its answer holds. -/
theorem fetch_run {α : Type} (path key : String) (decode : Value → Except Fault α) :
    ((trackedCloud client).fetch (.str path) key decode).run world =
      (Ledger.madeBy (Ledger.answerTo client "GET" (.str path) world.nextReply) key decode
        fun record => record,
        world.record (client.exchangeOf (.str "GET") path [("params", .none)])) := by
  simp only [fetch, trackedCloud_get, Api.run_bind, Client.get_run, Ledger.answerTo, Ledger.madeBy,
    Value.plain_str]
  cases Client.outcome (.str "GET") (client.address path) world.nextReply with
  | error fault => rfl
  | ok body =>
    simp only [member, Api.run_lift, Except.ok_bind]
    cases (body.orElse (.dict [])).get (.str key) (.dict []) with
    | error fault => rfl
    | ok data => simp [Except.ok_bind]

/-- The identifier of a key named by its fingerprint, read through the client. -/
theorem keyId_run {fingerprint path : String}
    (located : keyPath (.str fingerprint) = .ok (.str path)) :
    ((trackedCloud client).keyId (.str fingerprint)).run world =
      (Ledger.madeBy (Ledger.answerTo client "GET" (.str path) world.nextReply) "ssh_key" Key.decode
          fun key => .int key.id,
        world.record (client.exchangeOf (.str "GET") path [("params", .none)])) := by
  simp only [@keyId_own (trackedCloud client) rfl, @key_through (trackedCloud client) rfl, located, Api.run_map, Api.run_bind, Api.run_lift,
    fetch_run, Ledger.map_madeBy]
  rfl

@[simp] theorem tracking_run : ((trackedCloud client).tracking).run world = (.ok true, world) :=
  rfl

/-- A body that is nothing is read as an empty mapping once, however often that is asked. -/
@[simp] theorem member_orElse (body : Value) (key : String) :
    member (body.orElse (.dict [])) key = member body key := by
  simp only [member, Value.orElse]
  split <;> rfl

/-- A create call on the tracking cloud adds the resource its answer holds, and nothing else. -/
theorem alive_after_create {α β : Type} {send : Api Value} (sent : send.Untracked) (key : String)
    (decode : Value → Except Fault α) (kind : String) (idOf : α → Value)
    {rest : Value → α → Api β} (continues : ∀ reply record, (rest reply record).Untracked) :
    ((do
        let reply ← send
        let created ← Api.lift (decode (← member reply key))
        (trackedCloud client).track kind (idOf created)
        rest reply created).run world).2.tracker.alive =
      Ledger.add world.tracker.alive kind (Ledger.madeBy (send.run world).1 key decode idOf) := by
  rw [Api.run_bind]
  rcases sentRun : send.run world with ⟨_ | body, after⟩
  all_goals have kept := sent.tracker_after sentRun
  case error fault => simp [kept, Ledger.add, Ledger.madeBy]
  case ok =>
    simp only [member, Api.run_bind, Api.run_lift]
    cases entry : (body.orElse (.dict [])).get (.str key) (.dict []) with
    | error fault => simp [kept, Ledger.add, Ledger.madeBy, entry]
    | ok data =>
      cases decoded : decode data with
      | error fault => simp [kept, Ledger.add, Ledger.madeBy, entry, decoded]
      | ok record =>
        cases keyed : Ledger.keyable (idOf record)
        case false =>
          obtain ⟨fault, failed⟩ := track_unkeyable client after kind keyed
          simp [failed, kept, Ledger.add, Ledger.madeBy, entry, decoded, keyed]
        case true =>
          have after_rest := (continues body record).keeps
          simp [track_keyable client after kind keyed, after_rest, kept, Ledger.madeBy, entry,
            decoded]

/-- A delete call on the tracking cloud removes its resource once its request is answered. -/
theorem alive_after_delete (path : Value) (kind : String) (id : Value) :
    ((do
        let _ ← (trackedCloud client).delete path
        (trackedCloud client).untrack kind id).run world).2.tracker.alive =
      Ledger.remove world.tracker.alive kind ((client.delete path).run world).1 id := by
  rw [Api.run_bind, trackedCloud_delete]
  rcases deleted : (client.delete path).run world with ⟨_ | body, after⟩
  all_goals have kept := (client.untracked_delete path .none).tracker_after deleted
  case error fault => simp [kept, Ledger.remove]
  case ok =>
    cases keyed : Ledger.keyable id
    case false => simp [untrack_unkeyable client after kind keyed, kept, Ledger.remove, keyed]
    case true => simp [untrack_keyable client after kind keyed, kept, Ledger.remove, keyed]

end Cloud

namespace Mutation

open Ledger Cloud

/-- The resources alive after a mutation that starts in a world, from the replies it gets there. -/
def ledger (client : Client) (world : World) (alive : List (Value × Value)) :
    Mutation → List (Value × Value)
  | .createKey .. =>
    add alive "Key" (madeBy (answerTo client "POST" (.str "/account/keys") world.nextReply)
      "ssh_key" Key.decode fun key => .int key.id)
  | .deleteKey address =>
    match keyPath address, address with
    | .error _, _ => alive
    | .ok path, .str _ =>
      -- a key named by its fingerprint is read first, and forgotten by its identifier
      match madeBy (answerTo client "GET" path world.nextReply) "ssh_key" Key.decode
          fun key => .int key.id with
      | .ok id => remove alive "Key" (answerTo client "DELETE" path (secondReply world)) id
      | .error _ => alive
    | .ok path, _ => remove alive "Key" (answerTo client "DELETE" path world.nextReply) address
  | .createDroplet name region size image sshKeys tags backups ipv6 userData _ =>
    match dropletRequest name region size image sshKeys tags backups ipv6 userData with
    | .error _ => alive
    | .ok _ =>
      add alive "Droplet" (madeBy (answerTo client "POST" (.str "/droplets") world.nextReply)
        "droplet" Droplet.decode fun droplet => .int droplet.id)
  | .deleteDroplet dropletId =>
    remove alive "Droplet"
      (answerTo client "DELETE" (path [.str "/droplets/", dropletId]) world.nextReply) dropletId
  | .createFloatingIp region dropletId =>
    if isNothing region == isNothing dropletId then alive
    else
      add alive "FloatingIP" (madeBy (answerTo client "POST" (.str "/floating_ips")
        world.nextReply) "floating_ip" FloatingIp.decode (·.ip))
  | .deleteFloatingIp ip =>
    remove alive "FloatingIP"
      (answerTo client "DELETE" (path [.str "/floating_ips/", ip]) world.nextReply) ip
  | .createVolume .. =>
    add alive "Volume" (madeBy (answerTo client "POST" (.str "/volumes") world.nextReply)
      "volume" Volume.decode (·.id))
  | .deleteVolume volumeId =>
    remove alive "Volume"
      (answerTo client "DELETE" (path [.str "/volumes/", volumeId]) world.nextReply) volumeId
  | .createSnapshot volumeId _ =>
    add alive "Snapshot" (madeBy (answerTo client "POST"
      (path [.str "/volumes/", volumeId, .str "/snapshots"]) world.nextReply) "snapshot"
      Snapshot.decode fun snapshot => .str snapshot.id)
  | .deleteSnapshot snapshotId =>
    remove alive "Snapshot"
      (answerTo client "DELETE" (path [.str "/snapshots/", snapshotId]) world.nextReply)
      (.str snapshotId.plain)
  | .createDomain .. =>
    add alive "Domain" (madeBy (answerTo client "POST" (.str "/domains") world.nextReply)
      "domain" Domain.decode (·.name))
  | .deleteDomain name =>
    removeDomain alive (answerTo client "DELETE" (path [.str "/domains/", name]) world.nextReply)
      name
  | .createDomainRecord domainName .. =>
    add alive "DomainRecord" (madeBy (answerTo client "POST"
      (path [.str "/domains/", domainName, .str "/records"]) world.nextReply) "domain_record"
      DomainRecord.decode fun record => recordKey domainName (.int record.id))
  | .deleteDomainRecord domainName recordId =>
    remove alive "DomainRecord" (answerTo client "DELETE"
      (path [.str "/domains/", domainName, .str "/records/", recordId]) world.nextReply)
      (recordKey domainName recordId)
  | .createTag _ =>
    add alive "Tag" (madeBy (answerTo client "POST" (.str "/tags") world.nextReply) "tag"
      Tag.decode (·.name))
  | .deleteTag name =>
    remove alive "Tag" (answerTo client "DELETE" (path [.str "/tags/", name]) world.nextReply) name

theorem world_map {α β : Type} (f : α → β) (x : Api α) (world : World) :
    ((f <$> x).run world).2 = (x.run world).2 := by
  rw [Api.run_map]

theorem world_nothing (operation : Api Unit) (world : World) :
    ((nothing operation).run world).2 = (operation.run world).2 := by
  simp only [nothing, Api.run_bind]
  rcases operation.run world with ⟨_ | _, after⟩ <;> rfl

section Step

variable (client : Client) (world : World)

/-- A create call that posts, reads its record and tracks it. -/
theorem alive_posted {α : Type} (path : String) (body : Value) (key : String)
    (decode : Value → Except Fault α) (kind : String) (idOf view : α → Value) :
    ((view <$> (do
        let reply ← (trackedCloud client).post (.str path) body
        let created ← Api.lift (decode (← member reply key))
        (trackedCloud client).track kind (idOf created)
        pure created)).run world).2.tracker.alive =
      add world.tracker.alive kind
        (madeBy (answerTo client "POST" (.str path) world.nextReply) key decode idOf) := by
  rw [world_map, alive_after_create client world ((trackedCloud client).untracked_post _ _) key
      decode kind idOf (fun _ => Api.untracked_pure), trackedCloud_post, Client.post_answer]

/-- A delete call that deletes and forgets. -/
theorem alive_deleted (path : String) (kind : String) (id : Value) :
    ((nothing (do
        let _ ← (trackedCloud client).delete (.str path)
        (trackedCloud client).untrack kind id)).run world).2.tracker.alive =
      remove world.tracker.alive kind (answerTo client "DELETE" (.str path) world.nextReply) id := by
  rw [world_nothing, alive_after_delete, Client.delete_answer]

/-- Reading the record a reply holds and tracking it take no further reply. -/
theorem replies_tracked {α : Type} (reply : Value) (key : String) (decode : Value → Except Fault α)
    (kind : String) (idOf : α → Value) :
    ((do
        let created ← Api.lift (decode (← member reply key))
        (trackedCloud client).track kind (idOf created)
        pure created).run world).2.replies = world.replies := by
  simp only [member, Api.run_bind, Api.run_lift]
  cases (reply.orElse (.dict [])).get (.str key) (.dict []) with
  | error fault => rfl
  | ok data =>
    dsimp only
    cases decode data with
    | error fault => rfl
    | ok record =>
      dsimp only
      cases keyed : keyable (idOf record)
      case true =>
        rw [track_keyable client world kind keyed]
        rfl
      case false =>
        obtain ⟨fault, failed⟩ := track_unkeyable client world kind keyed
        rw [failed]

/-- A create call that posts takes exactly one reply, whatever it answers. -/
theorem replies_posted {α : Type} (path : String) (body : Value) (key : String)
    (decode : Value → Except Fault α) (kind : String) (idOf view : α → Value) :
    ((view <$> (do
        let reply ← (trackedCloud client).post (.str path) body
        let created ← Api.lift (decode (← member reply key))
        (trackedCloud client).track kind (idOf created)
        pure created)).run world).2.replies = world.replies.drop 1 := by
  rw [world_map, Api.run_bind, trackedCloud_post]
  simp only [Client.post, Client.request_run, Client.checkOptions_json]
  cases Client.outcome (.str "POST") (client.address path) world.nextReply with
  | error fault => rfl
  | ok reply => exact replies_tracked client _ reply key decode kind idOf

theorem alive_createFloatingIp (region dropletId : Value) :
    (((createFloatingIp region dropletId).run (trackedCloud client)).run world).2.tracker.alive =
      (createFloatingIp region dropletId).ledger client world world.tracker.alive := by
  rw [run, world_map, Cloud.createFloatingIp]
  by_cases both : (isNothing region == isNothing dropletId) = true
  · simp [both, ledger]
  · simp only [both, Bool.false_eq_true, if_false]
    rw [alive_after_create client world ((trackedCloud client).untracked_post _ _) "floating_ip"
        FloatingIp.decode "FloatingIP" (·.ip) (fun _ => Api.untracked_pure),
      trackedCloud_post, Client.post_answer]
    simp [ledger, both]

theorem alive_createDroplet (name region size image sshKeys tags backups ipv6 userData wait : Value) :
    (((createDroplet name region size image sshKeys tags backups ipv6 userData wait).run
        (trackedCloud client)).run world).2.tracker.alive =
      (createDroplet name region size image sshKeys tags backups ipv6 userData wait).ledger client
        world world.tracker.alive := by
  rw [run, world_map, Cloud.createDroplet, Cloud.createDropletThen, Api.run_bind, Api.run_lift]
  cases built : dropletRequest name region size image sshKeys tags backups ipv6 userData with
  | error fault => simp [ledger, built]
  | ok body =>
    simp only [member_orElse, id]
    -- waiting for the droplet's actions and reading it again leave the tracker alone
    have waits : ∀ (reply : Value) (created : Droplet),
        (if (!wait.truthy) = true then pure created
          else do
            let links ← Api.lift ((reply.orElse (.dict [])).get (.str "links") .none)
            let actions ← Api.lift ((links.orElse (.dict [])).get (.str "actions") .none)
            let endpoint ← (trackedCloud client).endpoint
            let _ ← Waiter.waitForActions endpoint actions []
            (trackedCloud client).droplet (.int created.id)).Untracked := by
      intro reply created
      split
      · exact Api.untracked_pure created
      · exact Api.untracked_bind (Api.untracked_lift _) fun _ =>
          Api.untracked_bind (Api.untracked_lift _) fun actions =>
            Api.untracked_bind (trackedCloud client).untracked_endpoint fun endpoint =>
              Api.untracked_bind (Waiter.untracked_waitForActions endpoint actions []) fun _ =>
                (trackedCloud client).untracked_fetch _ _ _
    rw [alive_after_create client world ((trackedCloud client).untracked_post _ _) "droplet"
        Droplet.decode "Droplet" (fun droplet => .int droplet.id) waits,
      trackedCloud_post, Client.post_answer]
    simp [ledger, built]

theorem alive_deleteDomain (name : Value) (texts : RecordsByText world.tracker.alive) :
    (((deleteDomain name).run (trackedCloud client)).run world).2.tracker.alive =
      (deleteDomain name).ledger client world world.tracker.alive := by
  have answered : answerTo client "DELETE" (path [.str "/domains/", name]) world.nextReply =
      ((client.delete (path [.str "/domains/", name])).run world).1 :=
    (Client.delete_answer client _ world).symm
  rw [run, world_nothing, Cloud.deleteDomain, Api.run_bind, trackedCloud_delete, ledger, answered]
  rcases deleted : (client.delete (path [.str "/domains/", name])).run world with
    ⟨_ | body, after⟩
  all_goals
    have kept := (client.untracked_delete (path [.str "/domains/", name]) .none).tracker_after deleted
  case error fault => simp [removeDomain, kept]
  case ok =>
    dsimp only
    rw [Api.run_bind]
    cases keyed : keyable name
    case false =>
      -- the records are looked at only when nothing was alive, and then there are none
      obtain ⟨part, unhashable⟩ : ∃ part, name.unhashablePart? = some part := by
        simpa [Ledger.keyable, Option.isNone_eq_false_iff, Option.isSome_iff_exists] using keyed
      by_cases nothing : after.tracker.alive = []
      · have texts' : RecordsByText after.tracker.alive := by simp [nothing, RecordsByText]
        rw [untrack_nothing_alive client after "Domain" nothing]
        dsimp only
        rw [forgetRecords_run client after name texts']
        simp [removeDomain, keyed, ← kept, nothing]
      · rw [untrack_unhashable client after "Domain" unhashable nothing]
        simp [removeDomain, keyed, kept]
    case true =>
      -- the records are forgotten from what is left once the domain itself is
      rw [untrack_keyable client after "Domain" keyed]
      dsimp only
      have remaining :
          RecordsByText (after.tracker.alive.eraseP (Tracker.same · (.str "Domain", name))) := by
        rw [kept]
        exact texts.of_subset fun entry member => List.mem_of_mem_eraseP member
      rw [forgetRecords_run client
        { after with tracker := { alive := after.tracker.alive.eraseP _ } } name remaining]
      simp [removeDomain, keyed, kept]

theorem alive_deleteKey (address : Value) :
    (((deleteKey address).run (trackedCloud client)).run world).2.tracker.alive =
      (deleteKey address).ledger client world world.tracker.alive := by
  rw [run, world_nothing]
  unfold Cloud.deleteKey
  rw [Api.run_bind, Api.run_lift]
  cases located : keyPath address with
  | error fault => simp only [ledger, located]
  | ok path =>
    simp only [Api.run_bind, tracking_run, Bool.true_and]
    obtain rfl := keyPath_ok located
    cases address
    case int n =>
      simp only [Bool.false_eq_true, if_false, pure_bind]
      rw [alive_after_delete, Client.delete_answer]
      simp only [ledger, located]
    case str fingerprint =>
      -- the key is read first, and the deletion gets the reply after
      rw [if_pos rfl]
      simp only [Value.plain_str] at located ⊢
      rw [Api.run_bind, keyId_run client world located]
      cases read : madeBy (answerTo client "GET" (.str ("/account/keys/" ++ fingerprint))
          world.nextReply) "ssh_key" Key.decode fun key => Value.int key.id with
      | error fault => simp only [ledger, located, read, World.record_tracker]
      | ok id =>
        rw [alive_after_delete, Client.delete_answer]
        simp only [ledger, located, read, nextReply_record, World.record_tracker]
    all_goals simp [keyPath] at located

/-- One mutation on the tracking cloud leaves alive exactly what its ledger says. -/
theorem alive_run (texts : RecordsByText world.tracker.alive) :
    ∀ call : Mutation,
      ((call.run (trackedCloud client)).run world).2.tracker.alive =
        call.ledger client world world.tracker.alive
  | .createKey .. => alive_posted client world _ _ "ssh_key" Key.decode "Key" _ Key.toValue
  | .deleteKey address => alive_deleteKey client world address
  | .createDroplet .. => alive_createDroplet client world ..
  | .deleteDroplet dropletId => alive_deleted client world _ "Droplet" dropletId
  | .createFloatingIp region dropletId => alive_createFloatingIp client world region dropletId
  | .deleteFloatingIp ip => alive_deleted client world _ "FloatingIP" ip
  | .createVolume .. => alive_posted client world _ _ "volume" Volume.decode "Volume" _ Volume.toValue
  | .deleteVolume volumeId => alive_deleted client world _ "Volume" volumeId
  | .createSnapshot .. =>
    alive_posted client world _ _ "snapshot" Snapshot.decode "Snapshot" _ Snapshot.toValue
  | .deleteSnapshot _ => alive_deleted client world _ "Snapshot" _
  | .createDomain .. => alive_posted client world _ _ "domain" Domain.decode "Domain" _ Domain.toValue
  | .deleteDomain name => alive_deleteDomain client world name texts
  | .createDomainRecord .. =>
    alive_posted client world _ _ "domain_record" DomainRecord.decode "DomainRecord" _
      DomainRecord.toValue
  | .deleteDomainRecord .. => alive_deleted client world _ "DomainRecord" _
  | .createTag _ => alive_posted client world _ _ "tag" Tag.decode "Tag" _ Tag.toValue
  | .deleteTag name => alive_deleted client world _ "Tag" name

/-- Every mutation keeps every domain record tracked under a text. -/
theorem ledger_texts {alive : List (Value × Value)} (texts : RecordsByText alive) :
    ∀ call : Mutation, RecordsByText (call.ledger client world alive)
  | .createKey .. => texts.add_other "Key" _ (other_kind (by decide))
  | .deleteKey address => by
    simp only [ledger]
    split
    · exact texts
    · split
      · exact texts.remove _ _ _
      · exact texts
    · exact texts.remove _ _ _
  | .createDroplet .. => by
    simp only [ledger]
    split
    · exact texts
    · exact texts.add_other "Droplet" _ (other_kind (by decide))
  | .deleteDroplet _ => texts.remove _ _ _
  | .createFloatingIp .. => by
    simp only [ledger]
    split
    · exact texts
    · exact texts.add_other "FloatingIP" _ (other_kind (by decide))
  | .deleteFloatingIp _ => texts.remove _ _ _
  | .createVolume .. => texts.add_other "Volume" _ (other_kind (by decide))
  | .deleteVolume _ => texts.remove _ _ _
  | .createSnapshot .. => texts.add_other "Snapshot" _ (other_kind (by decide))
  | .deleteSnapshot _ => texts.remove _ _ _
  | .createDomain .. => texts.add_other "Domain" _ (other_kind (by decide))
  | .deleteDomain name => texts.removeDomain _ name
  | .createDomainRecord .. => texts.add "DomainRecord" fun _ _ made => by
    obtain ⟨_, rfl⟩ := madeBy_ok made
    exact ⟨_, rfl⟩
  | .deleteDomainRecord .. => texts.remove _ _ _
  | .createTag _ => texts.add_other "Tag" _ (other_kind (by decide))
  | .deleteTag _ => texts.remove _ _ _

end Step

end Mutation

namespace ServiceCall

/-- The resources alive after a call that starts in a world: a query changes nothing. -/
def ledger (client : Client) (world : World) (alive : List (Value × Value)) :
    ServiceCall → List (Value × Value)
  | .query _ => alive
  | .mutation call => call.ledger client world alive

/-- The ledger of a run of calls on the tracking cloud, each from the world the last one left. -/
def replay (client : Client) : List ServiceCall → World → List (Value × Value) →
    List (Value × Value)
  | [], _, alive => alive
  | call :: rest, world, alive =>
    replay client rest ((call.run (trackedCloud client)).run world).2
      (call.ledger client world alive)

variable (client : Client)

/-- One call on the tracking cloud leaves alive exactly what its ledger says. -/
theorem alive_run (world : World) (texts : Ledger.RecordsByText world.tracker.alive) :
    ∀ call : ServiceCall,
      ((call.run (trackedCloud client)).run world).2.tracker.alive =
        call.ledger client world world.tracker.alive
  | .query call => by rw [run, ledger, ((Query.untracked (trackedCloud client) call).keeps world)]
  | .mutation call => Mutation.alive_run client world texts call

theorem ledger_texts (world : World) {alive : List (Value × Value)}
    (texts : Ledger.RecordsByText alive) :
    ∀ call : ServiceCall, Ledger.RecordsByText (call.ledger client world alive)
  | .query _ => texts
  | .mutation call => Mutation.ledger_texts client world texts call

/-- After any calls on a tracking cloud, failed ones included, the leftovers are their ledger:
creates add, answered deletes remove, and a domain takes the records under its name. -/
theorem leftovers_follow_ledger (calls : List ServiceCall) (world : World)
    (texts : Ledger.RecordsByText world.tracker.alive) :
    (runAll (trackedCloud client) calls world).2.tracker.leftovers =
      replay client calls world world.tracker.alive := by
  -- over the calls, each step keeping every domain record tracked under a text
  induction calls generalizing world with
  | nil => rfl
  | cons call rest ih =>
    have step := alive_run client world texts call
    have kept : Ledger.RecordsByText ((call.run (trackedCloud client)).run world).2.tracker.alive := by
      rw [step]
      exact ledger_texts client world texts call
    rw [runAll_cons_world, ih _ kept, step]
    rfl

/-- A record made in domain "a/b", then domain "a" deleted, from a tracker with nothing alive. -/
theorem leftovers_follow_ledger_of_record_then_domain :
    let client : Client := { baseUrl := "https://api.digitalocean.com/v2", timeout := .int 30 }
    let world : World :=
      { replies := [.response (.int 200) .none [] [], .response (.int 204) .none [] []] }
    let calls : List ServiceCall :=
      [.mutation (.createDomainRecord (.str "a/b") (.str "A") (.str "www") (.str "1.2.3.4") []),
        .mutation (.deleteDomain (.str "a"))]
    Ledger.RecordsByText world.tracker.alive ∧
      (runAll (trackedCloud client) calls world).2.tracker.leftovers = replay client calls world [] :=
  let nothingAlive : Ledger.RecordsByText [] := fun _ member => by cases member
  ⟨nothingAlive, leftovers_follow_ledger _ _ { replies := _ } nothingAlive⟩

/-- Deleting domain "a" forgets a record of domain "a/b": names are compared as prefixes. -/
theorem deleting_domain_forgets_records_of_longer_names :
    let client : Client := { baseUrl := "https://api.digitalocean.com/v2", timeout := .int 30 }
    let world : World :=
      { replies := [.response (.int 200) .none [] [], .response (.int 204) .none [] []] }
    let create : ServiceCall :=
      .mutation (.createDomainRecord (.str "a/b") (.str "A") (.str "www") (.str "1.2.3.4") [])
    (runAll (trackedCloud client) [create] world).2.tracker.leftovers =
        [(.str "DomainRecord", .str "a/b/0")] ∧
      (runAll (trackedCloud client) [create, .mutation (.deleteDomain (.str "a"))]
        world).2.tracker.leftovers = [] := by
  intro client world create
  have nothingAlive : Ledger.RecordsByText world.tracker.alive := fun _ member => by cases member
  -- the record is made from the first reply and tracked under its domain's name and id 0
  have made : ((create.run (trackedCloud client)).run world).2.tracker.alive =
      [(.str "DomainRecord", .str "a/b/0")] := by
    rw [alive_run client world nothingAlive]
    simp [create, ledger, Mutation.ledger, Ledger.add, Ledger.madeBy, Ledger.answerTo, world,
      World.nextReply, Client.outcome, Client.isFailure, Value.equals_int, pure, Except.pure]
    rfl
  have taken : ((create.run (trackedCloud client)).run world).2.replies =
      [.response (.int 204) .none [] []] :=
    Mutation.replies_posted client world _ _ "domain_record" DomainRecord.decode "DomainRecord" _
      DomainRecord.toValue
  have texts : Ledger.RecordsByText ((create.run (trackedCloud client)).run world).2.tracker.alive := by
    rw [made]
    intro entry member _
    exact ⟨"a/b/0", by rw [List.mem_singleton.mp member]⟩
  have longer : "a/b/0".startsWith "a/" = true := by simp
  refine ⟨made, ?_⟩
  -- deleting "a" is answered by the second reply, and the record of "a/b" goes with it
  rw [runAll_cons_world, runAll_cons_world, runAll_nil, Tracker.leftovers, alive_run client _ texts,
    ledger, Mutation.ledger, made]
  simp [Ledger.removeDomain, World.nextReply, taken, Ledger.answerTo, Client.outcome,
    Client.isFailure, Value.equals_int, Ledger.keyable, Ledger.recordUnder, Tracker.same,
    Value.equals_str, pure, Except.pure, Value.unhashablePart?]
  exact longer

end ServiceCall

end CloudClient

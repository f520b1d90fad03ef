import CloudClient.Proofs.Ledger
import Mathlib.Data.List.Forall2

namespace CloudClient

/-- The cloud of a session without a tracker. -/
def untrackedCloud (client : Client) : Cloud := { client }

namespace Observer

open Ledger

/-- Worlds of the two clouds agree when equal but for the tracker, domain records under texts. -/
def Agree (tracked plain : World) : Prop :=
  { tracked with tracker := plain.tracker } = plain ∧ RecordsByText tracked.tracker.alive

/-- The tracking cloud's outcome answers the other's: the same, or a type error where it returns. -/
def Answers {α : Type} (tracked plain : Except Fault α) : Prop :=
  tracked = plain ∨ ∃ part value, tracked = .error (.unhashable part) ∧ plain = .ok value

variable {α β : Type}

/-- Operations that end alike from agreeing worlds, in agreeing worlds. -/
def Mirrors (tracked plain : Api α) : Prop :=
  ∀ wt wu, Agree wt wu →
    (tracked.run wt).1 = (plain.run wu).1 ∧ Agree (tracked.run wt).2 (plain.run wu).2

/-- Operations whose outcomes answer to each other from agreeing worlds, in agreeing worlds. -/
def Shadows (tracked plain : Api α) : Prop :=
  ∀ wt wu, Agree wt wu →
    Answers (tracked.run wt).1 (plain.run wu).1 ∧ Agree (tracked.run wt).2 (plain.run wu).2

/-- An operation that returns one value and changes nothing. -/
def Quiet (operation : Api α) : Prop := ∃ value, ∀ world, operation.run world = (.ok value, world)

theorem Agree.tracked_eq {wt wu : World} (agree : Agree wt wu) :
    wt = { wu with tracker := wt.tracker } := by
  rw [← agree.1]

/-- An operation that leaves the tracker alone mirrors itself. -/
theorem mirrors_of_untracked {x : Api α} (untracked : x.Untracked) : Mirrors x x := by
  intro wt wu agree
  rw [agree.tracked_eq, untracked wu wt.tracker]
  exact ⟨rfl, rfl, agree.2⟩

theorem mirrors_pure (a : α) : Mirrors (pure a) (pure a) := mirrors_of_untracked (Api.untracked_pure a)

theorem quiet_pure (a : α) : Quiet (pure a : Api α) := ⟨a, fun _ => rfl⟩

theorem Mirrors.shadows {x x' : Api α} (mirrors : Mirrors x x') : Shadows x x' := fun wt wu agree =>
  ⟨.inl (mirrors wt wu agree).1, (mirrors wt wu agree).2⟩

theorem Mirrors.bind {x x' : Api α} {f f' : α → Api β} (first : Mirrors x x')
    (next : ∀ a, Mirrors (f a) (f' a)) : Mirrors (x >>= f) (x' >>= f') := by
  intro wt wu agree
  obtain ⟨same, agreeAfter⟩ := first wt wu agree
  rw [Api.run_bind, Api.run_bind]
  revert same agreeAfter
  rcases x.run wt with ⟨_ | a, afterT⟩ <;> rcases x'.run wu with ⟨_ | a', afterU⟩ <;>
    intro same agreeAfter <;> cases same
  · exact ⟨rfl, agreeAfter⟩
  · exact next a afterT afterU agreeAfter

/-- A sequence whose first parts mirror each other and whose second parts shadow each other. -/
theorem Mirrors.bind_shadows {x x' : Api α} {f f' : α → Api β} (first : Mirrors x x')
    (next : ∀ a, Shadows (f a) (f' a)) : Shadows (x >>= f) (x' >>= f') := by
  intro wt wu agree
  obtain ⟨same, agreeAfter⟩ := first wt wu agree
  rw [Api.run_bind, Api.run_bind]
  revert same agreeAfter
  rcases x.run wt with ⟨_ | a, afterT⟩ <;> rcases x'.run wu with ⟨_ | a', afterU⟩ <;>
    intro same agreeAfter <;> cases same
  · exact ⟨.inl rfl, agreeAfter⟩
  · exact next a afterT afterU agreeAfter

/-- When the tracking side raised the type error first, the other side goes on quietly. -/
theorem Shadows.bind_quiet {x x' : Api α} {f f' : α → Api β} (first : Shadows x x')
    (next : ∀ a, Mirrors (f a) (f' a)) (quiet : ∀ a, Quiet (f' a)) :
    Shadows (x >>= f) (x' >>= f') := by
  intro wt wu agree
  obtain ⟨answers, agreeAfter⟩ := first wt wu agree
  rw [Api.run_bind, Api.run_bind]
  revert answers agreeAfter
  rcases x.run wt with ⟨_ | a, afterT⟩ <;> rcases x'.run wu with ⟨_ | a', afterU⟩ <;>
    intro answers agreeAfter <;> dsimp only <;>
    obtain same | ⟨part, value, raised, returned⟩ := answers
  · cases same
    exact ⟨.inl rfl, agreeAfter⟩
  · cases returned
  · cases same
  · -- the tracking side raised the type error; the other side returned and goes on quietly
    cases raised
    obtain ⟨v, ran⟩ := quiet a'
    rw [ran]
    exact ⟨.inr ⟨part, v, rfl, rfl⟩, agreeAfter⟩
  · cases same
  · cases raised
  · cases same
    obtain ⟨same', agree'⟩ := next a afterT afterU agreeAfter
    exact ⟨.inl same', agree'⟩
  · cases raised

theorem Mirrors.map {x x' : Api α} (f : α → β) (mirrors : Mirrors x x') :
    Mirrors (f <$> x) (f <$> x') := by
  rw [map_eq_pure_bind, map_eq_pure_bind]
  exact mirrors.bind fun a => mirrors_pure (f a)

theorem Shadows.map {x x' : Api α} (f : α → β) (shadows : Shadows x x') :
    Shadows (f <$> x) (f <$> x') := by
  rw [map_eq_pure_bind, map_eq_pure_bind]
  exact shadows.bind_quiet (fun a => mirrors_pure (f a)) fun a => quiet_pure (f a)

section Leaves

variable (client : Client)

@[simp] theorem untrackedCloud_report (name : String) (tell : Api Unit) :
    (untrackedCloud client).report name tell = pure () := rfl

@[simp] theorem untrackedCloud_track (kind : String) (id : Value) :
    (untrackedCloud client).track kind id = pure () := rfl

@[simp] theorem untrackedCloud_untrack (kind : String) (id : Value) :
    (untrackedCloud client).untrack kind id = pure () := rfl

@[simp] theorem untrackedCloud_tracking : (untrackedCloud client).tracking = pure false := rfl

@[simp] theorem trackedCloud_tracking : (trackedCloud client).tracking = pure true := rfl

theorem keyable_of_hashable {id : Value} (hashable : id.unhashablePart? = none) :
    Ledger.keyable id = true := by
  simp [Ledger.keyable, hashable]

/-- Tracking an unhashable identifier raises the type error for its first such part. -/
theorem track_unhashable (world : World) (kind : String) {id part : Value}
    (unhashable : id.unhashablePart? = some part) :
    ((trackedCloud client).track kind id).run world = (.error (.unhashable part), world) := by
  have kindHashable : (Value.str kind).requireHashable = .ok () := rfl
  simp only [Cloud.track, Cloud.report, trackedCloud, Api.run_bind, Api.run_lift, Api.track,
    Api.run_get, Tracker.created, Tracker.checkPair, Cloud.requireHashable_unhashable unhashable,
    kindHashable, Except.ok_bind, Except.error_bind]

/-- Tracking a resource with a hashable identifier mirrors doing nothing. -/
theorem track_mirrors (kind : String) {id : Value} (hashable : id.unhashablePart? = none)
    (named : (Value.str kind).equals (.str "DomainRecord") = true → ∃ text, id = .str text) :
    Mirrors ((trackedCloud client).track kind id) ((untrackedCloud client).track kind id) := by
  intro wt wu agree
  rw [untrackedCloud_track, Api.run_pure, Cloud.track_keyable client wt kind
    (keyable_of_hashable hashable)]
  have texts : RecordsByText (Ledger.add wt.tracker.alive kind (.ok id)) :=
    agree.2.add kind fun isRecord _ made => by
      cases made
      exact named isRecord
  exact ⟨rfl, agree.1, texts⟩

/-- Telling the tracker of a resource shadows telling nothing. -/
theorem track_shadows (kind : String) (id : Value)
    (named : (Value.str kind).equals (.str "DomainRecord") = true → ∃ text, id = .str text) :
    Shadows ((trackedCloud client).track kind id) ((untrackedCloud client).track kind id) := by
  cases unhashable : id.unhashablePart? with
  | none => exact (track_mirrors client kind unhashable named).shadows
  | some part =>
    intro wt wu agree
    rw [untrackedCloud_track, Api.run_pure, track_unhashable client wt kind unhashable]
    exact ⟨.inr ⟨part, (), rfl, rfl⟩, agree⟩

/-- Telling the tracker of a deletion shadows telling nothing. -/
theorem untrack_shadows (kind : String) (id : Value) :
    Shadows ((trackedCloud client).untrack kind id) (pure ()) := by
  intro wt wu agree
  rw [Api.run_pure]
  cases unhashable : id.unhashablePart? with
  | none =>
    rw [Cloud.untrack_keyable client wt kind (keyable_of_hashable unhashable)]
    exact ⟨.inl rfl, agree.1, agree.2.of_subset fun _ member => List.mem_of_mem_eraseP member⟩
  | some part =>
    -- the identifier is looked at only while something is alive
    by_cases nothing : wt.tracker.alive = []
    · rw [Cloud.untrack_nothing_alive client wt kind nothing]
      exact ⟨.inl rfl, agree⟩
    · rw [Cloud.untrack_unhashable client wt kind unhashable nothing]
      exact ⟨.inr ⟨part, (), rfl, rfl⟩, agree⟩

/-- Forgetting the records under a domain's name mirrors doing nothing. -/
theorem forgetRecords_mirrors (name : Value) :
    Mirrors ((trackedCloud client).report "deleted_where" (Api.untrackWhere (.str "DomainRecord")
        fun id => id.startsWith (.str (name.plain ++ "/"))))
      ((untrackedCloud client).report "deleted_where" (Api.untrackWhere (.str "DomainRecord")
        fun id => id.startsWith (.str (name.plain ++ "/")))) := by
  intro wt wu agree
  rw [untrackedCloud_report, Api.run_pure, Cloud.forgetRecords_run client wt name agree.2]
  exact ⟨rfl, agree.1, agree.2.of_subset fun _ member => (List.mem_filter.mp member).1⟩

/-- A create call that posts, reads its record and tells the tracker of it. -/
theorem posted_shadows {γ : Type} (path body : Value) (key : String)
    (decode : Value → Except Fault γ) (kind : String) (idOf : γ → Value)
    (named : (Value.str kind).equals (.str "DomainRecord") = true →
      ∀ created, ∃ text, idOf created = .str text) :
    Shadows (do
        let reply ← (trackedCloud client).post path body
        let created ← Api.lift (decode (← Cloud.member reply key))
        (trackedCloud client).track kind (idOf created)
        pure created)
      (do
        let reply ← (untrackedCloud client).post path body
        let created ← Api.lift (decode (← Cloud.member reply key))
        (untrackedCloud client).track kind (idOf created)
        pure created) := by
  refine Mirrors.bind_shadows (mirrors_of_untracked ((trackedCloud client).untracked_post path body))
    fun reply => ?_
  refine Mirrors.bind_shadows (mirrors_of_untracked (Api.untracked_lift _)) fun data => ?_
  refine Mirrors.bind_shadows (mirrors_of_untracked (Api.untracked_lift _)) fun created => ?_
  exact (track_shadows client kind (idOf created) fun isRecord => named isRecord created).bind_quiet
    (fun _ => mirrors_pure created) fun _ => quiet_pure created

/-- A delete call that deletes and tells the tracker. -/
theorem deleted_shadows (path : Value) (kind : String) (id : Value) :
    Shadows (Cloud.nothing (do
        let _ ← (trackedCloud client).delete path
        (trackedCloud client).untrack kind id))
      (Cloud.nothing (do
        let _ ← (untrackedCloud client).delete path
        (untrackedCloud client).untrack kind id)) :=
  (Mirrors.bind_shadows (mirrors_of_untracked ((trackedCloud client).untracked_delete path .none))
    fun _ => untrack_shadows client kind id).bind_quiet (fun _ => mirrors_pure Value.none)
      fun _ => quiet_pure Value.none

/-- Untracking a hashable identifier mirrors doing nothing. -/
theorem untrack_mirrors (kind : String) {id : Value} (hashable : id.unhashablePart? = none) :
    Mirrors ((trackedCloud client).untrack kind id) (pure ()) := by
  intro wt wu agree
  rw [Api.run_pure, Cloud.untrack_keyable client wt kind (keyable_of_hashable hashable)]
  exact ⟨rfl, agree.1, agree.2.of_subset fun _ member => List.mem_of_mem_eraseP member⟩

/-- Two operations that end alike from every world and change nothing mirror each other. -/
theorem mirrors_of_runs {x x' : Api α} (outcome : Except Fault α)
    (ran : ∀ world, x.run world = (outcome, world)) (ran' : ∀ world, x'.run world = (outcome, world)) :
    Mirrors x x' := by
  intro wt wu agree
  rw [ran, ran']
  exact ⟨rfl, agree⟩

/-- A kind other than the records' names no record. -/
theorem named_other {γ : Type} {kind : String} (other : kind ≠ "DomainRecord") (idOf : γ → Value) :
    (Value.str kind).equals (.str "DomainRecord") = true →
      ∀ created, ∃ text, idOf created = .str text :=
  fun isRecord => absurd isRecord (by simp [other_kind other])

end Leaves

end Observer

namespace ServiceCall

/-- Whether a call deletes a key by a nonempty fingerprint, the one whose requests track. -/
def readsKeyFirst : ServiceCall → Bool
  | .mutation (.deleteKey (.str fingerprint)) => !fingerprint.isEmpty
  | _ => false

end ServiceCall

namespace Observer

open Ledger

section Calls

variable (client : Client)

theorem createFloatingIp_shadows (region dropletId : Value) :
    Shadows ((trackedCloud client).createFloatingIp region dropletId)
      ((untrackedCloud client).createFloatingIp region dropletId) := by
  unfold Cloud.createFloatingIp
  dsimp only
  -- the two targets are checked before any request
  split
  · exact Mirrors.bind_shadows (mirrors_of_untracked (Api.untracked_throw _)) fun _ =>
      posted_shadows client _ _ "floating_ip" FloatingIp.decode "FloatingIP" _
        (named_other (by decide) _)
  · exact posted_shadows client _ _ "floating_ip" FloatingIp.decode "FloatingIP" _
      (named_other (by decide) _)

theorem createDroplet_mirrors (name region size image sshKeys tags backups ipv6 userData wait : Value) :
    Mirrors
      ((trackedCloud client).createDroplet name region size image sshKeys tags backups ipv6 userData wait)
      ((untrackedCloud client).createDroplet name region size image sshKeys tags backups ipv6 userData
        wait) := by
  unfold Cloud.createDroplet
  refine (mirrors_of_untracked (Api.untracked_lift _)).bind fun body => ?_
  refine (mirrors_of_untracked ((trackedCloud client).untracked_post _ _)).bind fun reply => ?_
  refine (mirrors_of_untracked (Api.untracked_lift _)).bind fun data => ?_
  refine (mirrors_of_untracked (Api.untracked_lift _)).bind fun created => ?_
  -- a droplet is tracked under its number, which always keys a mapping
  refine (track_mirrors client "Droplet" rfl fun isRecord =>
    absurd isRecord (by simp [other_kind])).bind fun _ => ?_
  split
  · exact mirrors_pure created
  · exact mirrors_of_untracked (Api.untracked_bind (Api.untracked_lift _) fun _ =>
      Api.untracked_bind (Api.untracked_lift _) fun actions =>
        Api.untracked_bind (trackedCloud client).untracked_endpoint fun endpoint =>
          Api.untracked_bind (Waiter.untracked_waitForActions endpoint actions []) fun _ =>
            (trackedCloud client).untracked_fetch _ _ _)

theorem deleteDomain_shadows (name : Value) :
    Shadows (Cloud.nothing ((trackedCloud client).deleteDomain name))
      (Cloud.nothing ((untrackedCloud client).deleteDomain name)) := by
  refine Shadows.bind_quiet ?_ (fun _ => mirrors_pure Value.none) fun _ => quiet_pure Value.none
  refine Mirrors.bind_shadows (mirrors_of_untracked ((trackedCloud client).untracked_delete _ .none))
    fun _ => ?_
  exact (untrack_shadows client "Domain" name).bind_quiet (fun _ => forgetRecords_mirrors client name)
    fun _ => quiet_pure ()

/-- Deleting a key named by anything but a nonempty fingerprint: the key is not read first. -/
theorem deleteKey_shadows (address : Value)
    (direct : (ServiceCall.mutation (.deleteKey address)).readsKeyFirst = false) :
    Shadows (Cloud.nothing ((trackedCloud client).deleteKey address))
      (Cloud.nothing ((untrackedCloud client).deleteKey address)) := by
  refine Shadows.bind_quiet ?_ (fun _ => mirrors_pure Value.none) fun _ => quiet_pure Value.none
  unfold Cloud.deleteKey
  cases address
  case str fingerprint =>
    -- an empty fingerprint is refused before any request
    have empty : fingerprint = "" := by simpa [ServiceCall.readsKeyFirst] using direct
    subst empty
    exact (mirrors_of_runs (.error .emptyFingerprint) (fun _ => rfl) fun _ => rfl).shadows
  case int n =>
    simp only [pure_bind, trackedCloud_tracking, untrackedCloud_tracking, Bool.and_false,
      Bool.false_eq_true, if_false]
    refine Mirrors.bind_shadows (mirrors_of_untracked (Api.untracked_lift _)) fun address => ?_
    exact Mirrors.bind_shadows (mirrors_of_untracked ((trackedCloud client).untracked_delete _ .none))
      fun _ => untrack_shadows client "Key" (.int n)
  all_goals exact (mirrors_of_runs (.error (.keyAddressType _)) (fun _ => rfl) fun _ => rfl).shadows

/-- Every mutation but deleting a key by a nonempty fingerprint shadows itself untracked. -/
theorem mutation_shadows : ∀ call : Mutation,
    (ServiceCall.mutation call).readsKeyFirst = false →
      Shadows (call.run (trackedCloud client)) (call.run (untrackedCloud client))
  | .createKey .., _ => Shadows.map _
    (posted_shadows client _ _ "ssh_key" Key.decode "Key" _ (named_other (by decide) _))
  | .deleteKey address, direct => deleteKey_shadows client address direct
  | .createDroplet .., _ => (Mirrors.map _ (createDroplet_mirrors client _ _ _ _ _ _ _ _ _ _)).shadows
  | .deleteDroplet dropletId, _ => deleted_shadows client _ "Droplet" dropletId
  | .createFloatingIp region dropletId, _ =>
    Shadows.map _ (createFloatingIp_shadows client region dropletId)
  | .deleteFloatingIp ip, _ => deleted_shadows client _ "FloatingIP" ip
  | .createVolume .., _ => Shadows.map _
    (posted_shadows client _ _ "volume" Volume.decode "Volume" _ (named_other (by decide) _))
  | .deleteVolume volumeId, _ => deleted_shadows client _ "Volume" volumeId
  | .createSnapshot .., _ => Shadows.map _
    (posted_shadows client _ _ "snapshot" Snapshot.decode "Snapshot" _ (named_other (by decide) _))
  | .deleteSnapshot _, _ => deleted_shadows client _ "Snapshot" _
  | .createDomain .., _ => Shadows.map _
    (posted_shadows client _ _ "domain" Domain.decode "Domain" _ (named_other (by decide) _))
  | .deleteDomain name, _ => deleteDomain_shadows client name
  | .createDomainRecord .., _ => Shadows.map _
    (posted_shadows client _ _ "domain_record" DomainRecord.decode "DomainRecord" _
      fun _ _ => ⟨_, rfl⟩)
  | .deleteDomainRecord .., _ => deleted_shadows client _ "DomainRecord" _
  | .createTag _, _ => Shadows.map _
    (posted_shadows client _ _ "tag" Tag.decode "Tag" _ (named_other (by decide) _))
  | .deleteTag name, _ => deleted_shadows client _ "Tag" name

/-- Every call but deleting a key by fingerprint shadows itself; a query mirrors itself. -/
theorem call_shadows : ∀ call : ServiceCall, call.readsKeyFirst = false →
    Shadows (call.run (trackedCloud client)) (call.run (untrackedCloud client))
  | .query call, _ => by
    cases call <;> exact (mirrors_of_untracked (Query.untracked _ _)).shadows
  | .mutation call, direct => mutation_shadows client call direct

/-- Such calls, from agreeing worlds, answer call by call and end in agreeing worlds. -/
theorem runAll_shadows : ∀ calls : List ServiceCall, (∀ call ∈ calls, call.readsKeyFirst = false) →
    ∀ wt wu, Agree wt wu →
      List.Forall₂ Answers (ServiceCall.runAll (trackedCloud client) calls wt).1
          (ServiceCall.runAll (untrackedCloud client) calls wu).1 ∧
        Agree (ServiceCall.runAll (trackedCloud client) calls wt).2 (ServiceCall.runAll (untrackedCloud client) calls wu).2
  | [], _, _, _, agree => ⟨.nil, agree⟩
  | call :: rest, direct, wt, wu, agree => by
    obtain ⟨answers, agreeAfter⟩ :=
      call_shadows client call (direct call List.mem_cons_self) wt wu agree
    obtain ⟨later, agreeLast⟩ := runAll_shadows rest
      (fun other member => direct other (List.mem_cons_of_mem call member)) _ _ agreeAfter
    exact ⟨.cons answers later, agreeLast⟩

/-- The path of a key named by a nonempty fingerprint. -/
theorem keyPath_fingerprint {fingerprint : String} (nonempty : fingerprint ≠ "") :
    Cloud.keyPath (.str fingerprint) = .ok (.str ("/account/keys/" ++ fingerprint)) := by
  cases located : Cloud.keyPath (.str fingerprint) with
  | error fault => simp [Cloud.keyPath, nonempty] at located
  | ok path => rw [Cloud.keyPath_ok located, Value.plain_str]

section Fingerprint

variable {fingerprint : String} (nonempty : fingerprint ≠ "")
include nonempty

/-- Deleting a key by fingerprint while tracking reads it, then deletes it at its path. -/
theorem deleteKey_tracked_run (world : World) :
    ((Mutation.deleteKey (.str fingerprint)).run (trackedCloud client)).run world =
      match ((trackedCloud client).key (.str fingerprint)).run world with
      | (.ok key, after) => (Cloud.nothing (do
          let _ ← (trackedCloud client).delete (.str ("/account/keys/" ++ fingerprint))
          (trackedCloud client).untrack "Key" (.int key.id))).run after
      | (.error fault, after) => (.error fault, after) := by
  simp only [Mutation.run, Cloud.nothing, Cloud.deleteKey, keyPath_fingerprint nonempty,
    Api.lift_ok, pure_bind, trackedCloud_tracking, Bool.true_and, if_true, Api.run_bind,
    @Cloud.keyId_own (trackedCloud client) rfl, Api.run_map]
  rcases ((trackedCloud client).key (.str fingerprint)).run world with ⟨_ | key, after⟩ <;> rfl

/-- Without a tracker the key is not read: the deletion is sent at once. -/
theorem deleteKey_untracked :
    (Mutation.deleteKey (.str fingerprint)).run (untrackedCloud client) =
      Cloud.nothing (do
        let _ ← (untrackedCloud client).delete (.str ("/account/keys/" ++ fingerprint))
        (untrackedCloud client).untrack "Key" (.str fingerprint)) := by
  simp only [Mutation.run, Cloud.deleteKey, keyPath_fingerprint nonempty, Api.lift_ok, pure_bind,
    untrackedCloud_tracking, Bool.false_and, Bool.false_eq_true, if_false]

/-- Reading a key by a nonempty fingerprint sends one GET at its path. -/
theorem key_read_world (world : World) :
    (((trackedCloud client).key (.str fingerprint)).run world).2 =
      world.record (client.exchangeOf (.str "GET") ("/account/keys/" ++ fingerprint)
        [("params", .none)]) := by
  simp only [@Cloud.key_through (trackedCloud client) rfl, keyPath_fingerprint nonempty,
    Api.lift_ok, pure_bind]
  rw [Cloud.fetch_run]

end Fingerprint

/-- Deleting a key at a path, forgotten by its number, mirrors the untracked deletion. -/
theorem deleteKeyAt_mirrors (path : Value) (number : Int) (name : Value) :
    Mirrors (Cloud.nothing (do
        let _ ← (trackedCloud client).delete path
        (trackedCloud client).untrack "Key" (.int number)))
      (Cloud.nothing (do
        let _ ← (untrackedCloud client).delete path
        (untrackedCloud client).untrack "Key" name)) :=
  ((mirrors_of_untracked ((trackedCloud client).untracked_delete _ .none)).bind fun _ =>
    untrack_mirrors client "Key" rfl).bind fun _ => mirrors_pure Value.none

/-- Deleting a key by a nonempty fingerprint while tracking reads it, then goes on untracked. -/
theorem deleteKey_by_fingerprint {fingerprint : String} (nonempty : fingerprint ≠ "")
    (world : World) (texts : RecordsByText world.tracker.alive) :
    let read := ((trackedCloud client).key (.str fingerprint)).run world
    let deleting := ((Mutation.deleteKey (.str fingerprint)).run (trackedCloud client)).run world
    let deleted := ((Mutation.deleteKey (.str fingerprint)).run (untrackedCloud client)).run read.2
    read.2 = world.record
        (client.exchangeOf (.str "GET") ("/account/keys/" ++ fingerprint) [("params", .none)]) ∧
      (∀ fault, read.1 = .error fault → deleting = (.error fault, read.2)) ∧
      (∀ key, read.1 = .ok key →
        deleting.1 = deleted.1 ∧ { deleting.2 with tracker := deleted.2.tracker } = deleted.2) := by
  have readWorld := key_read_world client nonempty world
  dsimp only
  rw [deleteKey_tracked_run client nonempty, deleteKey_untracked client nonempty]
  rcases read : ((trackedCloud client).key (.str fingerprint)).run world with ⟨_ | key, after⟩ <;>
    rw [read] at readWorld <;> dsimp only at readWorld
  · -- the read failed, and its fault is what the call raises
    refine ⟨readWorld, ?_, ?_⟩
    · intro fault failed
      cases failed
      rfl
    · intro key found
      cases found
  · -- the read leaves the tracker as it was, so the two deletions start from agreeing worlds
    have kept : after.tracker = world.tracker := by
      rw [readWorld]
      rfl
    refine ⟨readWorld, ?_, ?_⟩
    · intro fault failed
      cases failed
    intro key' found
    cases found
    obtain ⟨same, agreeAfter⟩ := deleteKeyAt_mirrors client _ key.id (.str fingerprint) after after
      ⟨rfl, kept ▸ texts⟩
    exact ⟨same, agreeAfter.1⟩

end Calls

/-- The tracker observes calls without changing what they send: the same requests and replies,
the same outcomes but type errors on unhashable identifiers; deleting by fingerprint reads first. -/
theorem tracker_observes_calls (client : Client) (calls : List ServiceCall) (world : World)
    (texts : RecordsByText world.tracker.alive)
    (direct : ∀ call ∈ calls, call.readsKeyFirst = false) :
    let tracked := ServiceCall.runAll (trackedCloud client) calls world
    let plain := ServiceCall.runAll (untrackedCloud client) calls world
    ({ tracked.2 with tracker := plain.2.tracker } = plain.2 ∧
      List.Forall₂ Answers tracked.1 plain.1) ∧
    ∀ fingerprint : String, fingerprint ≠ "" →
      let read := ((trackedCloud client).key (.str fingerprint)).run world
      let deleting := ((Mutation.deleteKey (.str fingerprint)).run (trackedCloud client)).run world
      let deleted := ((Mutation.deleteKey (.str fingerprint)).run (untrackedCloud client)).run read.2
      read.2 = world.record
          (client.exchangeOf (.str "GET") ("/account/keys/" ++ fingerprint) [("params", .none)]) ∧
        (∀ fault, read.1 = .error fault → deleting = (.error fault, read.2)) ∧
        (∀ key, read.1 = .ok key →
          deleting.1 = deleted.1 ∧ { deleting.2 with tracker := deleted.2.tracker } = deleted.2) := by
  intro tracked plain
  obtain ⟨answers, agree⟩ := runAll_shadows client calls direct world world ⟨rfl, texts⟩
  exact ⟨⟨agree.1, answers⟩, fun _ nonempty => deleteKey_by_fingerprint client nonempty world texts⟩

/-- A volume deleted under an empty list while another is tracked: a type error when tracking. -/
theorem tracker_observes_calls_unhashable_volume :
    let client : Client := { baseUrl := "https://api.digitalocean.com/v2", timeout := .int 30 }
    let world : World :=
      { replies := [.response (.int 204) .none [] []], tracker := ⟨[(.str "Volume", .str "v")]⟩ }
    let calls : List ServiceCall := [.mutation (.deleteVolume (.list []))]
    RecordsByText world.tracker.alive ∧ (∀ call ∈ calls, call.readsKeyFirst = false) ∧
      List.Forall₂ Answers (ServiceCall.runAll (trackedCloud client) calls world).1
        (ServiceCall.runAll (untrackedCloud client) calls world).1 := by
  intro client world calls
  have noRecords : RecordsByText world.tracker.alive := by
    simp [RecordsByText, world, Value.equals_str]
  have direct : ∀ call ∈ calls, call.readsKeyFirst = false := by
    simp [calls, ServiceCall.readsKeyFirst]
  exact ⟨noRecords, direct, (tracker_observes_calls client calls world noRecords direct).1.2⟩

/-- While a volume is tracked, deleting one under an empty list raises only when tracking. -/
theorem tracked_delete_raises_for_unhashable_id :
    let client : Client := { baseUrl := "https://api.digitalocean.com/v2", timeout := .int 30 }
    let world : World :=
      { replies := [.response (.int 204) .none [] []], tracker := ⟨[(.str "Volume", .str "v")]⟩ }
    let call : ServiceCall := .mutation (.deleteVolume (.list []))
    ((call.run (trackedCloud client)).run world).1 = .error (.unhashable (.list [])) ∧
      ((call.run (untrackedCloud client)).run world).1 = .ok .none := by
  intro client world call
  have answered : ((client.delete (Cloud.path [.str "/volumes/", .list []])).run world).1 =
      .ok .none := by
    rw [Cloud.path, Client.delete_answer]
    simp [Ledger.answerTo, world, World.nextReply, Client.outcome, Client.isFailure,
      Value.equals_int, pure, Except.pure]
  have plainDelete : (untrackedCloud client).delete (Cloud.path [.str "/volumes/", .list []]) =
      client.delete (Cloud.path [.str "/volumes/", .list []]) := rfl
  simp only [call, ServiceCall.run, Mutation.run, Cloud.nothing, Cloud.deleteVolume, Api.run_bind,
    Cloud.trackedCloud_delete, plainDelete, untrackedCloud_untrack]
  rcases ran : (client.delete (Cloud.path [.str "/volumes/", .list []])).run world with
    ⟨_ | v, after⟩
  · rw [ran] at answered
    cases answered
  · -- the deletion leaves the tracked volume alive, so the tracker looks at the identifier
    have kept := (client.untracked_delete _ .none).tracker_after ran
    have something : after.tracker.alive ≠ [] := by simp [kept, world]
    have unhashable : (Value.list []).unhashablePart? = some (.list []) := rfl
    dsimp only
    rw [Cloud.untrack_unhashable client after "Volume" unhashable something]
    exact ⟨rfl, rfl⟩

end Observer

end CloudClient

import CloudClient.Proofs.Canonical
import CloudClient.Proofs.Run
import CloudClient.Service.Dispatch
import Mathlib.Data.List.Nodup

namespace CloudClient

namespace Tracker

/-- A pair of a kind and an identifier that both have canonical forms. -/
abbrev KeyedPair := Value.Keyed × Value.Keyed

namespace KeyedPair

/-- The canonical form of a keyed pair. -/
def form (pair : KeyedPair) : Value.Canon × Value.Canon := (pair.1.form, pair.2.form)

/-- The payload values of a keyed pair. -/
def values (pair : KeyedPair) : Value × Value := (pair.1.val, pair.2.val)

/-- Two keyed pairs are the same resource exactly when they have one form. -/
theorem same_iff (a b : KeyedPair) : same a.values b.values = true ↔ a.form = b.form := by
  simp [same, values, form, Value.Keyed.equals_iff]

/-- The tracker accepts every keyed pair. -/
theorem checkPair_ok (pair : KeyedPair) : checkPair pair.1.val pair.2.val = .ok () := by
  simp [checkPair, Value.requireHashable, Value.unhashablePart?_of_canon pair.1.canon_eq,
    Value.unhashablePart?_of_canon pair.2.canon_eq]

end KeyedPair

/-- An insertion-ordered set of keyed pairs: no two members have one canonical form. -/
structure PairSet where
  members : List KeyedPair
  distinct : (members.map KeyedPair.form).Nodup

namespace PairSet

/-- The set with no members. -/
def empty : PairSet := ⟨[], List.nodup_nil⟩

/-- The members as payload pairs, oldest first. -/
def values (s : PairSet) : List (Value × Value) := s.members.map KeyedPair.values

/-- The set of some of the members, in their order. -/
def keeping (s : PairSet) (kept : List KeyedPair) (sub : kept.Sublist s.members) : PairSet :=
  ⟨kept, (sub.map _).nodup s.distinct⟩

/-- Adds a pair unless a member has its form; that member then keeps its place and form. -/
def insert (s : PairSet) (pair : KeyedPair) : PairSet :=
  if present : pair.form ∈ s.members.map KeyedPair.form then s
  else ⟨s.members ++ [pair], by
    rw [List.map_append, List.nodup_append]
    refine ⟨s.distinct, List.nodup_singleton _, ?_⟩
    intro a member b single same
    simp only [List.map_cons, List.map_nil, List.mem_singleton] at single
    exact present (single ▸ same ▸ member)⟩

/-- Removes the member with a pair's form, if there is one. -/
def erase (s : PairSet) (pair : KeyedPair) : PairSet :=
  s.keeping (s.members.filter fun member => member.form ≠ pair.form) List.filter_sublist

/-- Whether a member is of a kind. -/
def ofKind (kind : Value.Keyed) (member : KeyedPair) : Bool := member.1.form = kind.form

/-- The fault a condition raises on a member's identifier, if it raises one. -/
def failure? (condition : Value → Except Fault Bool) (member : KeyedPair) : Option Fault :=
  match condition member.2.val with
  | .error fault => some fault
  | .ok _ => none

/-- Whether a condition holds of a member's identifier. -/
def holds (condition : Value → Except Fault Bool) (member : KeyedPair) : Bool :=
  match condition member.2.val with
  | .ok answer => answer
  | .error _ => false

/-- Whether deleting by a condition goes past a member: unless of the kind, failing it. -/
def passes (kind : Value.Keyed) (condition : Value → Except Fault Bool) (member : KeyedPair) :
    Bool :=
  !(ofKind kind member && (failure? condition member).isSome)

/-- Removes a kind's members satisfying a condition, in order, stopping at its first fault. -/
def eraseWhere (s : PairSet) (kind : Value.Keyed) (condition : Value → Except Fault Bool) :
    PairSet × Option Fault :=
  let visited := s.members.takeWhile (passes kind condition)
  let rest := s.members.dropWhile (passes kind condition)
  (s.keeping (visited.filter (fun member => !(ofKind kind member && holds condition member)) ++ rest)
      (by
        have whole : visited ++ rest = s.members := List.takeWhile_append_dropWhile
        exact whole ▸ List.filter_sublist.append (List.Sublist.refl rest)),
    rest.head?.bind (failure? condition))

/-- The tracker holding a set's members. -/
def tracker (s : PairSet) : Tracker := ⟨s.values⟩

/-- No two of a set's pairs are the same resource. -/
theorem values_pairwise_distinct (s : PairSet) :
    s.values.Pairwise (fun a b => same a b = false) := by
  have distinct : s.members.Pairwise (fun a b => a.form ≠ b.form) := List.pairwise_map.mp s.distinct
  rw [values, List.pairwise_map]
  refine distinct.imp fun differ => ?_
  simpa [← Bool.not_eq_true, KeyedPair.same_iff] using differ

theorem any_same_iff (s : PairSet) (pair : KeyedPair) :
    s.values.any (same pair.values) = true ↔ pair.form ∈ s.members.map KeyedPair.form := by
  simp only [values, List.any_map, List.any_eq_true, Function.comp_apply, KeyedPair.same_iff,
    List.mem_map]
  exact ⟨fun ⟨m, mem, same⟩ => ⟨m, mem, same.symm⟩, fun ⟨m, mem, same⟩ => ⟨m, mem, same.symm⟩⟩

/-- Creating a keyed pair on the tracker of a set gives the tracker of the set with it added. -/
theorem created_tracker (s : PairSet) (pair : KeyedPair) :
    s.tracker.created pair.1.val pair.2.val = .ok (s.insert pair).tracker := by
  rw [created, KeyedPair.checkPair_ok, Except.ok_bind]
  by_cases present : pair.form ∈ s.members.map KeyedPair.form
  · have found : s.tracker.alive.any (same (pair.1.val, pair.2.val)) = true :=
      (any_same_iff s pair).mpr present
    rw [if_pos found, insert, dif_pos present]
    rfl
  · have absent : ¬s.tracker.alive.any (same (pair.1.val, pair.2.val)) = true :=
      fun found => present ((any_same_iff s pair).mp found)
    rw [if_neg absent, insert, dif_neg present]
    simp [tracker, values, KeyedPair.values, pure, Except.pure]

/-- Removing the first pair that is the same resource removes the one member of its form. -/
theorem removeFirst_values (pair : KeyedPair) :
    ∀ members : List KeyedPair, (members.map KeyedPair.form).Nodup →
      removeFirst pair.values (members.map KeyedPair.values) =
        (members.filter fun member => member.form ≠ pair.form).map KeyedPair.values
  | [] => fun _ => rfl
  | member :: rest => fun distinct => by
    obtain ⟨fresh, distinctRest⟩ := List.nodup_cons.mp distinct
    by_cases hit : member.form = pair.form
    · -- no later member has the form of the one removed
      have others : rest.filter (fun m => !decide (m.form = pair.form)) = rest := by
        refine List.filter_eq_self.mpr fun m mem => ?_
        have differ : m.form ≠ member.form := fun same => fresh (List.mem_map.mpr ⟨m, mem, same⟩)
        simpa [← hit] using differ
      simp [removeFirst, KeyedPair.same_iff, hit, others]
    · simp [removeFirst, KeyedPair.same_iff, hit, removeFirst_values pair rest distinctRest]

/-- Deleting a keyed pair on the tracker of a set gives the tracker of the set without it. -/
theorem deleted_tracker (s : PairSet) (pair : KeyedPair) :
    s.tracker.deleted pair.1.val pair.2.val = .ok (s.erase pair).tracker := by
  rw [deleted_of_checked _ (KeyedPair.checkPair_ok pair)]
  show Except.ok ({ alive := removeFirst pair.values s.values } : Tracker) =
    Except.ok { alive := (s.erase pair).values }
  rw [values, removeFirst_values pair s.members s.distinct]
  rfl

/-- Dropping by a condition from the members' pairs visits them as `eraseWhere` says. -/
theorem dropWhere_values (kind : Value.Keyed) (condition : Value → Except Fault Bool) :
    ∀ members : List KeyedPair,
      dropWhere kind.val condition (members.map KeyedPair.values) =
        (((members.takeWhile (passes kind condition)).filter
              (fun member => !(ofKind kind member && holds condition member)) ++
            members.dropWhile (passes kind condition)).map KeyedPair.values,
          (members.dropWhile (passes kind condition)).head?.bind (failure? condition))
  | [] => rfl
  | member :: rest => by
    have later := dropWhere_values kind condition rest
    have kindIff : member.1.val.equals kind.val = ofKind kind member :=
      Bool.eq_iff_iff.mpr (by rw [Value.Keyed.equals_iff]; simp [ofKind])
    cases ofKindHit : ofKind kind member with
    | false =>
      have past : passes kind condition member = true := by simp [passes, ofKindHit]
      simp [dropWhere, KeyedPair.values, kindIff, ofKindHit, past, later]
    | true =>
      cases answer : condition member.2.val with
      | error fault =>
        -- the condition fails on a member of the kind: the visit stops there
        have stop : passes kind condition member = false := by
          simp [passes, ofKindHit, failure?, answer]
        simp [dropWhere, KeyedPair.values, kindIff, ofKindHit, answer, stop, failure?]
      | ok holdsHere =>
        have past : passes kind condition member = true := by
          simp [passes, ofKindHit, failure?, answer]
        cases holdsHere <;>
          simp [dropWhere, KeyedPair.values, kindIff, ofKindHit, answer, past, later, holds]

/-- Deleting by a condition on a set's tracker gives the tracker of what `eraseWhere` keeps. -/
theorem deletedWhere_tracker (s : PairSet) (kind : Value.Keyed)
    (condition : Value → Except Fault Bool) :
    s.tracker.deletedWhere kind.val condition =
      ((s.eraseWhere kind condition).1.tracker, (s.eraseWhere kind condition).2) := by
  simp only [deletedWhere, tracker, values, dropWhere_values]
  rfl

end PairSet

/-- A call on the tracker whose kinds and identifiers all have canonical forms. -/
inductive Call where
  | created (pair : KeyedPair)
  | deleted (pair : KeyedPair)
  | deletedWhere (kind : Value.Keyed) (condition : Value → Except Fault Bool)

namespace Call

/-- The operation that makes a call on the world's tracker. -/
def perform : Call → Api Unit
  | .created pair => Api.track pair.1.val pair.2.val
  | .deleted pair => Api.untrack pair.1.val pair.2.val
  | .deletedWhere kind condition => Api.untrackWhere kind.val condition

/-- What a call does to a set: how it ends, and the set after it. -/
def onSet : Call → PairSet → Except Fault Unit × PairSet
  | .created pair, s => (.ok (), s.insert pair)
  | .deleted pair, s => (.ok (), s.erase pair)
  | .deletedWhere kind condition, s =>
    match s.eraseWhere kind condition with
    | (kept, some fault) => (.error fault, kept)
    | (kept, none) => (.ok (), kept)

/-- A call on a world whose tracker holds a set ends as the call on the set. -/
theorem perform_run (call : Call) (s : PairSet) (world : World) (holding : world.tracker = s.tracker) :
    call.perform.run world = ((call.onSet s).1, { world with tracker := (call.onSet s).2.tracker }) := by
  cases call with
  | created pair =>
    simp [perform, onSet, Api.track, Api.run_bind, holding, PairSet.created_tracker]
  | deleted pair =>
    simp [perform, onSet, Api.untrack, Api.run_bind, holding, PairSet.deleted_tracker]
  | deletedWhere kind condition =>
    simp only [perform, onSet, Api.untrackWhere, Api.run_bind, Api.run_get, holding,
      PairSet.deletedWhere_tracker, Api.run_set]
    rcases s.eraseWhere kind condition with ⟨kept, _ | fault⟩ <;> rfl

end Call

/-- Makes calls one after another, raised or not: how each ended, and the last world. -/
def performAll : List Call → World → List (Except Fault Unit) × World
  | [], world => ([], world)
  | call :: rest, world =>
    let (outcome, after) := call.perform.run world
    let (outcomes, final) := performAll rest after
    (outcome :: outcomes, final)

/-- Makes calls one after another on a set: how each ended, and the last set. -/
def onSetAll : List Call → PairSet → List (Except Fault Unit) × PairSet
  | [], s => ([], s)
  | call :: rest, s =>
    let (outcome, after) := call.onSet s
    let (outcomes, final) := onSetAll rest after
    (outcome :: outcomes, final)

theorem performAll_run : ∀ (calls : List Call) (s : PairSet) (world : World),
    world.tracker = s.tracker →
      performAll calls world = ((onSetAll calls s).1, { world with tracker := (onSetAll calls s).2.tracker })
  | [], s, world, holding => by simp [performAll, onSetAll, ← holding]
  | call :: rest, s, world, holding => by
    rw [performAll, call.perform_run s world holding]
    dsimp only
    rw [performAll_run rest (call.onSet s).2 _ rfl]
    simp [onSetAll]

theorem reportLines_isEmpty (t : Tracker) : t.reportLines.isEmpty = t.alive.isEmpty := by
  unfold reportLines
  split <;> simp_all

/-- The tracker refines an insertion-ordered set of keyed pairs: every call ends as on the set,
no two pairs left are the same resource, and the report lists them oldest first. -/
theorem tracker_refines_ordered_set (calls : List Call) (s : PairSet) (world : World) :
    let run := performAll calls { world with tracker := s.tracker }
    let built := onSetAll calls s
    run = (built.1, { world with tracker := built.2.tracker }) ∧
    run.2.tracker.leftovers = built.2.values ∧
    run.2.tracker.leftovers.Pairwise (fun a b => same a b = false) ∧
    Cloud.reportLeftovers.run run.2 =
      (.ok (.bool !built.2.values.isEmpty),
        { run.2 with lines := run.2.lines ++
          if built.2.values.isEmpty then []
          else "quitting! the following resources were created" ::
            built.2.values.map fun (kind, id) => "- " ++ kind.plain ++ ": " ++ id.plain }) := by
  intro run built
  have ran : run = (built.1, { world with tracker := built.2.tracker }) :=
    performAll_run calls s _ rfl
  have left : run.2.tracker.leftovers = built.2.values := by rw [ran]; rfl
  refine ⟨ran, left, left ▸ built.2.values_pairwise_distinct, ?_⟩
  have reported : Cloud.reportLeftovers.run run.2 =
      (.ok (.bool !run.2.tracker.reportLines.isEmpty),
        { run.2 with lines := run.2.lines ++ run.2.tracker.reportLines }) := rfl
  rw [reported, reportLines_isEmpty]
  rw [ran]
  rfl

-- `1` and `True` are one identifier, and the form created first is the one reported
example : (performAll [.created (⟨.str "Droplet", rfl⟩, ⟨.int 1, rfl⟩),
    .created (⟨.str "Droplet", rfl⟩, ⟨.bool true, rfl⟩)] {}).2.tracker.reportLines =
      ["quitting! the following resources were created", "- Droplet: 1"] := by
  decide +kernel

end Tracker

end CloudClient

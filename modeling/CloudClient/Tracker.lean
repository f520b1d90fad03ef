import CloudClient.Api.Script
import CloudClient.Value.Coerce

namespace CloudClient

namespace Tracker

/-- Whether two pairs are the same resource. -/
def same (a b : Value × Value) : Bool := a.1.equals b.1 && a.2.equals b.2

/-- The fault of a pair that cannot key a mapping, if any: the kind is checked first. -/
def checkPair (kind id : Value) : Except Fault Unit := do
  Value.requireHashable kind
  Value.requireHashable id

/-- Records a created resource; a resource already alive keeps its place and form. -/
def created (tracker : Tracker) (kind id : Value) : Except Fault Tracker := do
  checkPair kind id
  if tracker.alive.any (same (kind, id)) then pure tracker
  else pure { alive := tracker.alive ++ [(kind, id)] }

/-- Removes the first pair that is the same resource. -/
def removeFirst (pair : Value × Value) : List (Value × Value) → List (Value × Value)
  | [] => []
  | head :: rest => if same head pair then rest else head :: removeFirst pair rest

/-- Forgets a deleted resource; an empty tracker answers without hashing the pair. -/
def deleted (tracker : Tracker) (kind id : Value) : Except Fault Tracker := do
  if tracker.alive.isEmpty then return tracker
  checkPair kind id
  pure { alive := removeFirst (kind, id) tracker.alive }

theorem deleted_nil (kind id : Value) : Tracker.deleted ⟨[]⟩ kind id = .ok ⟨[]⟩ := rfl

theorem deleted_of_ne_nil {tracker : Tracker} (alive : tracker.alive ≠ []) (kind id : Value) :
    tracker.deleted kind id = (do
      checkPair kind id
      pure { alive := removeFirst (kind, id) tracker.alive }) := by
  simp [deleted, List.isEmpty_iff, alive]

/-- A hashable pair is forgotten by removing the first same pair. -/
theorem deleted_of_checked (tracker : Tracker) {kind id : Value}
    (checked : checkPair kind id = .ok ()) :
    tracker.deleted kind id = .ok { alive := removeFirst (kind, id) tracker.alive } := by
  rcases tracker with ⟨_ | ⟨head, rest⟩⟩
  · rfl
  · rw [deleted_of_ne_nil (List.cons_ne_nil head rest), checked]
    rfl

/-- Drops the pairs of a kind satisfying a condition, in order, stopping at its first fault. -/
def dropWhere (kind : Value) (condition : Value → Except Fault Bool) :
    List (Value × Value) → List (Value × Value) × Option Fault
  | [] => ([], Option.none)
  | pair :: rest =>
    if pair.1.equals kind then
      match condition pair.2 with
      | .error fault => (pair :: rest, some fault)
      | .ok true => dropWhere kind condition rest
      | .ok false =>
        let (kept, fault) := dropWhere kind condition rest
        (pair :: kept, fault)
    else
      let (kept, fault) := dropWhere kind condition rest
      (pair :: kept, fault)

/-- Forgets every resource of a kind whose identifier satisfies a condition. -/
def deletedWhere (tracker : Tracker) (kind : Value) (condition : Value → Except Fault Bool) :
    Tracker × Option Fault :=
  let (kept, fault) := dropWhere kind condition tracker.alive
  ({ alive := kept }, fault)

/-- The resources still alive, oldest first. -/
def leftovers (tracker : Tracker) : List (Value × Value) := tracker.alive

/-- The lines that report the resources still alive; none when nothing is alive. -/
def reportLines (tracker : Tracker) : List String :=
  if tracker.alive.isEmpty then []
  else "quitting! the following resources were created" ::
    tracker.alive.map fun (kind, id) => "- " ++ kind.plain ++ ": " ++ id.plain

end Tracker

namespace Api

/-- Records a created resource in the world's tracker. -/
def track (kind id : Value) : Api Unit := do
  let world ← get
  let tracker ← Api.lift (world.tracker.created kind id)
  set { world with tracker }

/-- Forgets a deleted resource in the world's tracker. -/
def untrack (kind id : Value) : Api Unit := do
  let world ← get
  let tracker ← Api.lift (world.tracker.deleted kind id)
  set { world with tracker }

/-- Forgets the resources of a kind whose identifier satisfies a condition. -/
def untrackWhere (kind : Value) (condition : Value → Except Fault Bool) : Api Unit := do
  let world ← get
  let (tracker, fault) := world.tracker.deletedWhere kind condition
  set { world with tracker }
  match fault with
  | some failure => throw failure
  | Option.none => pure ()

end Api

end CloudClient

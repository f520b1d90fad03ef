import CloudClient.Api.Endpoint
import CloudClient.Record.Property

namespace CloudClient

namespace Waiter

/-- The parameters of a wait for one action. -/
def signature : Signature where
  callee := "wait_for_action"
  parameters :=
    [Signature.required "api", Signature.required "action_id",
      Signature.optional "base" (.float 4), Signature.optional "cap" (.float 30),
      Signature.optional "factor" (.float 1.5), Signature.optional "timeout" (.float 600)]

/-- The text of the error of an action that ended in the errored state. -/
def erroredText (action : Action) : String :=
  "action " ++ toString action.id ++ " (" ++ action.type.plain ++ ") on " ++
    action.resourceType.plain ++ " " ++ toString action.resourceId ++ " errored"

/-- Polls an action once. -/
def poll (endpoint : Endpoint) (actionId : Value) : Api Action := do
  let body := (← endpoint.get (.str ("/actions/" ++ actionId.plain))).orElse (.dict [])
  let action ← Api.lift (Action.decode (← Api.lift (body.get (.str "action") (.dict []))))
  if action.status.equals (.str "errored") then throw (.actionErrored (erroredText action))
  pure action

/-- A backoff parameter compared with zero before a sleep: a number passes, others have no order. -/
def checkBackoff (parameter : Value) : Except Fault Unit :=
  match parameter with
  | .int _ | .float _ | .bool _ => .ok ()
  | other => .error (.unorderable ">" other (.int 0))

/-- Polls until the action is done, computing each sleep before looking at the timeout. -/
def pollUntilDone (endpoint : Endpoint) (actionId : Value) (multiplier factor : Value)
    (givesUp : Bool) : Nat → Api Action
  | 0 => throw (.actionTimedOut actionId)
  | fuel + 1 => do
    let action ← poll endpoint actionId
    if action.isDone then pure action
    else
      Api.lift (checkBackoff multiplier)
      Api.lift (checkBackoff factor)
      if givesUp then throw (.actionTimedOut actionId)
      else pollUntilDone endpoint actionId multiplier factor givesUp fuel

/-- Waits for an action with the given backoff ceiling and timeout. -/
def waitForAction (endpoint : Endpoint) (actionId : Value) (base cap factor timeout : Value) :
    Api Action := do
  let _ ← Api.lift cap.toFloat
  let seconds ← Api.lift timeout.toFloat
  -- every poll takes a reply and one with no reply left fails, so this fuel is never exhausted
  let fuel := (← get).replies.length + 1
  pollUntilDone endpoint actionId base factor (seconds ≤ 0) fuel

/-- Waits for an action, with arguments bound as a call. -/
def waitCall (endpoint : Endpoint) (positional : List Value) (keywords : List (String × Value)) :
    Api Action := do
  let binding ← Api.lift (signature.bind positional keywords)
  waitForAction endpoint (binding.arg 1) (binding.arg 2) (binding.arg 3) (binding.arg 4)
    (binding.arg 5)

/-- Waits for every action that a list of links names by its `id`, in order. -/
def waitForActions (endpoint : Endpoint) (links : Value) (keywords : List (String × Value)) :
    Api (List Action) := do
  let items ← Api.lift (links.orElse (.list [])).members
  items.mapM fun link => do
    let actionId ← Api.lift (link.index "id")
    waitCall endpoint [.none, actionId] keywords

end Waiter

end CloudClient

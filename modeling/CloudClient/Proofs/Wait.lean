import CloudClient.Waiter
import CloudClient.Proofs.Request

namespace CloudClient

namespace World

/-- The world after one request was sent `count` times, each time taking the next reply. -/
def sendTimes (world : World) (request : Exchange) (count : Nat) : World :=
  { world with sent := world.sent ++ List.replicate count request,
               replies := world.replies.drop count }

theorem sendTimes_one (world : World) (request : Exchange) :
    world.sendTimes request 1 = world.record request := rfl

theorem sendTimes_succ (world : World) (request : Exchange) (count : Nat) :
    world.sendTimes request (count + 1) = (world.record request).sendTimes request count := by
  simp only [sendTimes, record, List.replicate_succ, List.drop_drop, List.append_assoc,
    List.singleton_append, Nat.add_comm 1 count]

end World

namespace Waiter

/-- The path an action is polled at. -/
def actionPath (actionId : Value) : String := "/actions/" ++ actionId.plain

/-- The address a client polls an action at. -/
def pollAddress (client : Client) (actionId : Value) : String := client.address (actionPath actionId)

/-- The request of one poll through a client. -/
def pollRequest (client : Client) (actionId : Value) : Exchange :=
  client.exchangeOf (.str "GET") (actionPath actionId) [("params", .none)]

/-- The action a poll's reply holds under `action`, or the fault of reading it. -/
def polledAction (address : String) (reply : Reply) : Except Fault Action := do
  let body ← Client.outcome (.str "GET") address reply
  Action.decode (← (body.orElse (.dict [])).get (.str "action") (.dict []))

/-- What one poll finds. -/
inductive Verdict where
  | failed (fault : Fault)
  | errored (action : Action)
  | done (action : Action)
  | running (action : Action)

/-- The verdict of a poll on a reply; the errored state is looked at before completion. -/
def verdict (address : String) (reply : Reply) : Verdict :=
  match polledAction address reply with
  | .error fault => .failed fault
  | .ok action =>
    if action.status.equals (.str "errored") then .errored action
    else if action.isDone then .done action
    else .running action

namespace Verdict

/-- Whether a poll found the action still running. -/
def isRunning : Verdict → Bool
  | .running _ => true
  | _ => false

/-- What a poll answers: the fault it met, an errored action's error, or the action it read. -/
def polled : Verdict → Except Fault Action
  | .failed fault => .error fault
  | .errored action => .error (.actionErrored (erroredText action))
  | .done action | .running action => .ok action

end Verdict

/-- The replies to the polls that find the action running, before the one that ends the wait. -/
def runningPrefix (address : String) (replies : List Reply) : List Reply :=
  replies.takeWhile fun reply => (verdict address reply).isRunning

/-- The reply to the poll that ends the wait, or the failure of an exhausted script. -/
def stopReply (address : String) (replies : List Reply) : Reply :=
  (replies.dropWhile fun reply => (verdict address reply).isRunning).head?.getD noReplyLeft

/-- The number of the poll that ends the wait. -/
def stopIndex (address : String) (replies : List Reply) : Nat :=
  (runningPrefix address replies).length + 1

section Script

variable {address : String} {reply : Reply} {rest : List Reply}

theorem stopIndex_nil : stopIndex address [] = 1 := rfl

theorem stopIndex_pos {replies : List Reply} : 1 ≤ stopIndex address replies :=
  Nat.succ_le_succ (Nat.zero_le _)

theorem stopIndex_cons_running (running : (verdict address reply).isRunning) :
    stopIndex address (reply :: rest) = stopIndex address rest + 1 := by
  simp [stopIndex, runningPrefix, running]

theorem stopIndex_cons_stop (stops : (verdict address reply).isRunning = false) :
    stopIndex address (reply :: rest) = 1 := by
  simp [stopIndex, runningPrefix, stops]

theorem stopReply_cons_running (running : (verdict address reply).isRunning) :
    stopReply address (reply :: rest) = stopReply address rest := by
  simp [stopReply, running]

theorem stopReply_cons_stop (stops : (verdict address reply).isRunning = false) :
    stopReply address (reply :: rest) = reply := by
  simp [stopReply, stops]

/-- A script that has run out fails the poll. -/
theorem verdict_noReplyLeft : (verdict address noReplyLeft).isRunning = false := by
  rfl

theorem stopReply_nil : stopReply address [] = noReplyLeft := rfl

/-- The poll that ends the wait never finds the action running. -/
theorem stopReply_stops (replies : List Reply) :
    (verdict address (stopReply address replies)).isRunning = false := by
  induction replies with
  | nil => exact verdict_noReplyLeft
  | cons reply rest ih =>
    cases running : (verdict address reply).isRunning with
    | true => rwa [stopReply_cons_running running]
    | false => rwa [stopReply_cons_stop running]

end Script

section Verdicts

variable {address : String} {reply : Reply} {action : Action}

theorem verdict_done (found : verdict address reply = .done action) : action.isDone = true := by
  unfold verdict at found
  split at found
  · cases found
  · split at found
    · cases found
    · split at found
      next done =>
        cases found
        exact done
      next => cases found

theorem verdict_running (found : verdict address reply = .running action) :
    action.isDone = false := by
  unfold verdict at found
  split at found
  · cases found
  · split at found
    · cases found
    · split at found
      next => cases found
      next running =>
        cases found
        simpa using running

end Verdicts

/-- A poll answers an action only when it is not in the errored state. -/
theorem poll_not_errored {endpoint : Endpoint} {actionId : Value} {world after : World}
    {action : Action} (returned : (poll endpoint actionId).run world = (.ok action, after)) :
    action.status.equals (.str "errored") = false := by
  obtain ⟨_, _, -, decoded⟩ := Api.run_bind_eq_ok returned
  obtain ⟨_, _, -, decoded⟩ := Api.run_bind_eq_ok decoded
  obtain ⟨read, _, -, checked⟩ := Api.run_bind_eq_ok decoded
  cases errored : read.status.equals (.str "errored") with
  | true => simp [errored] at checked
  | false =>
    simp only [errored, Bool.false_eq_true, if_false, Api.run_pure, Prod.mk.injEq,
      Except.ok.injEq] at checked
    rw [← checked.1]
    exact errored

/-- Polling answers an action only when it is done and not errored, whatever answers the polls. -/
theorem pollUntilDone_returns_done {endpoint : Endpoint} {actionId multiplier factor : Value}
    {givesUp : Bool} (fuel : Nat) {world after : World} {action : Action}
    (returned :
      (pollUntilDone endpoint actionId multiplier factor givesUp fuel).run world = (.ok action, after)) :
    action.isDone = true ∧ action.status.equals (.str "errored") = false := by
  induction fuel generalizing world with
  | zero => cases returned
  | succ fuel ih =>
    obtain ⟨read, _, polled, rest⟩ := Api.run_bind_eq_ok returned
    cases done : read.isDone with
    | true =>
      simp only [done, if_true, Api.run_pure, Prod.mk.injEq, Except.ok.injEq] at rest
      rw [← rest.1]
      exact ⟨done, poll_not_errored polled⟩
    | false =>
      simp only [done, Bool.false_eq_true, if_false] at rest
      obtain ⟨_, _, -, rest⟩ := Api.run_bind_eq_ok rest
      obtain ⟨_, _, -, rest⟩ := Api.run_bind_eq_ok rest
      cases givesUp with
      | true => cases rest
      | false => exact ih rest

/-- A wait answers an action only when it is done and not errored. -/
theorem waitForAction_returns_done {endpoint : Endpoint} {actionId base cap factor timeout : Value}
    {world after : World} {action : Action}
    (returned :
      (waitForAction endpoint actionId base cap factor timeout).run world = (.ok action, after)) :
    action.isDone = true ∧ action.status.equals (.str "errored") = false := by
  obtain ⟨_, _, -, rest⟩ := Api.run_bind_eq_ok returned
  obtain ⟨_, _, -, rest⟩ := Api.run_bind_eq_ok rest
  obtain ⟨_, _, -, rest⟩ := Api.run_bind_eq_ok rest
  exact pollUntilDone_returns_done _ rest

section Client

variable (client : Client) (actionId : Value)

/-- One poll through the client sends one request and answers what its reply shows. -/
theorem poll_run (world : World) :
    (poll { client } actionId).run world =
      ((verdict (pollAddress client actionId) world.nextReply).polled,
        world.record (pollRequest client actionId)) := by
  simp only [poll, pollAddress, actionPath, pollRequest, Endpoint.get_client, Api.run_bind,
    Client.get_run, Api.run_lift]
  unfold verdict polledAction
  cases Client.outcome (.str "GET") (client.address ("/actions/" ++ actionId.plain))
      world.nextReply with
  | error fault => rfl
  | ok body =>
    dsimp only [Except.ok_bind]
    cases (body.orElse (.dict [])).get (.str "action") (.dict []) with
    | error fault => rfl
    | ok data =>
      dsimp only [Except.ok_bind]
      cases Action.decode data with
      | error fault => rfl
      | ok action =>
        by_cases errored : action.status.equals (.str "errored")
        · simp [errored, Verdict.polled]
        · by_cases done : action.isDone <;> simp [errored, done, Verdict.polled]

/-- A wait polls with fuel for every reply left, giving up after a running poll on a timeout ≤ 0. -/
theorem waitForAction_run {base cap factor timeout : Value} {ceiling seconds : Float}
    (capped : cap.toFloat = .ok ceiling) (timed : timeout.toFloat = .ok seconds) (world : World) :
    (waitForAction { client } actionId base cap factor timeout).run world =
      (pollUntilDone { client } actionId base factor (decide (seconds ≤ 0))
        (world.replies.length + 1)).run world := by
  simp only [waitForAction, Api.run_bind, Api.run_lift, capped, timed, Api.run_get]

variable {base factor : Value} (based : checkBackoff base = .ok ())
  (grows : checkBackoff factor = .ok ())
include based grows

/-- One round of polling: a poll that ends the wait answers; a running one gives up or goes on. -/
theorem pollUntilDone_succ (givesUp : Bool) (fuel : Nat) (world : World) :
    (pollUntilDone { client } actionId base factor givesUp (fuel + 1)).run world =
      if (verdict (pollAddress client actionId) world.nextReply).isRunning then
        if givesUp then (.error (.actionTimedOut actionId), world.record (pollRequest client actionId))
        else (pollUntilDone { client } actionId base factor givesUp fuel).run
          (world.record (pollRequest client actionId))
      else ((verdict (pollAddress client actionId) world.nextReply).polled,
        world.record (pollRequest client actionId)) := by
  rw [pollUntilDone, Api.run_bind, poll_run]
  cases found : verdict (pollAddress client actionId) world.nextReply with
  | failed fault => rfl
  | errored action => rfl
  | done action =>
    have done : action.isDone = true := verdict_done found
    simp [Verdict.polled, Verdict.isRunning, done]
  | running action =>
    have running : action.isDone = false := verdict_running found
    simp only [Verdict.polled, Verdict.isRunning, running, Api.run_bind, Bool.false_eq_true,
      if_false, if_true, Api.run_lift, based, grows]
    cases givesUp <;> rfl

/-- Polling with fuel for every reply left takes the replies up to the one that ends the wait. -/
theorem pollUntilDone_run (givesUp : Bool) (world : World) (fuel : Nat)
    (enough : world.replies.length < fuel) :
    (pollUntilDone { client } actionId base factor givesUp fuel).run world =
      if givesUp ∧ 1 < stopIndex (pollAddress client actionId) world.replies then
        (.error (.actionTimedOut actionId), world.sendTimes (pollRequest client actionId) 1)
      else ((verdict (pollAddress client actionId)
          (stopReply (pollAddress client actionId) world.replies)).polled,
        world.sendTimes (pollRequest client actionId)
          (stopIndex (pollAddress client actionId) world.replies)) := by
  generalize script : world.replies = replies at enough ⊢
  induction replies generalizing world fuel with
  | nil =>
    obtain ⟨fuel, rfl⟩ : ∃ less, fuel = less + 1 := ⟨fuel - 1, by simp at enough; omega⟩
    have next : world.nextReply = noReplyLeft := by simp [World.nextReply, script]
    rw [pollUntilDone_succ client actionId based grows, next, verdict_noReplyLeft, stopIndex_nil,
      stopReply_nil, World.sendTimes_one]
    simp
  | cons reply rest ih =>
    obtain ⟨fuel, rfl⟩ : ∃ less, fuel = less + 1 := ⟨fuel - 1, by simp at enough; omega⟩
    have next : world.nextReply = reply := World.nextReply_cons reply rest world script
    rw [pollUntilDone_succ client actionId based grows, next]
    cases running : (verdict (pollAddress client actionId) reply).isRunning with
    | false =>
      rw [stopIndex_cons_stop running, stopReply_cons_stop running, World.sendTimes_one]
      simp
    | true =>
      rw [stopIndex_cons_running running, stopReply_cons_running running]
      cases givesUp with
      | true =>
        have later : 1 < stopIndex (pollAddress client actionId) rest + 1 := by
          have positive : 1 ≤ stopIndex (pollAddress client actionId) rest := stopIndex_pos
          omega
        rw [if_pos (And.intro rfl later), World.sendTimes_one]
        rfl
      | false =>
        have after : (world.record (pollRequest client actionId)).replies = rest := by
          simp [script]
        have more : rest.length < fuel := by simp at enough; omega
        rw [ih (world.record (pollRequest client actionId)) fuel after more,
          World.sendTimes_succ world _ (stopIndex _ rest)]
        simp

end Client

/-- Waiting with no keyword is waiting with the default backoff and timeout. -/
theorem waitCall_defaults (endpoint : Endpoint) (actionId : Value) :
    waitCall endpoint [.none, actionId] [] =
      waitForAction endpoint actionId (.float 4) (.float 30) (.float 1.5) (.float 600) := by
  have bound : signature.bind [.none, actionId] [] =
      .ok ⟨[.none, actionId, .float 4, .float 30, .float 1.5, .float 600], []⟩ := rfl
  rw [waitCall, bound, Api.lift_ok, pure_bind]
  rfl

/-- A wait sends every poll up to the first that ends it and answers what that poll found,
unless a timeout ≤ 0 stops it after a running first poll; it never returns an unfinished action. -/
theorem wait_answers_stopping_poll (client : Client) (actionId base cap factor timeout : Value)
    {ceiling seconds : Float} (capped : cap.toFloat = .ok ceiling)
    (timed : timeout.toFloat = .ok seconds) (based : checkBackoff base = .ok ())
    (grows : checkBackoff factor = .ok ()) (world : World) :
    let address := pollAddress client actionId
    let stop := stopIndex address world.replies
    let request := pollRequest client actionId
    (waitForAction { client } actionId base cap factor timeout).run world =
        (if seconds ≤ 0 ∧ 1 < stop then
          (.error (.actionTimedOut actionId), world.sendTimes request 1)
        else ((verdict address (stopReply address world.replies)).polled,
          world.sendTimes request stop)) ∧
      (verdict address (stopReply address world.replies)).isRunning = false ∧
      (∀ (endpoint : Endpoint) (world after : World) (action : Action),
        (waitForAction endpoint actionId base cap factor timeout).run world = (.ok action, after) →
          action.isDone = true ∧ action.status.equals (.str "errored") = false) ∧
      (Fault.actionTimedOut actionId).className = "ActionTimeoutError" ∧
      (Fault.actionTimedOut actionId).cause? = some "RetryError" ∧
      (∀ action, (Fault.actionErrored (erroredText action)).className = "ActionErroredError" ∧
        (Fault.actionErrored (erroredText action)).apiFields? = some (.none, .none, .none)) ∧
      ∀ links, waitForActions { client } links [] = (do
        let items ← Api.lift (links.orElse (.list [])).members
        items.mapM fun link => do
          waitForAction { client } (← Api.lift (link.index "id")) (.float 4) (.float 30)
            (.float 1.5) (.float 600)) := by
  intro address stop request
  refine ⟨?run, stopReply_stops world.replies, ?returns, rfl, rfl, fun _ => ⟨rfl, rfl⟩, ?links⟩
  case run =>
    rw [waitForAction_run client actionId capped timed,
      pollUntilDone_run client actionId based grows _ world _ (Nat.lt_succ_self _)]
    simp only [decide_eq_true_eq]
    rfl
  case returns => exact fun _ _ _ _ returned => waitForAction_returns_done returned
  case links =>
    intro links
    simp only [waitForActions, waitCall_defaults]

/-- Two running polls, then a completed one; floats do not compute, so the timeout stays a test. -/
theorem wait_answers_stopping_poll_scripted :
    let client : Client := { baseUrl := "https://api.digitalocean.com/v2", timeout := .int 30 }
    let running : Reply := .response (.int 204) .none [] []
    let completed : Reply := .response (.int 200) .none [] (Text.encodeUtf8
      "\x7b\"action\": \x7b\"status\": \"completed\"\x7d\x7d")
    let world : World := { replies := [running, running, completed] }
    let request := pollRequest client (.int 7)
    (Value.float 30).toFloat = .ok 30 ∧ (Value.float 600).toFloat = .ok 600 ∧
      (Value.float 0).toFloat = .ok 0 ∧
      checkBackoff (.float 4) = .ok () ∧ checkBackoff (.float 1.5) = .ok () ∧
      stopIndex (pollAddress client (.int 7)) world.replies = 3 ∧
      (waitForAction { client } (.int 7) (.float 4) (.float 30) (.float 1.5) (.float 600)).run
          world =
        (if (600 : Float) ≤ 0 then (.error (.actionTimedOut (.int 7)), world.sendTimes request 1)
        else (.ok { status := "completed" }, world.sendTimes request 3)) ∧
      (waitForAction { client } (.int 7) (.float 4) (.float 30) (.float 1.5) (.float 0)).run
          world =
        (if (0 : Float) ≤ 0 then (.error (.actionTimedOut (.int 7)), world.sendTimes request 1)
        else (.ok { status := "completed" }, world.sendTimes request 3)) ∧
      (waitForAction { client } (.int 7) (.float 4) (.float 30) (.float 1.5) (.float 600)).run {} =
        (.error (.unreachable (.str "GET") (pollAddress client (.int 7)) "ConnectionError"
          (.str "no scripted response left")), ({} : World).sendTimes request 1) := by
  intro client running completed world request
  have busy : (verdict (pollAddress client (.int 7)) running).isRunning = true := rfl
  have done : verdict (pollAddress client (.int 7)) completed = .done { status := "completed" } := by
    rw [verdict, polledAction, Client.outcome_of_text _ _ (by decide +kernel) (by decide) rfl]
    rfl
  have stops : (verdict (pollAddress client (.int 7)) completed).isRunning = false := by
    rw [done]
    rfl
  have stop : stopIndex (pollAddress client (.int 7)) world.replies = 3 := by
    rw [stopIndex_cons_running busy, stopIndex_cons_running busy, stopIndex_cons_stop stops]
  have last : stopReply (pollAddress client (.int 7)) world.replies = completed := by
    rw [stopReply_cons_running busy, stopReply_cons_running busy, stopReply_cons_stop stops]
  have patient := (wait_answers_stopping_poll client (.int 7) (.float 4) (.float 30) (.float 1.5)
    (.float 600) rfl rfl rfl rfl world).1
  have hasty := (wait_answers_stopping_poll client (.int 7) (.float 4) (.float 30) (.float 1.5)
    (.float 0) rfl rfl rfl rfl world).1
  have unanswered := (wait_answers_stopping_poll client (.int 7) (.float 4) (.float 30) (.float 1.5)
    (.float 600) rfl rfl rfl rfl {}).1
  simp only [stop, last, done, show 1 < 3 from by decide, and_true] at patient hasty
  refine ⟨rfl, rfl, rfl, rfl, rfl, stop, patient, hasty, ?_⟩
  have lost : verdict (pollAddress client (.int 7)) noReplyLeft =
      .failed (.unreachable (.str "GET") (pollAddress client (.int 7)) "ConnectionError"
        (.str "no scripted response left")) := rfl
  simpa [stopIndex_nil, stopReply_nil, lost, Verdict.polled] using unanswered

/-- A timeout beyond the range of a double fails the wait before its first poll. -/
theorem wait_fails_on_timeout_beyond_double :
    (waitForAction { client := { baseUrl := "https://api.digitalocean.com/v2", timeout := .int 30 } }
      (.int 7) (.float 4) (.float 30) (.float 1.5) (.int (-10000000000000000000000000000000000000000000000000000000000000000000000000000000000000000000000000000000000000000000000000000000000000000000000000000000000000000000000000000000000000000000000000000000000000000000000000000000000000000000000000000000000000000000000000000000000000000000000000000000000000000000000000000000000000000000000000000000000000000000000000000000000000000000000000000000000000000))).run {} =
      (.error .intTooLarge, {}) := by
  have beyond : Number.ofInt? (-10000000000000000000000000000000000000000000000000000000000000000000000000000000000000000000000000000000000000000000000000000000000000000000000000000000000000000000000000000000000000000000000000000000000000000000000000000000000000000000000000000000000000000000000000000000000000000000000000000000000000000000000000000000000000000000000000000000000000000000000000000000000000000000000000000000000000000) = none := by decide +kernel
  simp [waitForAction, Value.toFloat, beyond]

end Waiter

end CloudClient

import CloudClient.Service.Dispatch

namespace CloudClient

/-- What one step of a session did. -/
structure StepReport where
  outcome : Except Fault Value
  /-- The requests sent during the step, in order. -/
  requests : List Exchange
  /-- The regions object storage was asked about during the step, in order. -/
  regionsAsked : List Value
  /-- The lines reported during the step. -/
  logged : List String
  /-- The resources alive after the step. -/
  leftovers : List (Value × Value)

namespace Session

/-- Opens a session: the objects over a new client, and the headers the client sends. -/
def start (token baseUrl timeout : Value) (tracking : Bool) :
    Except Fault (Facade × List (String × Value)) := do
  let client ← Client.create token baseUrl timeout
  pure (Facade.create client tracking, Client.headersFor token)

/-- Runs one step from a world, with the objects the step leaves; a failed step keeps them. -/
def step (facade : Facade) (target : String) (args : List Value)
    (keywords : List (String × Value)) (world : World) : StepReport × World × Facade :=
  let (outcome, after) := (facade.call target args keywords).run world
  ({ outcome := Prod.fst <$> outcome,
     requests := after.sent.drop world.sent.length,
     regionsAsked := after.regionsAsked.drop world.regionsAsked.length,
     logged := after.lines.drop world.lines.length,
     leftovers := after.tracker.leftovers }, after,
   match outcome with
   | .ok (_, next) => next
   | .error _ => facade)

/-- Runs steps in order, each from the world and the objects the one before it left. -/
def steps (facade : Facade) :
    List (String × List Value × List (String × Value)) → World → List StepReport × World
  | [], world => ([], world)
  | (target, args, keywords) :: rest, world =>
    let (report, next, objects) := step facade target args keywords world
    let (reports, last) := steps objects rest next
    (report :: reports, last)

end Session

end CloudClient

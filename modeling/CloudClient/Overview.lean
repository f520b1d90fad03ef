import CloudClient.Service.Basic
import CloudClient.Service.Keys
import CloudClient.Settings.Host

namespace CloudClient

namespace Overview

/-- Writes the overview of the cloud. -/
def report (cloud : Cloud) : Api Unit := do
  let account ← cloud.account
  Api.say ("hello I am " ++ account.email.plain)
  let keys ← cloud.keys
  for key in keys do
    Api.say ("i have key! " ++ key.name.plain)
  let regions ← cloud.regions
  Api.say ("this cloud has " ++ toString regions.length ++ " regions!")
  for region in regions do
    Api.say ("droplets in " ++ region.name.plain)

/-- What running the overview did. -/
structure Run where
  outcome : Except Fault Unit
  /-- The headers of the client, when one was made. -/
  headers : List (String × Value)
  host : Host
  world : World

/-- Makes a cloud from the host's credentials and writes its overview. -/
def run (host : Host) (world : World) : Run :=
  match host.createClient .none with
  | (.error fault, after) => { outcome := .error fault, headers := [], host := after, world }
  | (.ok (client, token), after) =>
    let (outcome, finished) := (report { client }).run world
    { outcome, headers := Client.headersFor token, host := after, world := finished }

end Overview

end CloudClient

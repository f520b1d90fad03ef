import CloudClient.Overview
import CloudClient.Proofs.Pages

namespace CloudClient

namespace Client

variable {α : Type}

/-- Replies that serve a collection as pages, each linking to the next, whose items decode. -/
def Serves (address key : String) (decode : Value → Except Fault α) (replies : List Reply)
    (records : List α) : Prop :=
  ∃ (pages : List (Reply × List Value)) (last : Reply) (items : List Value),
    replies = pages.map (·.1) ++ [last] ∧
    (∀ p ∈ pages, Answers address (.str key) p.1 p.2 true) ∧
    Answers address (.str key) last items false ∧
    ((pages.map (·.2)).flatten ++ items).mapM decode = .ok records

/-- Replies that serve a collection's first pages, whose items decode, then one that fails. -/
def FailsAfter (address key : String) (decode : Value → Except Fault α) (replies : List Reply)
    (fault : Fault) : Prop :=
  ∃ (pages : List (Reply × List Value)) (failing : Reply) (decoded : List α),
    replies = pages.map (·.1) ++ [failing] ∧
    (∀ p ∈ pages, Answers address (.str key) p.1 p.2 true) ∧
    (pages.map (·.2)).flatten.mapM decode = .ok decoded ∧
    pageOf address failing = .error fault

section Listing

variable (cloud : Cloud) (through : cloud.api = .ok (.handle .client)) (path key : String)
  (decode : Value → Except Fault α) (world : World)
include through

/-- A resource read from a reply that gives its record: one reply taken, nothing written. -/
theorem fetch_returns {record : α}
    (returned : recordOf (cloud.client.address path) key decode world.nextReply = .ok record) :
    ∃ after, (cloud.fetch (.str path) key decode).run world = (.ok record, after) ∧
      after.replies = world.replies.drop 1 ∧ after.lines = world.lines := by
  rw [fetch_run cloud through, returned]
  exact ⟨_, rfl, rfl, rfl⟩

/-- A resource read from a reply whose request fails: its fault, and nothing written. -/
theorem fetch_fails {fault : Fault}
    (failed : outcome (.str "GET") (cloud.client.address path) world.nextReply = .error fault) :
    ∃ after, (cloud.fetch (.str path) key decode).run world = (.error fault, after) ∧
      after.lines = world.lines := by
  rw [fetch_run cloud through]
  refine ⟨world.record (cloud.client.exchangeOf (.str "GET") path [("params", .none)]), ?_, rfl⟩
  simp [recordOf, failed]

/-- A collection listed from replies that serve it: its records, those replies, nothing written. -/
theorem collect_serves {replies : List Reply} {records : List α}
    (served : Serves (cloud.client.address path) key decode replies records) (rest : List Reply)
    (script : world.replies = replies ++ rest) :
    ∃ after, (cloud.collect path key decode).run world = (.ok records, after) ∧
      after.replies = rest ∧ after.lines = world.lines := by
  obtain ⟨pages, last, items, rfl, answered, ⟨body, page_ok, held, linked⟩, decodes⟩ := served
  rw [List.mapM_append] at decodes
  cases before : (pages.map (·.2)).flatten.mapM decode with
  | error fault => simp [before] at decodes
  | ok earlier =>
    cases now : items.mapM decode with
    | error fault => simp [before, now] at decodes
    | ok later =>
      obtain rfl : earlier ++ later = records := by simpa [before, now] using decodes
      -- the walk reaches the last page with fuel to spare, and stops there
      have reached := walk_reaches cloud.client path (.str key) .none decode rfl pages (last :: rest)
        answered before world (by simp [script])
      have next : (cloud.client.afterPages path world [] pages.length (last :: rest)).nextReply =
          last := by simp
      rw [← next] at page_ok
      refine ⟨(cloud.client.afterPages path world [] pages.length (last :: rest)).record
        (cloud.client.pageRequest path [] (pages.length + 1)), ?_, rfl, rfl⟩
      rw [collect_run cloud through, reached, walkFrom_page cloud.client path (.str key) .none decode
        rfl _ _ _ _ page_ok held now, linked]

/-- A collection listed from replies that fail after its first pages: the fault, nothing written. -/
theorem collect_fails {replies : List Reply} {fault : Fault}
    (failing : FailsAfter (cloud.client.address path) key decode replies fault)
    (rest : List Reply) (script : world.replies = replies ++ rest) :
    ∃ after, (cloud.collect path key decode).run world = (.error fault, after) ∧
      after.lines = world.lines := by
  obtain ⟨pages, failed, decoded, rfl, answered, decodes, refused⟩ := failing
  have reached := walk_reaches cloud.client path (.str key) .none decode rfl pages (failed :: rest)
    answered decodes world (by simp [script])
  have next : (cloud.client.afterPages path world [] pages.length (failed :: rest)).nextReply =
      failed := by simp
  rw [← next] at refused
  refine ⟨(cloud.client.afterPages path world [] pages.length (failed :: rest)).record
    (cloud.client.pageRequest path [] (pages.length + 1)), ?_, rfl⟩
  rw [collect_run cloud through, reached, walkFrom_request_failed cloud.client path (.str key) .none
    decode rfl _ _ _ _ refused]

end Listing

end Client

namespace Overview

/-- The greeting of the account's owner. -/
def greeting (owner : Account) : String := "hello I am " ++ owner.email.plain

/-- A line for each key, in order. -/
def keyLines (keys : List Key) : List String := keys.map fun key => "i have key! " ++ key.name.plain

/-- The number of regions, and a line for each region, in order. -/
def regionLines (regions : List Region) : List String :=
  ("this cloud has " ++ toString regions.length ++ " regions!") ::
    regions.map fun region => "droplets in " ++ region.name.plain

/-- Writing a line for each item writes them after the lines before, in order. -/
theorem run_forIn_say {β : Type} (items : List β) (text : β → String) (world : World) :
    (forIn items PUnit.unit fun item _ => do
        Api.say (text item)
        pure (ForInStep.yield PUnit.unit) : Api PUnit).run world =
      (.ok ⟨⟩, { world with lines := world.lines ++ items.map text }) := by
  induction items generalizing world with
  | nil => simp [Api.run_pure]
  | cons item rest ih =>
    rw [List.forIn_cons, Api.run_bind, Api.run_bind, Api.run_say]
    simp only [Api.run_pure]
    rw [ih]
    simp

section Report

variable (client : Client) (world : World)

/-- The cloud the overview reads: requests go through the client, and nothing is tracked. -/
theorem cloud_through : ({ client } : Cloud).api = .ok (.handle .client) := rfl

/-- Every section read: the greeting, the key lines and the region lines, in order. -/
theorem report_complete {reply : Reply} {keyReplies regionReplies rest : List Reply}
    {owner : Account} {keys : List Key} {regions : List Region}
    (returned : Client.recordOf (client.address "/account") "account" Account.decode reply =
      .ok owner)
    (keysServed : Client.Serves (client.address "/account/keys") "ssh_keys" Key.decode keyReplies
      keys)
    (regionsServed : Client.Serves (client.address "/regions") "regions" Region.decode
      regionReplies regions)
    (script : world.replies = reply :: (keyReplies ++ regionReplies ++ rest)) :
    ∃ after, (report { client }).run world = (.ok (), after) ∧
      after.lines = world.lines ++ greeting owner :: (keyLines keys ++ regionLines regions) := by
  have next : world.nextReply = reply := World.nextReply_cons _ _ world script
  obtain ⟨read, fetched, readReplies, readLines⟩ := Client.fetch_returns { client } (cloud_through client)
    "/account" "account" Account.decode world (next ▸ returned)
  let greeted := { read with lines := read.lines ++ ["hello I am " ++ owner.email.plain] }
  obtain ⟨listed, keysRun, keysReplies, keysLines⟩ := Client.collect_serves { client }
    (cloud_through client) "/account/keys" "ssh_keys" Key.decode greeted keysServed
    (regionReplies ++ rest) (by simp [greeted, readReplies, script])
  let named := { listed with
    lines := listed.lines ++ keys.map fun (key : Key) => "i have key! " ++ key.name.plain }
  obtain ⟨counted, regionsRun, -, regionsLines⟩ := Client.collect_serves { client }
    (cloud_through client) "/regions" "regions" Region.decode named regionsServed rest
    (by simp [named, keysReplies])
  refine ⟨{ counted with lines := counted.lines ++ regionLines regions }, ?_, ?_⟩
  · rw [report, Cloud.account, Cloud.keys, Cloud.regions, Api.run_bind_of_ok fetched, Api.run_bind_of_ok (Api.run_say _ _)]
    rw [Api.run_bind_of_ok keysRun, Api.run_bind_of_ok (run_forIn_say _ _ _)]
    rw [Api.run_bind_of_ok regionsRun, Api.run_bind_of_ok (Api.run_say _ _),
      Api.run_bind_of_ok (run_forIn_say _ _ _)]
    simp [regionLines]
  · simp [regionsLines, named, keysLines, greeted, readLines, greeting, keyLines]

/-- The account cannot be read: nothing is written. -/
theorem report_account_fails {fault : Fault}
    (failed : Client.outcome (.str "GET") (client.address "/account") world.nextReply =
      .error fault) :
    ∃ after, (report { client }).run world = (.error fault, after) ∧ after.lines = world.lines := by
  obtain ⟨read, fetched, readLines⟩ := Client.fetch_fails { client } (cloud_through client)
    "/account" "account" Account.decode world failed
  exact ⟨read, by rw [report, Cloud.account, Api.run_bind_of_error fetched], readLines⟩

/-- A key page cannot be read: only the greeting is written. -/
theorem report_keys_fail {reply : Reply} {keyReplies rest : List Reply} {owner : Account}
    {fault : Fault}
    (returned : Client.recordOf (client.address "/account") "account" Account.decode reply =
      .ok owner)
    (keysFail : Client.FailsAfter (client.address "/account/keys") "ssh_keys" Key.decode
      keyReplies fault)
    (script : world.replies = reply :: (keyReplies ++ rest)) :
    ∃ after, (report { client }).run world = (.error fault, after) ∧
      after.lines = world.lines ++ [greeting owner] := by
  have next : world.nextReply = reply := World.nextReply_cons _ _ world script
  obtain ⟨read, fetched, readReplies, readLines⟩ := Client.fetch_returns { client }
    (cloud_through client) "/account" "account" Account.decode world (next ▸ returned)
  let greeted := { read with lines := read.lines ++ ["hello I am " ++ owner.email.plain] }
  obtain ⟨stopped, keysRun, stoppedLines⟩ := Client.collect_fails { client } (cloud_through client)
    "/account/keys" "ssh_keys" Key.decode greeted keysFail rest
    (by simp [greeted, readReplies, script])
  refine ⟨stopped, ?_, by simp [stoppedLines, greeted, readLines, greeting]⟩
  rw [report, Cloud.account, Cloud.keys, Api.run_bind_of_ok fetched,
    Api.run_bind_of_ok (Api.run_say _ _), Api.run_bind_of_error keysRun]

/-- A region page cannot be read: only the greeting and the key lines are written. -/
theorem report_regions_fail {reply : Reply} {keyReplies regionReplies rest : List Reply}
    {owner : Account} {keys : List Key} {fault : Fault}
    (returned : Client.recordOf (client.address "/account") "account" Account.decode reply =
      .ok owner)
    (keysServed : Client.Serves (client.address "/account/keys") "ssh_keys" Key.decode keyReplies
      keys)
    (regionsFail : Client.FailsAfter (client.address "/regions") "regions" Region.decode
      regionReplies fault)
    (script : world.replies = reply :: (keyReplies ++ regionReplies ++ rest)) :
    ∃ after, (report { client }).run world = (.error fault, after) ∧
      after.lines = world.lines ++ greeting owner :: keyLines keys := by
  have next : world.nextReply = reply := World.nextReply_cons _ _ world script
  obtain ⟨read, fetched, readReplies, readLines⟩ := Client.fetch_returns { client }
    (cloud_through client) "/account" "account" Account.decode world (next ▸ returned)
  let greeted := { read with lines := read.lines ++ ["hello I am " ++ owner.email.plain] }
  obtain ⟨listed, keysRun, keysReplies, keysLines⟩ := Client.collect_serves { client }
    (cloud_through client) "/account/keys" "ssh_keys" Key.decode greeted keysServed
    (regionReplies ++ rest) (by simp [greeted, readReplies, script])
  let named := { listed with
    lines := listed.lines ++ keys.map fun (key : Key) => "i have key! " ++ key.name.plain }
  obtain ⟨stopped, regionsRun, stoppedLines⟩ := Client.collect_fails { client }
    (cloud_through client) "/regions" "regions" Region.decode named regionsFail rest
    (by simp [named, keysReplies])
  refine ⟨stopped, ?_, by simp [stoppedLines, named, keysLines, greeted, readLines, greeting,
    keyLines]⟩
  rw [report, Cloud.account, Cloud.keys, Cloud.regions, Api.run_bind_of_ok fetched,
    Api.run_bind_of_ok (Api.run_say _ _), Api.run_bind_of_ok keysRun,
    Api.run_bind_of_ok (run_forIn_say _ _ _), Api.run_bind_of_error regionsRun]

end Report

/-- The overview writes the greeting, the keys and the regions in page order; a failed request
raises its fault after the lines of the sections read before it. -/
theorem overview_writes_sections (host : Host) (world : World) {client : Client} {token : Value}
    {loaded : Host} (created : host.createClient .none = (.ok (client, token), loaded)) :
    let ran := run host world
    (∀ (reply : Reply) (keyReplies regionReplies rest : List Reply) (owner : Account)
        (keys : List Key) (regions : List Region),
      Client.recordOf (client.address "/account") "account" Account.decode reply = .ok owner →
      Client.Serves (client.address "/account/keys") "ssh_keys" Key.decode keyReplies keys →
      Client.Serves (client.address "/regions") "regions" Region.decode regionReplies regions →
      world.replies = reply :: (keyReplies ++ regionReplies ++ rest) →
      ran.outcome = .ok () ∧
        ran.world.lines = world.lines ++ greeting owner :: (keyLines keys ++ regionLines regions)) ∧
    (∀ fault, Client.outcome (.str "GET") (client.address "/account") world.nextReply =
        .error fault →
      ran.outcome = .error fault ∧ ran.world.lines = world.lines) ∧
    (∀ (reply : Reply) (keyReplies rest : List Reply) (owner : Account) (fault : Fault),
      Client.recordOf (client.address "/account") "account" Account.decode reply = .ok owner →
      Client.FailsAfter (client.address "/account/keys") "ssh_keys" Key.decode keyReplies fault →
      world.replies = reply :: (keyReplies ++ rest) →
      ran.outcome = .error fault ∧ ran.world.lines = world.lines ++ [greeting owner]) ∧
    (∀ (reply : Reply) (keyReplies regionReplies rest : List Reply) (owner : Account)
        (keys : List Key) (fault : Fault),
      Client.recordOf (client.address "/account") "account" Account.decode reply = .ok owner →
      Client.Serves (client.address "/account/keys") "ssh_keys" Key.decode keyReplies keys →
      Client.FailsAfter (client.address "/regions") "regions" Region.decode regionReplies fault →
      world.replies = reply :: (keyReplies ++ regionReplies ++ rest) →
      ran.outcome = .error fault ∧ ran.world.lines = world.lines ++ greeting owner :: keyLines keys) := by
  intro ran
  -- once the client is made, the overview is the report of the cloud over it
  have reported : ran.outcome = ((report { client }).run world).1 ∧
      ran.world = ((report { client }).run world).2 := by
    simp [ran, run, created]
  rw [reported.1, reported.2]
  refine ⟨?complete, ?account, ?keys, ?regions⟩
  case complete =>
    intro reply keyReplies regionReplies rest owner keys regions returned keysServed regionsServed
      script
    obtain ⟨after, reportRun, lines⟩ :=
      report_complete client world returned keysServed regionsServed script
    rw [reportRun]
    exact ⟨rfl, lines⟩
  case account =>
    intro fault failed
    obtain ⟨after, reportRun, lines⟩ := report_account_fails client world failed
    rw [reportRun]
    exact ⟨rfl, lines⟩
  case keys =>
    intro reply keyReplies rest owner fault returned keysFail script
    obtain ⟨after, reportRun, lines⟩ := report_keys_fail client world returned keysFail script
    rw [reportRun]
    exact ⟨rfl, lines⟩
  case regions =>
    intro reply keyReplies regionReplies rest owner keys fault returned keysServed regionsFail script
    obtain ⟨after, reportRun, lines⟩ :=
      report_regions_fail client world returned keysServed regionsFail script
    rw [reportRun]
    exact ⟨rfl, lines⟩

namespace Sample

/-- A host whose environment holds a token. -/
def host : Host := { environment := [("DIGITALOCEAN_ACCESS_TOKEN", "t")] }

/-- The client made from the token, at the default address and timeout. -/
def client : Client := { baseUrl := "https://api.digitalocean.com/v2", timeout := .int 30 }

/-- A reply of status 200 whose body is the UTF-8 of a text. -/
def ok (text : String) : Reply := .response (.int 200) .none [] (Text.encodeUtf8 text)

/-- The account of sammy@example.com. -/
def account : Reply := ok "\x7b\"account\": \x7b\"email\": \"sammy@example.com\"\x7d\x7d"

/-- A first key page linking to a second. -/
def firstKeys : Reply :=
  ok "\x7b\"ssh_keys\": [\x7b\"name\": \"work\"\x7d], \"links\": \x7b\"pages\": \x7b\"next\": \"k2\"\x7d\x7d\x7d"

/-- A last key page. -/
def lastKeys : Reply := ok "\x7b\"ssh_keys\": [\x7b\"name\": \"home\"\x7d]\x7d"

/-- A first region page linking to a second. -/
def firstRegions : Reply :=
  ok "\x7b\"regions\": [\x7b\"name\": \"New York 1\"\x7d], \"links\": \x7b\"pages\": \x7b\"next\": \"r2\"\x7d\x7d\x7d"

/-- A last region page. -/
def lastRegions : Reply := ok "\x7b\"regions\": [\x7b\"name\": \"Amsterdam 3\"\x7d]\x7d"

/-- A request that finds no connection. -/
def dropped : Reply := .failure "ConnectionError" (.str "reset")

/-- The host makes the default client from its token and changes nothing. -/
theorem host_creates_client : host.createClient .none = (.ok (client, .str "t"), host) := by
  simp [host, client, Host.createClient, Host.loadToken, Host.load, Host.loadingDisabled,
    Host.get?, Host.settingsFile?, Host.file?, Host.settingsPath, Host.tokenFromEnvironment,
    tokenVariables, Client.create, settingsFileVariable, Value.truthy, Value.trimEnd,
    defaultBaseUrl, defaultTimeout, Option.filter]

/-- The account reply gives the account of its email. -/
theorem account_read :
    Client.recordOf (client.address "/account") "account" Account.decode account =
      .ok { email := "sammy@example.com" } := by
  rw [account, ok, Client.recordOf, Client.outcome_of_text _ _ (by decide +kernel) (by decide) rfl]
  rfl

/-- The first key page answers with one key and a link to a next page. -/
theorem firstKeys_answers :
    Client.Answers (client.address "/account/keys") (.str "ssh_keys") firstKeys
      [.dict [(.str "name", .str "work")]] true :=
  Client.answers_of_text _ _ (by decide +kernel) (by decide) rfl rfl rfl

/-- The two key pages serve two keys. -/
theorem keys_served : Client.Serves (client.address "/account/keys") "ssh_keys" Key.decode
    [firstKeys, lastKeys] [{ name := "work" }, { name := "home" }] := by
  have last : Client.Answers (client.address "/account/keys") (.str "ssh_keys") lastKeys
      [.dict [(.str "name", .str "home")]] false :=
    Client.answers_of_text _ _ (by decide +kernel) (by decide) rfl rfl rfl
  exact ⟨[(firstKeys, _)], lastKeys, _, rfl, by simpa using firstKeys_answers, last, rfl⟩

/-- The first key page, then a dropped connection. -/
theorem keys_fail : Client.FailsAfter (client.address "/account/keys") "ssh_keys" Key.decode
    [firstKeys, dropped] (.unreachable (.str "GET") (client.address "/account/keys")
      "ConnectionError" (.str "reset")) :=
  ⟨[(firstKeys, _)], dropped, [{ name := "work" }], rfl, by simpa using firstKeys_answers, rfl,
    rfl⟩

/-- The first region page answers with one region and a link to a next page. -/
theorem firstRegions_answers :
    Client.Answers (client.address "/regions") (.str "regions") firstRegions
      [.dict [(.str "name", .str "New York 1")]] true :=
  Client.answers_of_text _ _ (by decide +kernel) (by decide) rfl rfl rfl

/-- The two region pages serve two regions. -/
theorem regions_served : Client.Serves (client.address "/regions") "regions" Region.decode
    [firstRegions, lastRegions] [{ name := "New York 1" }, { name := "Amsterdam 3" }] := by
  have last : Client.Answers (client.address "/regions") (.str "regions") lastRegions
      [.dict [(.str "name", .str "Amsterdam 3")]] false :=
    Client.answers_of_text _ _ (by decide +kernel) (by decide) rfl rfl rfl
  exact ⟨[(firstRegions, _)], lastRegions, _, rfl, by simpa using firstRegions_answers, last, rfl⟩

/-- The first region page, then a dropped connection. -/
theorem regions_fail : Client.FailsAfter (client.address "/regions") "regions" Region.decode
    [firstRegions, dropped] (.unreachable (.str "GET") (client.address "/regions")
      "ConnectionError" (.str "reset")) :=
  ⟨[(firstRegions, _)], dropped, [{ name := "New York 1" }], rfl,
    by simpa using firstRegions_answers, rfl, rfl⟩

end Sample

section Scripted

open Sample

/-- The overview over two pages of keys and of regions, and when each section's request fails. -/
theorem overview_writes_sections_scripted :
    host.createClient .none = (.ok (client, .str "t"), host) ∧
    Client.recordOf (client.address "/account") "account" Account.decode account =
      .ok { email := "sammy@example.com" } ∧
    Client.Serves (client.address "/account/keys") "ssh_keys" Key.decode [firstKeys, lastKeys]
      [{ name := "work" }, { name := "home" }] ∧
    Client.Serves (client.address "/regions") "regions" Region.decode [firstRegions, lastRegions]
      [{ name := "New York 1" }, { name := "Amsterdam 3" }] ∧
    (run host { replies := [account, firstKeys, lastKeys, firstRegions, lastRegions] }).outcome =
      .ok () ∧
    (run host { replies := [account, firstKeys, lastKeys, firstRegions, lastRegions] }).world.lines =
      ["hello I am sammy@example.com", "i have key! work", "i have key! home",
        "this cloud has 2 regions!", "droplets in New York 1", "droplets in Amsterdam 3"] ∧
    (run host {}).outcome = .error (.unreachable (.str "GET") (client.address "/account")
      "ConnectionError" (.str "no scripted response left")) ∧
    (run host {}).world.lines = [] ∧
    Client.FailsAfter (client.address "/account/keys") "ssh_keys" Key.decode [firstKeys, dropped]
      (.unreachable (.str "GET") (client.address "/account/keys") "ConnectionError" (.str "reset")) ∧
    (run host { replies := [account, firstKeys, dropped] }).outcome =
      .error (.unreachable (.str "GET") (client.address "/account/keys") "ConnectionError"
        (.str "reset")) ∧
    (run host { replies := [account, firstKeys, dropped] }).world.lines =
      ["hello I am sammy@example.com"] ∧
    Client.FailsAfter (client.address "/regions") "regions" Region.decode [firstRegions, dropped]
      (.unreachable (.str "GET") (client.address "/regions") "ConnectionError" (.str "reset")) ∧
    (run host { replies := [account, firstKeys, lastKeys, firstRegions, dropped] }).outcome =
      .error (.unreachable (.str "GET") (client.address "/regions") "ConnectionError"
        (.str "reset")) ∧
    (run host { replies := [account, firstKeys, lastKeys, firstRegions, dropped] }).world.lines =
      ["hello I am sammy@example.com", "i have key! work", "i have key! home"] := by
  have unanswered : Client.outcome (.str "GET") (client.address "/account") ({} : World).nextReply =
      .error (.unreachable (.str "GET") (client.address "/account") "ConnectionError"
        (.str "no scripted response left")) := rfl
  obtain ⟨complete, -, -, -⟩ := overview_writes_sections host
    { replies := [account, firstKeys, lastKeys, firstRegions, lastRegions] } host_creates_client
  obtain ⟨-, accountFails, -, -⟩ := overview_writes_sections host {} host_creates_client
  obtain ⟨-, -, keysFail, -⟩ := overview_writes_sections host
    { replies := [account, firstKeys, dropped] } host_creates_client
  obtain ⟨-, -, -, regionsFail⟩ := overview_writes_sections host
    { replies := [account, firstKeys, lastKeys, firstRegions, dropped] } host_creates_client
  obtain ⟨completeOutcome, completeLines⟩ :=
    complete _ _ _ [] _ _ _ account_read keys_served regions_served rfl
  obtain ⟨accountOutcome, accountLines⟩ := accountFails _ unanswered
  obtain ⟨keysOutcome, keysLines⟩ := keysFail _ _ [] _ _ account_read keys_fail rfl
  obtain ⟨regionsOutcome, regionsLines⟩ :=
    regionsFail _ _ _ [] _ _ _ account_read keys_served regions_fail rfl
  exact ⟨host_creates_client, account_read, keys_served, regions_served, completeOutcome,
    completeLines, accountOutcome, accountLines, keys_fail, keysOutcome, keysLines, regions_fail,
    regionsOutcome, regionsLines⟩

end Scripted

end Overview

end CloudClient

import CloudClient.Proofs.Request
import CloudClient.Service.Basic

namespace CloudClient

namespace Client

/-- The page a reply gives a page request: its body, a false one read as an empty mapping. -/
def pageOf (address : String) (reply : Reply) : Except Fault Value :=
  (·.orElse (.dict [])) <$> outcome (.str "GET") address reply

/-- The items of a page: what it holds under the key, or none, iterated. -/
def itemsOf (key page : Value) : Except Fault (List Value) :=
  page.get key (.list []) >>= Value.members

/-- A reply that answers a page request with `items`, linking to a next page or not. -/
def Answers (address : String) (key : Value) (reply : Reply) (items : List Value)
    (more : Bool) : Prop :=
  ∃ page, pageOf address reply = .ok page ∧ itemsOf key page = .ok items ∧ hasNext page = .ok more

/-- The query of a page: the caller's entries with the page number and size set. -/
def pageEntries (entries : List (Value × Value)) (page : Nat) : List (Value × Value) :=
  Value.insertEntry (Value.insertEntry entries (.str "page") (.int page)) (.str "per_page")
    (.int pageSize)

/-- The request of one page of a collection at a text path. -/
def pageRequest (client : Client) (path : String) (entries : List (Value × Value)) (page : Nat) :
    Exchange :=
  client.exchangeOf (.str "GET") path [("params", .dict (pageEntries entries page))]

/-- The requests of `count` pages from page `first` on. -/
def pageRequests (client : Client) (path : String) (entries : List (Value × Value))
    (first count : Nat) : List Exchange :=
  (List.range count).map fun index => client.pageRequest path entries (first + index)

theorem pageQuery_of_entries {params : Value} {entries : List (Value × Value)}
    (given : params.orElse (.dict []) = .dict entries) (page : Nat) :
    pageQuery params page = .ok (.dict (pageEntries entries page)) := by
  simp only [pageQuery, given, Value.toEntries]
  rfl

/-- Decoding consumers change nothing and collect the items, or stop at an undecodable one. -/
theorem consumeAll_decode {α : Type} (decode : Value → Except Fault α) (items : List Value)
    (done : List α) (world : World) :
    (consumeAll (fun item => Api.lift (decode item)) items done).run world =
      ((done ++ ·) <$> items.mapM decode, world) := by
  induction items generalizing done with
  | nil => simp [consumeAll]; rfl
  | cons item rest ih =>
    simp only [consumeAll, Api.run_bind, Api.run_lift, List.mapM_cons]
    cases decode item with
    | error fault => rfl
    | ok value =>
      simp only [ih]
      cases rest.mapM decode <;> simp [List.append_assoc]

theorem pageOf_ok {address : String} {reply : Reply} {page : Value}
    (answered : pageOf address reply = .ok page) :
    ∃ body, outcome (.str "GET") address reply = .ok body ∧ body.orElse (.dict []) = page := by
  unfold pageOf at answered
  cases got : outcome (.str "GET") address reply with
  | error fault => simp [got] at answered
  | ok body => simp [got] at answered; exact ⟨body, rfl, answered⟩

section Walk

variable {α : Type} (client : Client) (path : String) (key params : Value)
  (decode : Value → Except Fault α) {entries : List (Value × Value)}

/-- A page whose items decode: the walk collects them, and goes on when the page links on. -/
theorem walkFrom_page (given : params.orElse (.dict []) = .dict entries) (fuel page : Nat)
    (done : List α) (world : World) {body : Value} {items : List Value} {decoded : List α}
    (answered : pageOf (client.address path) world.nextReply = .ok body)
    (held : itemsOf key body = .ok items) (decodes : items.mapM decode = .ok decoded) :
    (walkFrom client (.str path) key params (fun item => Api.lift (decode item)) (fuel + 1) page
        done).run world =
      let after := world.record (client.pageRequest path entries page)
      match hasNext body with
      | .ok true => (walkFrom client (.str path) key params (fun item => Api.lift (decode item))
          fuel (page + 1) (done ++ decoded)).run after
      | .ok false => (.ok (done ++ decoded), after)
      | .error fault => (.error fault, after) := by
  obtain ⟨reply, got, rfl⟩ := pageOf_ok answered
  obtain ⟨found, looked, iterated⟩ : ∃ found, (reply.orElse (.dict [])).get key (.list []) =
      .ok found ∧ found.members = .ok items := by
    unfold itemsOf at held
    cases looked : (reply.orElse (.dict [])).get key (.list []) with
    | error fault => simp [looked] at held
    | ok found => exact ⟨found, rfl, by simpa [looked] using held⟩
  simp only [walkFrom, Api.run_bind, Api.run_lift, pageQuery_of_entries given, get_run, got,
    looked, iterated, consumeAll_decode, decodes, Except.map_ok]
  cases hasNext (reply.orElse (.dict [])) with
  | error fault => rfl
  | ok more => cases more <;> rfl

/-- A page request that raises stops the walk with that fault, once the request is recorded. -/
theorem walkFrom_request_failed (given : params.orElse (.dict []) = .dict entries)
    (fuel page : Nat) (done : List α) (world : World) {fault : Fault}
    (failed : pageOf (client.address path) world.nextReply = .error fault) :
    (walkFrom client (.str path) key params (fun item => Api.lift (decode item)) (fuel + 1) page
        done).run world =
      (.error fault, world.record (client.pageRequest path entries page)) := by
  have got : outcome (.str "GET") (client.address path) world.nextReply = .error fault := by
    unfold pageOf at failed
    cases got : outcome (.str "GET") (client.address path) world.nextReply <;>
      simp_all
  simp only [walkFrom, Api.run_bind, Api.run_lift, pageQuery_of_entries given, get_run, got]
  rfl

/-- An undecodable item stops the walk with the decoder's fault, before the links are read. -/
theorem walkFrom_decode_failed (given : params.orElse (.dict []) = .dict entries)
    (fuel page : Nat) (done : List α) (world : World) {body : Value} {items : List Value}
    {fault : Fault} (answered : pageOf (client.address path) world.nextReply = .ok body)
    (held : itemsOf key body = .ok items) (fails : items.mapM decode = .error fault) :
    (walkFrom client (.str path) key params (fun item => Api.lift (decode item)) (fuel + 1) page
        done).run world =
      (.error fault, world.record (client.pageRequest path entries page)) := by
  obtain ⟨reply, got, rfl⟩ := pageOf_ok answered
  obtain ⟨found, looked, iterated⟩ : ∃ found, (reply.orElse (.dict [])).get key (.list []) =
      .ok found ∧ found.members = .ok items := by
    unfold itemsOf at held
    cases looked : (reply.orElse (.dict [])).get key (.list []) with
    | error fault => simp [looked] at held
    | ok found => exact ⟨found, rfl, by simpa [looked] using held⟩
  simp only [walkFrom, Api.run_bind, Api.run_lift, pageQuery_of_entries given, get_run, got,
    looked, iterated, consumeAll_decode, fails, Except.map_error]
  rfl

theorem pageRequests_succ (entries : List (Value × Value)) (first count : Nat) :
    client.pageRequests path entries first (count + 1) =
      client.pageRequest path entries first :: client.pageRequests path entries (first + 1) count := by
  simp only [pageRequests, List.range_succ_eq_map, List.map_cons, List.map_map, Nat.add_zero]
  congr 1
  apply List.map_congr_left
  intro index _
  simp only [Function.comp_apply]
  congr 1
  omega

/-- Pages that link on and whose items decode: the walk collects them all, in order. -/
theorem walkFrom_pages (given : params.orElse (.dict []) = .dict entries)
    (pages : List (Reply × List Value)) (rest : List Reply)
    (answered : ∀ p ∈ pages, Answers (client.address path) key p.1 p.2 true) :
    ∀ (fuel page : Nat) (done decoded : List α) (world : World),
      (pages.map (·.2)).flatten.mapM decode = .ok decoded →
      world.replies = pages.map (·.1) ++ rest → pages.length ≤ fuel →
      (walkFrom client (.str path) key params (fun item => Api.lift (decode item)) fuel page
          done).run world =
        (walkFrom client (.str path) key params (fun item => Api.lift (decode item))
            (fuel - pages.length) (page + pages.length) (done ++ decoded)).run
          { world with sent := world.sent ++ client.pageRequests path entries page pages.length,
                       replies := rest } := by
  induction pages with
  | nil =>
    intro fuel page done decoded world decodes script _
    simp only [List.map_nil, List.flatten_nil, List.mapM_nil] at decodes
    cases decodes
    simp only [List.map_nil, List.nil_append] at script
    simp [pageRequests, ← script]
  | cons first pages ih =>
    intro fuel page done decoded world decodes script enough
    obtain ⟨reply, items⟩ := first
    obtain ⟨fuel, rfl⟩ : ∃ fewer, fuel = fewer + 1 := ⟨fuel - 1, by simp at enough; omega⟩
    obtain ⟨body, page_ok, held, linked⟩ := answered (reply, items) (by simp)
    simp only [List.map_cons, List.flatten_cons, List.mapM_append] at decodes
    cases first_decodes : items.mapM decode with
    | error fault => simp [first_decodes] at decodes
    | ok now =>
      cases later_decodes : (pages.map (·.2)).flatten.mapM decode with
      | error fault => simp [first_decodes, later_decodes] at decodes
      | ok later =>
        simp only [first_decodes, later_decodes, Except.ok_bind] at decodes
        obtain rfl : now ++ later = decoded := Except.ok.inj decodes
        have next : world.nextReply = reply := World.nextReply_cons _ _ world (by simpa using script)
        rw [← next] at page_ok
        rw [walkFrom_page client path key params decode given fuel page done world page_ok held
          first_decodes]
        simp only [linked]
        rw [ih (fun p mem => answered p (by simp [mem])) fuel (page + 1) (done ++ now) later _
          later_decodes (by simp [script]) (by simp at enough; omega)]
        simp only [pageRequests_succ, List.append_assoc, List.length_cons, Nat.add_sub_add_right,
          Nat.add_assoc, Nat.add_comm 1, World.record_sent, List.cons_append, List.nil_append]
        rfl

theorem pageRequests_succ_last (entries : List (Value × Value)) (first count : Nat) :
    client.pageRequests path entries first (count + 1) =
      client.pageRequests path entries first count ++ [client.pageRequest path entries (first + count)] := by
  simp [pageRequests, List.range_succ]

/-- The world after a walk asked for its first `count` pages, with the script left at `rest`. -/
def afterPages (world : World) (entries : List (Value × Value)) (count : Nat) (rest : List Reply) :
    World :=
  { world with sent := world.sent ++ client.pageRequests path entries 1 count, replies := rest }

/-- The walk reaches the page after those that link on with one page of fuel to spare for it. -/
theorem walk_reaches (given : params.orElse (.dict []) = .dict entries)
    (pages : List (Reply × List Value)) (rest : List Reply)
    (answered : ∀ p ∈ pages, Answers (client.address path) key p.1 p.2 true) {decoded : List α}
    (decodes : (pages.map (·.2)).flatten.mapM decode = .ok decoded) (world : World)
    (script : world.replies = pages.map (·.1) ++ rest) :
    (client.walk (.str path) key params (fun item => Api.lift (decode item))).run world =
      (walkFrom client (.str path) key params (fun item => Api.lift (decode item))
          (rest.length + 1) (pages.length + 1) decoded).run
        (client.afterPages path world entries pages.length rest) := by
  simp only [walk, Api.run_bind, Api.run_getThe]
  rw [walkFrom_pages client path key params decode given pages rest answered _ 1 [] decoded world
    decodes script (by simp [script]; omega)]
  simp only [script, List.length_append, List.length_map, List.nil_append, afterPages]
  congr 2 <;> omega

theorem afterPages_record (world : World) (entries : List (Value × Value)) (count : Nat)
    (rest : List Reply) :
    (client.afterPages path world entries count rest).record
        (client.pageRequest path entries (count + 1)) =
      client.afterPages path world entries (count + 1) (rest.drop 1) := by
  simp only [afterPages, World.record, pageRequests_succ_last, List.append_assoc, Nat.add_comm 1]

@[simp] theorem afterPages_nextReply (world : World) (entries : List (Value × Value)) (count : Nat)
    (rest : List Reply) :
    (client.afterPages path world entries count rest).nextReply = rest.head?.getD noReplyLeft := rfl

end Walk

/-- A reply of status 200 with a JSON text answers a page request as the page says. -/
theorem answers_of_text (address : String) (key : Value) {text : String} {page : Value}
    {items : List Value} {more : Bool}
    (decoded : Text.decodeLossy (Text.encodeUtf8 text) = text.toList) (nonempty : text.toList ≠ [])
    (read : Json.readChars text.toList.toArray = .ok page)
    (held : itemsOf key (page.orElse (.dict [])) = .ok items)
    (linked : hasNext (page.orElse (.dict [])) = .ok more) :
    Answers address key (.response (.int 200) .none [] (Text.encodeUtf8 text)) items more := by
  refine ⟨page.orElse (.dict []), ?_, held, linked⟩
  rw [pageOf, outcome_of_text _ _ decoded nonempty read]
  rfl

/-- A first page of regions that links to a second: one region, and a next page. -/
theorem answers_with_next_link (address : String) :
    Answers address (.str "regions") (.response (.int 200) .none [] (Text.encodeUtf8
        "\x7b\"regions\": [\x7b\"slug\": \"nyc1\"\x7d], \"links\": \x7b\"pages\": \x7b\"next\": \"p2\"\x7d\x7d\x7d"))
      [.dict [(.str "slug", .str "nyc1")]] true :=
  answers_of_text address _ (by decide +kernel) (by decide) rfl rfl rfl

/-- Listing keeps every item as it is. -/
theorem mapM_ok (items : List Value) : items.mapM (Except.ok : Value → Except Fault Value) = .ok items := by
  induction items with
  | nil => rfl
  | cons item rest ih => simp [ih]

/-- The record a reply gives a request for one resource: its body's member, decoded. -/
def recordOf {α : Type} (address key : String) (decode : Value → Except Fault α) (reply : Reply) :
    Except Fault α := do
  let body ← outcome (.str "GET") address reply
  decode (← (body.orElse (.dict [])).get (.str key) (.dict []))

/-- A service through the session's client reads one resource with one GET. -/
theorem fetch_run (cloud : Cloud) (through : cloud.api = .ok (.handle .client)) (path key : String)
    {α : Type} (decode : Value → Except Fault α) (world : World) :
    (cloud.fetch (.str path) key decode).run world =
      (recordOf (cloud.client.address path) key decode world.nextReply,
        world.record (cloud.client.exchangeOf (.str "GET") path [("params", .none)])) := by
  simp only [Cloud.fetch, Cloud.get, Cloud.endpoint, through, Api.run_bind, Api.run_lift]
  simp only [Api.run_pure, Endpoint.get_client, get_run, recordOf]
  cases outcome (.str "GET") (cloud.client.address path) world.nextReply with
  | error fault => rfl
  | ok body =>
    simp only [Cloud.member, Api.run_lift, Except.ok_bind]
    cases (body.orElse (.dict [])).get (.str key) (.dict []) with
    | error fault => rfl
    | ok data => simp [Except.ok_bind]

/-- A service through the session's client lists a collection by walking it. -/
theorem collect_run (cloud : Cloud) (through : cloud.api = .ok (.handle .client)) (address key : String)
    {α : Type} (decode : Value → Except Fault α) (params : Value) (world : World) :
    (cloud.collect address key decode params).run world =
      (cloud.client.walk (.str address) (.str key) params fun item => Api.lift (decode item)).run world := by
  simp only [Cloud.collect, Cloud.endpoint, through, Api.run_bind, Api.run_lift]
  rfl

/-- A walk asks for pages in order from one, each with the caller's parameters and the page size,
and lists every item of every page, or raises the fault of the page that fails. -/
theorem pages_walked_in_order (client : Client) (path key : String) (params : Value)
    {entries : List (Value × Value)} (given : params.orElse (.dict []) = .dict entries)
    (pages : List (Reply × List Value))
    (answered : ∀ p ∈ pages, Answers (client.address path) (.str key) p.1 p.2 true)
    (rest : List Reply) (world : World) (script : world.replies = pages.map (·.1) ++ rest) :
    let collected := (pages.map (·.2)).flatten
    let next := rest.head?.getD noReplyLeft
    let asked := client.afterPages path world entries (pages.length + 1) (rest.drop 1)
    (∀ items, Answers (client.address path) (.str key) next items false →
      (client.listAll (.str path) (.str key) params).run world = (.ok (collected ++ items), asked)) ∧
    (∀ fault, pageOf (client.address path) next = .error fault →
      (client.listAll (.str path) (.str key) params).run world = (.error fault, asked)) ∧
    (∀ (cloud : Cloud) {α : Type} (decode : Value → Except Fault α) (decoded : List α) body items
        fault, cloud.client = client → cloud.api = .ok (.handle .client) →
      collected.mapM decode = .ok decoded → pageOf (client.address path) next = .ok body →
      itemsOf (.str key) body = .ok items → items.mapM decode = .error fault →
      (cloud.collect path key decode params).run world = (.error fault, asked)) := by
  intro collected next asked
  have listed : (pages.map (·.2)).flatten.mapM (Except.ok : Value → Except Fault Value) =
      .ok collected := mapM_ok _
  refine ⟨?last, ?failed, ?undecoded⟩
  case last =>
    intro items ⟨body, page_ok, held, linked⟩
    change (client.walk (.str path) (.str key) params fun item => Api.lift (.ok item)).run world = _
    rw [walk_reaches client path (.str key) params Except.ok given pages rest answered listed world
      script, walkFrom_page client path (.str key) params Except.ok given _ _ _
      (client.afterPages path world entries pages.length rest) page_ok held (mapM_ok items), linked,
      afterPages_record]
  case failed =>
    intro fault failed
    change (client.walk (.str path) (.str key) params fun item => Api.lift (.ok item)).run world = _
    rw [walk_reaches client path (.str key) params Except.ok given pages rest answered listed world
      script, walkFrom_request_failed client path (.str key) params Except.ok given _ _ _
      (client.afterPages path world entries pages.length rest) failed, afterPages_record]
  case undecoded =>
    intro cloud α decode decoded body items fault same through decodes page_ok held fails
    rw [collect_run cloud through, same, walk_reaches client path (.str key) params decode given pages
      rest answered decodes world script, walkFrom_decode_failed client path (.str key) params decode
      given _ _ _ (client.afterPages path world entries pages.length rest) page_ok held fails,
      afterPages_record]


/-- A listing served as two pages: two requests, and the regions of both pages in order. -/
theorem pages_walked_in_order_two_pages :
    let client : Client := { baseUrl := "https://api.digitalocean.com/v2", timeout := .int 30 }
    let first : Reply := .response (.int 200) .none [] (Text.encodeUtf8
      "\x7b\"regions\": [\x7b\"slug\": \"nyc1\"\x7d], \"links\": \x7b\"pages\": \x7b\"next\": \"p2\"\x7d\x7d\x7d")
    let last : Reply := .response (.int 200) .none [] (Text.encodeUtf8
      "\x7b\"regions\": [\x7b\"slug\": \"ams3\"\x7d]\x7d")
    let world : World := { replies := [first, last] }
    Value.none.orElse (.dict []) = .dict [] ∧
      (∀ p ∈ [(first, [Value.dict [(.str "slug", .str "nyc1")]])],
        Answers (client.address "/regions") (.str "regions") p.1 p.2 true) ∧
      world.replies = [(first, [Value.dict [(.str "slug", .str "nyc1")]])].map (·.1) ++ [last] ∧
      Answers (client.address "/regions") (.str "regions") last
        [.dict [(.str "slug", .str "ams3")]] false ∧
      (client.listAll (.str "/regions") (.str "regions") .none).run world =
        (.ok [.dict [(.str "slug", .str "nyc1")], .dict [(.str "slug", .str "ams3")]],
          client.afterPages "/regions" world [] 2 []) := by
  intro client first last world
  have answered : ∀ p ∈ [(first, [Value.dict [(.str "slug", .str "nyc1")]])],
      Answers (client.address "/regions") (.str "regions") p.1 p.2 true := by
    simpa using answers_with_next_link (client.address "/regions")
  have lastAnswered : Answers (client.address "/regions") (.str "regions") last
      [.dict [(.str "slug", .str "ams3")]] false :=
    answers_of_text _ _ (by decide +kernel) (by decide) rfl rfl rfl
  exact ⟨rfl, answered, rfl, lastAnswered, (pages_walked_in_order client "/regions" "regions" .none
    rfl _ answered [last] world rfl).1 _ lastAnswered⟩

end Client

end CloudClient

import CloudClient.Record.Decode
import CloudClient.Service.Basic
import CloudClient.Proofs.Run

namespace CloudClient

open Cloud (request)

namespace Value

@[simp] theorem lookup?_str_cons (k key : String) (v : Value) (rest : List (Value × Value)) :
    lookup? ((.str k, v) :: rest) (.str key) =
      if k = key then some v else lookup? rest (.str key) := by
  by_cases same : k = key <;> simp [lookup?, equals_str, same]

@[simp] theorem get_dict_str (entries : List (Value × Value)) (key : String) (fallback : Value) :
    (Value.dict entries).get (.str key) fallback =
      .ok ((lookup? entries (.str key)).getD fallback) := rfl

@[simp] theorem truthy_bool (b : Bool) : (Value.bool b).truthy = b := rfl

@[simp] theorem truthy_dict (entries : List (Value × Value)) :
    (Value.dict entries).truthy = !entries.isEmpty := rfl

@[simp] theorem none_orElse (fallback : Value) : Value.none.orElse fallback = fallback := rfl

end Value

namespace Payload

@[simp] theorem request_cons (key : String) (value : Value) (rest : List (String × Value)) :
    request ((key, value) :: rest) =
      .dict ((.str key, value) :: rest.map fun (k, v) => (.str k, v)) :=
  rfl

/-- The double a priced field decodes: the value, with the sign of a zero dropped. -/
def unsignedZero (x : Float) : Float := if x == 0 then 0 else x

/-- A double that is a number compares equal to itself with the sign of a zero dropped. -/
theorem equals_unsignedZero {x : Float} (number : (x == x) = true) :
    (x == unsignedZero x) = true := by
  unfold unsignedZero
  split
  case isTrue zero => exact zero
  case isFalse => exact number

theorem count_int (n : Int) : ((Value.int n).orElse (.int 0)).toInt = .ok n := by
  by_cases zero : n = 0
  · subst zero
    rfl
  · rw [Value.orElse_of_truthy (by simp [Value.truthy, zero])]
    rfl

theorem price_float (x : Float) :
    ((Value.float x).orElse (.float 0)).toFloat = .ok (unsignedZero x) := by
  unfold unsignedZero
  cases zero : x == 0
  · rw [Value.orElse_of_truthy (by simp [Value.truthy, zero])]
    rfl
  · rw [Value.orElse_of_falsy (by simp [Value.truthy, zero])]
    rfl

theorem items_list (items : List Value) :
    ((Value.list items).orElse (.list [])).members = .ok items := by
  cases items with
  | nil => rfl
  | cons item rest => rfl

theorem entries_dict (entries : List (Value × Value)) :
    ((Value.dict entries).orElse (.dict [])).toEntries = .ok entries := by
  cases entries with
  | nil => rfl
  | cons entry rest => rfl

/-- A nested record whose payload is a nonempty mapping decodes as the record. -/
theorem nested_payload {α : Type} (decode : Value → Except Fault α)
    (payload : α → List (String × Value))
    (decoded : ∀ record, decode (request (payload record)) = .ok record)
    (nonempty : ∀ record, payload record ≠ []) (nestedRecord : Option α) :
    nested decode (Value.ofOption (fun record => request (payload record)) nestedRecord) =
      .ok nestedRecord := by
  cases nestedRecord with
  | none => rfl
  | some record =>
    have truthy : (request (payload record)).truthy = true := by
      cases members : payload record with
      | nil => exact absurd members (nonempty record)
      | cons member rest => rfl
    simp only [nested, Value.ofOption, truthy, if_true, decoded]
    rfl

end Payload

/-- How decoding treats a record type's payloads: typed fields, records compared as payloads. -/
structure Decodes {α : Type} (decode : Value → Except Fault α)
    (payload : α → List (String × Value)) (typed : α → Prop) (same : α → α → Prop) (defaults : α)
    (fallbackKeys : List String) : Prop where
  /-- A record's payload, followed by any other members, decodes as the record. -/
  roundTrip : ∀ record, typed record → ∀ extras, ∃ decoded,
    decode (request (payload record ++ extras)) = .ok decoded ∧ same decoded record
  /-- The empty mapping decodes as the record of defaults. -/
  empty : decode (.dict []) = .ok defaults
  /-- A false value under a key read as "value or default" decodes as the key's absence. -/
  falseAsAbsent : ∀ key ∈ fallbackKeys, ∀ value entries, value.truthy = false →
    Value.lookup? entries (.str key) = Option.none →
    decode (.dict ((.str key, value) :: entries)) = decode (.dict entries)

/-- The payload of an account. -/
def Account.payload (a : Account) : List (String × Value) :=
  [("email", a.email), ("uuid", a.uuid), ("status", a.status), ("status_message", a.statusMessage),
    ("email_verified", .bool a.emailVerified), ("droplet_limit", .int a.dropletLimit),
    ("floating_ip_limit", .int a.floatingIpLimit)]

/-- The payload of a key. -/
def Key.payload (k : Key) : List (String × Value) :=
  [("id", .int k.id), ("name", k.name), ("fingerprint", k.fingerprint),
    ("public_key", k.publicKey)]

/-- The payload of a region. -/
def Region.payload (r : Region) : List (String × Value) :=
  [("slug", r.slug), ("name", r.name), ("sizes", .list r.sizes), ("available", .bool r.available),
    ("features", .list r.features)]

/-- The payload of a size. -/
def Size.payload (s : Size) : List (String × Value) :=
  [("slug", s.slug), ("memory", .int s.memory), ("vcpus", .int s.vcpus), ("disk", .int s.disk),
    ("price_monthly", .float s.priceMonthly), ("price_hourly", .float s.priceHourly),
    ("regions", .list s.regions), ("available", .bool s.available), ("transfer", .float s.transfer)]

/-- The payload of a droplet, its region nested. -/
def Droplet.payload (d : Droplet) : List (String × Value) :=
  [("id", .int d.id), ("name", d.name), ("memory", .int d.memory), ("vcpus", .int d.vcpus),
    ("disk", .int d.disk), ("status", d.status), ("locked", .bool d.locked),
    ("size_slug", d.sizeSlug), ("region", Value.ofOption (fun r => request r.payload) d.region),
    ("tags", .list d.tags), ("created_at", d.createdAt), ("networks", .dict d.networks)]

/-- The payload of an action. -/
def Action.payload (a : Action) : List (String × Value) :=
  [("id", .int a.id), ("status", a.status), ("type", a.type), ("started_at", a.startedAt),
    ("completed_at", a.completedAt), ("resource_id", .int a.resourceId),
    ("resource_type", a.resourceType), ("region_slug", a.regionSlug)]

/-- The payload of a floating IP, its region and droplet nested. -/
def FloatingIp.payload (f : FloatingIp) : List (String × Value) :=
  [("ip", f.ip), ("region", Value.ofOption (fun r => request r.payload) f.region),
    ("droplet", Value.ofOption (fun d => request d.payload) f.droplet)]

/-- The payload of a volume, its region nested. -/
def Volume.payload (v : Volume) : List (String × Value) :=
  [("id", v.id), ("name", v.name), ("region", Value.ofOption (fun r => request r.payload) v.region),
    ("size_gigabytes", .int v.sizeGigabytes), ("description", v.description),
    ("droplet_ids", .list v.dropletIds), ("created_at", v.createdAt)]

/-- The payload of a snapshot. -/
def Snapshot.payload (s : Snapshot) : List (String × Value) :=
  [("id", .str s.id), ("name", s.name), ("resource_id", .str s.resourceId),
    ("resource_type", s.resourceType), ("regions", .list s.regions),
    ("min_disk_size", .int s.minDiskSize), ("size_gigabytes", .float s.sizeGigabytes),
    ("created_at", s.createdAt)]

/-- The payload of a domain. -/
def Domain.payload (d : Domain) : List (String × Value) :=
  [("name", d.name), ("ttl", .int d.ttl), ("zone_file", d.zoneFile)]

/-- The payload of a domain record. -/
def DomainRecord.payload (r : DomainRecord) : List (String × Value) :=
  [("id", .int r.id), ("type", r.type), ("name", r.name), ("data", r.data),
    ("priority", r.priority), ("port", r.port), ("ttl", .int r.ttl), ("weight", r.weight)]

/-- The payload of a tag: its resource count under `resources.count`. -/
def Tag.payload (t : Tag) : List (String × Value) :=
  [("name", t.name), ("resources", request [("count", .int t.resourceCount)])]

/-- The doubles of a size are numbers. -/
def Size.Typed (s : Size) : Prop :=
  (s.priceMonthly == s.priceMonthly) = true ∧ (s.priceHourly == s.priceHourly) = true ∧
    (s.transfer == s.transfer) = true

/-- A size compares equal to another: the same fields, the doubles compared as numbers. -/
def Size.Same (decoded s : Size) : Prop :=
  { decoded with
    priceMonthly := s.priceMonthly, priceHourly := s.priceHourly, transfer := s.transfer } = s ∧
    (s.priceMonthly == decoded.priceMonthly) = true ∧
    (s.priceHourly == decoded.priceHourly) = true ∧ (s.transfer == decoded.transfer) = true

/-- The size of a snapshot is a number. -/
def Snapshot.Typed (s : Snapshot) : Prop := (s.sizeGigabytes == s.sizeGigabytes) = true

/-- A snapshot compares equal to another: the same fields, the size compared as a number. -/
def Snapshot.Same (decoded s : Snapshot) : Prop :=
  { decoded with sizeGigabytes := s.sizeGigabytes } = s ∧
    (s.sizeGigabytes == decoded.sizeGigabytes) = true

/-- The zone file of a domain is text. -/
def Domain.Typed (d : Domain) : Prop := ∃ text, d.zoneFile = .str text

section RoundTrip

variable (extras : List (String × Value))

theorem Account.decode_payload (a : Account) :
    Account.decode (request (a.payload ++ extras)) = .ok a := by
  simp [Account.decode, Account.payload, Payload.text, Payload.flag, Payload.count,
    Payload.optional, Payload.count_int]

theorem Key.decode_payload (k : Key) : Key.decode (request (k.payload ++ extras)) = .ok k := by
  simp [Key.decode, Key.payload, Payload.text, Payload.count, Payload.optional, Payload.count_int]

theorem Region.decode_payload (r : Region) :
    Region.decode (request (r.payload ++ extras)) = .ok r := by
  simp [Region.decode, Region.payload, Payload.text, Payload.flag, Payload.items,
    Payload.optional, Payload.items_list]

theorem Size.decode_payload (s : Size) :
    Size.decode (request (s.payload ++ extras)) =
      .ok { s with
        priceMonthly := Payload.unsignedZero s.priceMonthly
        priceHourly := Payload.unsignedZero s.priceHourly
        transfer := Payload.unsignedZero s.transfer } := by
  simp [Size.decode, Size.payload, Payload.text, Payload.flag, Payload.count, Payload.price,
    Payload.items, Payload.optional, Payload.count_int, Payload.price_float, Payload.items_list]

/-- A nested region decodes as itself. -/
theorem Region.nested_payload (region : Option Region) :
    Payload.nested Region.decode (Value.ofOption (fun r => request r.payload) region) = .ok region :=
  Payload.nested_payload Region.decode Region.payload
    (fun r => by simpa only [List.append_nil] using Region.decode_payload [] r)
    (fun _ => List.cons_ne_nil _ _) region

theorem Droplet.decode_payload (d : Droplet) :
    Droplet.decode (request (d.payload ++ extras)) = .ok d := by
  simp [Droplet.decode, Droplet.payload, Payload.text, Payload.flag, Payload.count,
    Payload.items, Payload.entries, Payload.optional, Payload.count_int, Payload.items_list,
    Payload.entries_dict, Region.nested_payload]

/-- A nested droplet decodes as itself. -/
theorem Droplet.nested_payload (droplet : Option Droplet) :
    Payload.nested Droplet.decode (Value.ofOption (fun d => request d.payload) droplet) = .ok droplet :=
  Payload.nested_payload Droplet.decode Droplet.payload
    (fun d => by simpa only [List.append_nil] using Droplet.decode_payload [] d)
    (fun _ => List.cons_ne_nil _ _) droplet

theorem Action.decode_payload (a : Action) :
    Action.decode (request (a.payload ++ extras)) = .ok a := by
  simp [Action.decode, Action.payload, Payload.text, Payload.count, Payload.optional,
    Payload.count_int]

theorem FloatingIp.decode_payload (f : FloatingIp) :
    FloatingIp.decode (request (f.payload ++ extras)) = .ok f := by
  simp [FloatingIp.decode, FloatingIp.payload, Payload.text, Payload.optional,
    Region.nested_payload, Droplet.nested_payload]

theorem Volume.decode_payload (v : Volume) :
    Volume.decode (request (v.payload ++ extras)) = .ok v := by
  simp [Volume.decode, Volume.payload, Payload.text, Payload.count, Payload.items,
    Payload.optional, Payload.count_int, Payload.items_list, Region.nested_payload]

theorem Snapshot.decode_payload (s : Snapshot) :
    Snapshot.decode (request (s.payload ++ extras)) =
      .ok { s with sizeGigabytes := Payload.unsignedZero s.sizeGigabytes } := by
  simp [Snapshot.decode, Snapshot.payload, Payload.text, Payload.count, Payload.price,
    Payload.items, Payload.optional, Payload.count_int, Payload.price_float, Payload.items_list,
    Value.plain]

theorem Domain.decode_payload (d : Domain) (typed : d.Typed) :
    Domain.decode (request (d.payload ++ extras)) = .ok d := by
  obtain ⟨name, ttl, zone⟩ := d
  obtain ⟨text, rfl⟩ := typed
  have zoneFile : (Value.str text).orElse (.str "") = .str text := by
    by_cases empty : text = ""
    · subst empty
      rfl
    · exact Value.orElse_of_truthy (by simpa [Value.truthy] using empty) _
  simp [Domain.decode, Domain.payload, Payload.text, Payload.count, Payload.optional,
    Payload.count_int, zoneFile]

theorem DomainRecord.decode_payload (r : DomainRecord) :
    DomainRecord.decode (request (r.payload ++ extras)) = .ok r := by
  simp [DomainRecord.decode, DomainRecord.payload, Payload.text, Payload.count, Payload.optional,
    Payload.count_int]

theorem Tag.decode_payload (t : Tag) : Tag.decode (request (t.payload ++ extras)) = .ok t := by
  simp [Tag.decode, Tag.payload, Payload.text, Payload.count, Payload.optional, Payload.count_int]

end RoundTrip

section Decoding

theorem Account.decodes :
    Decodes Account.decode Account.payload (fun _ => True) Eq {}
      ["droplet_limit", "floating_ip_limit"] where
  roundTrip account _ extras := ⟨account, Account.decode_payload extras account, rfl⟩
  empty := rfl
  falseAsAbsent key listed value entries falsy absent := by
    simp only [List.mem_cons, List.mem_nil_iff, or_false] at listed
    rcases listed with rfl | rfl <;>
      simp [Account.decode, Payload.text, Payload.flag, Payload.count, Payload.optional, falsy,
        absent]

theorem Key.decodes : Decodes Key.decode Key.payload (fun _ => True) Eq {} ["id"] where
  roundTrip key _ extras := ⟨key, Key.decode_payload extras key, rfl⟩
  empty := rfl
  falseAsAbsent key listed value entries falsy absent := by
    simp only [List.mem_cons, List.mem_nil_iff, or_false] at listed
    subst listed
    simp [Key.decode, Payload.text, Payload.count, Payload.optional, falsy, absent]

theorem Region.decodes :
    Decodes Region.decode Region.payload (fun _ => True) Eq {} ["sizes", "features"] where
  roundTrip region _ extras := ⟨region, Region.decode_payload extras region, rfl⟩
  empty := rfl
  falseAsAbsent key listed value entries falsy absent := by
    simp only [List.mem_cons, List.mem_nil_iff, or_false] at listed
    rcases listed with rfl | rfl <;>
      simp [Region.decode, Payload.text, Payload.flag, Payload.items, Payload.optional, falsy,
        absent]

theorem Size.decodes :
    Decodes Size.decode Size.payload Size.Typed Size.Same {}
      ["memory", "vcpus", "disk", "price_monthly", "price_hourly", "regions", "transfer"] where
  -- the doubles come back with the sign of a zero dropped, which compares equal to them
  roundTrip size typed extras :=
    ⟨_, Size.decode_payload extras size, rfl, Payload.equals_unsignedZero typed.1,
      Payload.equals_unsignedZero typed.2.1, Payload.equals_unsignedZero typed.2.2⟩
  empty := rfl
  falseAsAbsent key listed value entries falsy absent := by
    simp only [List.mem_cons, List.mem_nil_iff, or_false] at listed
    rcases listed with rfl | rfl | rfl | rfl | rfl | rfl | rfl <;>
      simp [Size.decode, Payload.text, Payload.flag, Payload.count, Payload.price, Payload.items,
        Payload.optional, falsy, absent]

theorem Droplet.decodes :
    Decodes Droplet.decode Droplet.payload (fun _ => True) Eq {}
      ["id", "memory", "vcpus", "disk", "region", "tags", "networks"] where
  roundTrip droplet _ extras := ⟨droplet, Droplet.decode_payload extras droplet, rfl⟩
  empty := rfl
  falseAsAbsent key listed value entries falsy absent := by
    simp only [List.mem_cons, List.mem_nil_iff, or_false] at listed
    -- a false region is no region, the decoder of regions never being reached
    rcases listed with rfl | rfl | rfl | rfl | rfl | rfl | rfl <;>
      simp [Droplet.decode, Payload.text, Payload.flag, Payload.count, Payload.items,
        Payload.entries, Payload.nested, Payload.optional, falsy, absent]

theorem Action.decodes :
    Decodes Action.decode Action.payload (fun _ => True) Eq {} ["id", "resource_id"] where
  roundTrip action _ extras := ⟨action, Action.decode_payload extras action, rfl⟩
  empty := rfl
  falseAsAbsent key listed value entries falsy absent := by
    simp only [List.mem_cons, List.mem_nil_iff, or_false] at listed
    rcases listed with rfl | rfl <;>
      simp [Action.decode, Payload.text, Payload.count, Payload.optional, falsy, absent]

theorem FloatingIp.decodes :
    Decodes FloatingIp.decode FloatingIp.payload (fun _ => True) Eq {} ["region", "droplet"] where
  roundTrip floatingIp _ extras :=
    ⟨floatingIp, FloatingIp.decode_payload extras floatingIp, rfl⟩
  empty := rfl
  falseAsAbsent key listed value entries falsy absent := by
    simp only [List.mem_cons, List.mem_nil_iff, or_false] at listed
    rcases listed with rfl | rfl <;>
      simp [FloatingIp.decode, Payload.text, Payload.nested, Payload.optional, falsy, absent]

theorem Volume.decodes :
    Decodes Volume.decode Volume.payload (fun _ => True) Eq {}
      ["region", "size_gigabytes", "droplet_ids"] where
  roundTrip volume _ extras := ⟨volume, Volume.decode_payload extras volume, rfl⟩
  empty := rfl
  falseAsAbsent key listed value entries falsy absent := by
    simp only [List.mem_cons, List.mem_nil_iff, or_false] at listed
    rcases listed with rfl | rfl | rfl <;>
      simp [Volume.decode, Payload.text, Payload.count, Payload.items, Payload.nested,
        Payload.optional, falsy, absent]

theorem Snapshot.decodes :
    Decodes Snapshot.decode Snapshot.payload Snapshot.Typed Snapshot.Same {}
      ["regions", "min_disk_size", "size_gigabytes"] where
  roundTrip snapshot typed extras :=
    ⟨_, Snapshot.decode_payload extras snapshot, rfl, Payload.equals_unsignedZero typed⟩
  empty := rfl
  falseAsAbsent key listed value entries falsy absent := by
    simp only [List.mem_cons, List.mem_nil_iff, or_false] at listed
    rcases listed with rfl | rfl | rfl <;>
      simp [Snapshot.decode, Payload.text, Payload.count, Payload.price, Payload.items,
        Payload.optional, falsy, absent]

theorem Domain.decodes :
    Decodes Domain.decode Domain.payload Domain.Typed Eq {} ["ttl", "zone_file"] where
  roundTrip domain typed extras := ⟨domain, Domain.decode_payload extras domain typed, rfl⟩
  empty := rfl
  falseAsAbsent key listed value entries falsy absent := by
    simp only [List.mem_cons, List.mem_nil_iff, or_false] at listed
    rcases listed with rfl | rfl <;>
      simp [Domain.decode, Payload.text, Payload.count, Payload.optional, falsy, absent]

theorem DomainRecord.decodes :
    Decodes DomainRecord.decode DomainRecord.payload (fun _ => True) Eq {} ["id", "ttl"] where
  roundTrip record _ extras := ⟨record, DomainRecord.decode_payload extras record, rfl⟩
  empty := rfl
  falseAsAbsent key listed value entries falsy absent := by
    simp only [List.mem_cons, List.mem_nil_iff, or_false] at listed
    rcases listed with rfl | rfl <;>
      simp [DomainRecord.decode, Payload.text, Payload.count, Payload.optional, falsy, absent]

theorem Tag.decodes : Decodes Tag.decode Tag.payload (fun _ => True) Eq {} ["resources"] where
  roundTrip tag _ extras := ⟨tag, Tag.decode_payload extras tag, rfl⟩
  empty := rfl
  falseAsAbsent key listed value entries falsy absent := by
    simp only [List.mem_cons, List.mem_nil_iff, or_false] at listed
    subst listed
    -- a false resources member is read as the empty mapping, as a missing one is
    simp [Tag.decode, Payload.text, Payload.count, Payload.optional, falsy, absent]

/-- Every record type decodes its payloads back, the empty mapping as its defaults, and a false
value under a key read with a default as the key's absence. -/
theorem records_decode_payloads :
    Decodes Account.decode Account.payload (fun _ => True) Eq {}
        ["droplet_limit", "floating_ip_limit"] ∧
      Decodes Key.decode Key.payload (fun _ => True) Eq {} ["id"] ∧
      Decodes Region.decode Region.payload (fun _ => True) Eq {} ["sizes", "features"] ∧
      Decodes Size.decode Size.payload Size.Typed Size.Same {}
        ["memory", "vcpus", "disk", "price_monthly", "price_hourly", "regions", "transfer"] ∧
      Decodes Droplet.decode Droplet.payload (fun _ => True) Eq {}
        ["id", "memory", "vcpus", "disk", "region", "tags", "networks"] ∧
      Decodes Action.decode Action.payload (fun _ => True) Eq {} ["id", "resource_id"] ∧
      Decodes FloatingIp.decode FloatingIp.payload (fun _ => True) Eq {} ["region", "droplet"] ∧
      Decodes Volume.decode Volume.payload (fun _ => True) Eq {}
        ["region", "size_gigabytes", "droplet_ids"] ∧
      Decodes Snapshot.decode Snapshot.payload Snapshot.Typed Snapshot.Same {}
        ["regions", "min_disk_size", "size_gigabytes"] ∧
      Decodes Domain.decode Domain.payload Domain.Typed Eq {} ["ttl", "zone_file"] ∧
      Decodes DomainRecord.decode DomainRecord.payload (fun _ => True) Eq {} ["id", "ttl"] ∧
      Decodes Tag.decode Tag.payload (fun _ => True) Eq {} ["resources"] :=
  ⟨Account.decodes, Key.decodes, Region.decodes, Size.decodes, Droplet.decodes, Action.decodes,
    FloatingIp.decodes, Volume.decodes, Snapshot.decodes, Domain.decodes, DomainRecord.decodes,
    Tag.decodes⟩

end Decoding

end CloudClient

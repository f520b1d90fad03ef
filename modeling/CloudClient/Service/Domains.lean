import CloudClient.Service.Basic

namespace CloudClient

namespace Cloud

/-- Every domain. -/
def domains (cloud : Cloud) : Api (List Domain) :=
  cloud.collect "/domains" "domains" Domain.decode

/-- One domain. -/
def domain (cloud : Cloud) (name : Value) : Api Domain :=
  cloud.fetch (path [.str "/domains/", name]) "domain" Domain.decode

/-- Creates a domain; the apex address is sent when it is true. -/
def createDomain (cloud : Cloud) (name ipAddress : Value) : Api Domain := do
  let members := if ipAddress.truthy then [("name", name), ("ip_address", ipAddress)]
    else [("name", name)]
  let reply ← cloud.post (.str "/domains") (request members)
  let created ← Api.lift (Domain.decode (← member reply "domain"))
  cloud.track "Domain" created.name
  pure created

/-- The identifier under which a record of a domain is tracked. -/
def recordKey (domainName recordId : Value) : Value :=
  .str (domainName.plain ++ "/" ++ recordId.plain)

/-- Deletes a domain and forgets its records. -/
def deleteDomain (cloud : Cloud) (name : Value) : Api Unit := do
  let _ ← cloud.delete (path [.str "/domains/", name])
  cloud.untrack "Domain" name
  cloud.report "deleted_where" (Api.untrackWhere (.str "DomainRecord") fun rid =>
    rid.startsWith (.str (name.plain ++ "/")))

/-- The records of a domain. -/
def domainRecords (cloud : Cloud) (domainName : Value) : Api (List DomainRecord) :=
  cloud.collect (domainName.plain |> fun n => "/domains/" ++ n ++ "/records") "domain_records"
    DomainRecord.decode

/-- One record of a domain. -/
def domainRecord (cloud : Cloud) (domainName recordId : Value) : Api DomainRecord :=
  cloud.fetch (path [.str "/domains/", domainName, .str "/records/", recordId]) "domain_record"
    DomainRecord.decode

/-- The keyword fields that are not nothing. -/
def givenFields (fields : List (String × Value)) : List (Value × Value) :=
  (fields.filter fun (_, value) => match value with
    | .none => false
    | _ => true).map fun (key, value) => (.str key, value)

/-- Adds a record to a domain. -/
def createDomainRecord (cloud : Cloud) (domainName recordType name data : Value)
    (fields : List (String × Value)) : Api DomainRecord := do
  let base := [(Value.str "type", recordType), (.str "name", name), (.str "data", data)]
  let body := (givenFields fields).foldl (fun acc (k, v) => Value.insertEntry acc k v) base
  let address := path [.str "/domains/", domainName, .str "/records"]
  let reply ← cloud.post address (.dict body)
  let created ← Api.lift (DomainRecord.decode (← member reply "domain_record"))
  cloud.track "DomainRecord" (recordKey domainName (.int created.id))
  pure created

/-- Changes fields of a record. -/
def updateDomainRecord (cloud : Cloud) (domainName recordId : Value)
    (fields : List (String × Value)) : Api DomainRecord := do
  let reply ← cloud.put (path [.str "/domains/", domainName, .str "/records/", recordId])
    (.dict (givenFields fields))
  Api.lift (DomainRecord.decode (← member reply "domain_record"))

/-- Deletes a record of a domain. -/
def deleteDomainRecord (cloud : Cloud) (domainName recordId : Value) : Api Unit := do
  let _ ← cloud.delete (path [.str "/domains/", domainName, .str "/records/", recordId])
  cloud.untrack "DomainRecord" (recordKey domainName recordId)

end Cloud

end CloudClient

import CloudClient.Value.Basic

namespace CloudClient

/-- How a record field is filled when it is not given. -/
inductive FieldDefault where
  /-- The field must be given. -/
  | required
  /-- A fixed value, readable on the kind as well. -/
  | shared (value : Value)
  /-- A fresh empty collection for each record. -/
  | fresh (value : Value)
  deriving Inhabited

namespace RecordKind

/-- The empty text. -/
def emptyText : FieldDefault := .shared (.str "")

/-- The integer zero. -/
def zeroInt : FieldDefault := .shared (.int 0)

/-- Nothing. -/
def absent : FieldDefault := .shared .none

/-- A fresh empty list. -/
def emptyList : FieldDefault := .fresh (.list [])

/-- The defaults of a kind's fields, in declaration order. -/
def fieldDefaults : RecordKind → List FieldDefault
  | .account =>
    [emptyText, emptyText, emptyText, emptyText, .shared (.bool false), zeroInt, zeroInt]
  | .key => [zeroInt, emptyText, emptyText, emptyText]
  | .region => [emptyText, emptyText, emptyList, .shared (.bool false), emptyList]
  | .size =>
    [emptyText, zeroInt, zeroInt, zeroInt, .shared (.float 0), .shared (.float 0), emptyList,
      .shared (.bool false), .shared (.float 0)]
  | .droplet =>
    [zeroInt, emptyText, zeroInt, zeroInt, zeroInt, emptyText, .shared (.bool false), emptyText,
      absent, emptyList, emptyText, .fresh (.dict [])]
  | .action => [zeroInt, emptyText, emptyText, absent, absent, zeroInt, emptyText, emptyText]
  | .spacesBucket => [.required, .required, absent]
  | .floatingIp => [emptyText, absent, absent]
  | .volume => [emptyText, emptyText, absent, zeroInt, emptyText, emptyList, emptyText]
  | .snapshot =>
    [emptyText, emptyText, emptyText, emptyText, emptyList, zeroInt, .shared (.float 0),
      emptyText]
  | .domain => [emptyText, zeroInt, emptyText]
  | .domainRecord => [zeroInt, emptyText, emptyText, emptyText, absent, absent, zeroInt, absent]
  | .tag => [emptyText, zeroInt]

/-- The value of a field as read on the kind itself: its shared default, if it has one. -/
def classAttribute? (kind : RecordKind) (field : String) : Option Value :=
  match (kind.fieldNames.zip kind.fieldDefaults).find? (·.1 == field) with
  | some (_, .shared value) => some value
  | _ => Option.none

end RecordKind

end CloudClient

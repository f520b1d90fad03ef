import CloudClient.Json.Write
import CloudClient.Proofs.Run
import CloudClient.Value.Equality
-- Results written through the default hook, and the field mappings of records.

namespace CloudClient

namespace Value

mutual

/-- A value with every record replaced by the mapping of its declared fields, at any depth. -/
def fieldMaps : Value → Value
  | .list items => .list (fieldMapsAll items)
  | .tuple items => .tuple (fieldMapsAll items)
  | .dict entries => .dict (fieldMapsEntries entries)
  | .record kind fields => .dict (fieldMapsNamed kind.fieldNames fields)
  | v => v

/-- The field mappings of the items of a list. -/
def fieldMapsAll : List Value → List Value
  | [] => []
  | item :: rest => fieldMaps item :: fieldMapsAll rest

/-- The entries of a mapping with the field mappings of their values. -/
def fieldMapsEntries : List (Value × Value) → List (Value × Value)
  | [] => []
  | (key, value) :: rest => (key, fieldMaps value) :: fieldMapsEntries rest

/-- The entries of a record's field map: each name, as text, with the field maps of its value. -/
def fieldMapsNamed : List String → List Value → List (Value × Value)
  | name :: names, value :: rest => (.str name, fieldMaps value) :: fieldMapsNamed names rest
  | _, _ => []

end

/-- Whether JSON can write a value as an object's key: text, a double, a truth value or a number. -/
def isKeyKind : Value → Bool
  | .str _ | .float _ | .bool _ | .none | .int _ => true
  | _ => false

mutual

/-- Whether a value holds, where JSON's own rules look, something they cannot write. -/
def unwritable : Value → Bool
  | .none | .bool _ | .int _ | .float _ | .str _ => false
  | .list items | .tuple items => anyUnwritable items
  | .dict entries => entriesUnwritable entries
  | _ => true

/-- Whether some item of a list holds something JSON cannot write. -/
def anyUnwritable : List Value → Bool
  | [] => false
  | item :: rest => unwritable item || anyUnwritable rest

/-- Whether some entry of a mapping has a key or a value JSON cannot write. -/
def entriesUnwritable : List (Value × Value) → Bool
  | [] => false
  | (key, value) :: rest => !key.isKeyKind || unwritable value || entriesUnwritable rest

end

mutual

/-- Whether every mapping in a value, at any depth `asdict` reaches, has hashable keys. -/
def keysHashable : Value → Bool
  | .list items | .tuple items => allKeysHashable items
  | .dict entries => entriesKeysHashable entries
  | .record _ fields => allKeysHashable fields
  | _ => true

/-- Whether every item of a list has keys that can key a mapping. -/
def allKeysHashable : List Value → Bool
  | [] => true
  | item :: rest => keysHashable item && allKeysHashable rest

/-- Whether every key of a mapping can key a mapping, and every value has such keys. -/
def entriesKeysHashable : List (Value × Value) → Bool
  | [] => true
  | (key, value) :: rest =>
    key.unhashablePart?.isNone && keysHashable value && entriesKeysHashable rest

end

end Value

namespace Json

variable (layout : Layout)

section Asdict

mutual

/-- A hashable value holds no record, list, mapping or set, so `asdict` copies it. -/
theorem asdict_of_hashable : ∀ v : Value, v.unhashablePart? = none → asdict v = v
  | .tuple items, hashable => by
    rw [asdict, asdictAll_of_hashable items hashable]
  | .list _, hashable | .dict _, hashable | .set _, hashable | .record _ _, hashable => by
    cases hashable
  | .none, _ | .bool _, _ | .int _, _ | .float _, _ | .str _, _ | .bytes _, _ | .recordClass _, _
  | .time _, _ | .handle _, _ => rfl

theorem asdictAll_of_hashable : ∀ items : List Value,
    Value.unhashablePart?.firstUnhashable items = none → asdictAll items = items
  | [], _ => rfl
  | item :: rest, hashable => by
    rw [Value.unhashablePart?.firstUnhashable] at hashable
    cases first : item.unhashablePart? with
    | some part =>
      rw [first] at hashable
      cases hashable
    | none =>
      rw [first] at hashable
      rw [asdictAll, asdict_of_hashable item first, asdictAll_of_hashable rest hashable]

end

mutual

/-- What `asdict` makes of a value whose mappings have hashable keys is its field maps. -/
theorem asdict_eq_fieldMaps : ∀ v : Value, v.keysHashable = true → asdict v = v.fieldMaps
  | .list items, hashable => by
    rw [asdict, Value.fieldMaps, asdictAll_eq items hashable]
  | .tuple items, hashable => by
    rw [asdict, Value.fieldMaps, asdictAll_eq items hashable]
  | .dict entries, hashable => by
    rw [asdict, Value.fieldMaps, asdictEntries_eq entries hashable]
  | .record kind fields, hashable => by
    rw [asdict, Value.fieldMaps, asdictFields_eq kind.fieldNames fields hashable]
  | .none, _ | .bool _, _ | .int _, _ | .float _, _ | .str _, _ | .bytes _, _ | .set _, _
  | .recordClass _, _ | .time _, _ | .handle _, _ => rfl

theorem asdictAll_eq : ∀ items : List Value, Value.allKeysHashable items = true →
    asdictAll items = Value.fieldMapsAll items
  | [], _ => rfl
  | item :: rest, hashable => by
    rw [Value.allKeysHashable, Bool.and_eq_true] at hashable
    rw [asdictAll, Value.fieldMapsAll, asdict_eq_fieldMaps item hashable.1,
      asdictAll_eq rest hashable.2]

theorem asdictEntries_eq : ∀ entries : List (Value × Value),
    Value.entriesKeysHashable entries = true → asdictEntries entries = Value.fieldMapsEntries entries
  | [], _ => rfl
  | (key, value) :: rest, hashable => by
    rw [Value.entriesKeysHashable, Bool.and_eq_true, Bool.and_eq_true, Option.isNone_iff_eq_none]
      at hashable
    obtain ⟨⟨keyHashable, valueHashable⟩, restHashable⟩ := hashable
    rw [asdictEntries, Value.fieldMapsEntries, asdict_of_hashable key keyHashable,
      asdict_eq_fieldMaps value valueHashable, asdictEntries_eq rest restHashable]

theorem asdictFields_eq : ∀ (names : List String) (fields : List Value),
    Value.allKeysHashable fields = true → asdictFields names fields = Value.fieldMapsNamed names fields
  | name :: names, value :: rest, hashable => by
    rw [Value.allKeysHashable, Bool.and_eq_true] at hashable
    rw [asdictFields, Value.fieldMapsNamed, asdict_eq_fieldMaps value hashable.1,
      asdictFields_eq names rest hashable.2]
  | [], fields, _ => by cases fields <;> rfl
  | _ :: _, [], _ => rfl

end

end Asdict

section Hook

variable (layout : Layout)

mutual

/-- What the hook gives needs no second call of the hook: `asdict` leaves no record to meet. -/
theorem writeWith_viaHook_asdict : ∀ v : Value,
    writeWith layout (viaHook layout) (asdict v) = writeNative layout (asdict v)
  | .record kind fields => by
    rw [asdict, writeNative, writeWith, writeWith, viaHook_asdictFields kind.fieldNames fields]
  | .list items => by
    rw [asdict, writeNative, writeWith, writeWith, viaHook_asdictAll items]
  | .tuple items => by
    rw [asdict, writeNative, writeWith, writeWith, viaHook_asdictAll items]
  | .dict entries => by
    rw [asdict, writeNative, writeWith, writeWith, viaHook_asdictEntries entries]
  | .none | .bool true | .bool false | .int _ | .float _ | .str _ | .bytes _ | .set _
  | .recordClass _ | .time _ | .handle _ => rfl

theorem viaHook_asdictAll : ∀ items : List Value,
    writeItemsWith layout (viaHook layout) (asdictAll items) =
      writeItemsWith layout refuse (asdictAll items)
  | [] => rfl
  | item :: rest => by
    rw [asdictAll, writeItemsWith, writeItemsWith, writeWith_viaHook_asdict item, writeNative,
      viaHook_asdictAll rest]

theorem viaHook_asdictEntries : ∀ entries : List (Value × Value),
    writeEntriesWith layout (viaHook layout) (asdictEntries entries) =
      writeEntriesWith layout refuse (asdictEntries entries)
  | [] => rfl
  | (key, value) :: rest => by
    rw [asdictEntries, writeEntriesWith, writeEntriesWith, writeWith_viaHook_asdict value,
      writeNative, viaHook_asdictEntries rest]

theorem viaHook_asdictFields : ∀ (names : List String) (fields : List Value),
    writeEntriesWith layout (viaHook layout) (asdictFields names fields) =
      writeEntriesWith layout refuse (asdictFields names fields)
  | name :: names, value :: rest => by
    rw [asdictFields, writeEntriesWith, writeEntriesWith, writeWith_viaHook_asdict value,
      writeNative, viaHook_asdictFields names rest]
  | [], fields => by cases fields <;> rfl
  | _ :: _, [] => rfl

end

end Hook

section FieldMaps

variable (layout : Layout)

mutual

/-- Writing a result whose mappings have hashable keys writes its field maps by JSON's own rules. -/
theorem write_eq_writeNative : ∀ v : Value, v.keysHashable = true →
    write layout v = writeNative layout v.fieldMaps
  | .list items, hashable => by
    rw [write, writeWith, Value.fieldMaps, writeNative, writeWith, writeItems_eq items hashable]
  | .tuple items, hashable => by
    rw [write, writeWith, Value.fieldMaps, writeNative, writeWith, writeItems_eq items hashable]
  | .dict entries, hashable => by
    rw [write, writeWith, Value.fieldMaps, writeNative, writeWith,
      writeEntries_eq entries hashable]
  | .record kind fields, hashable => by
    -- a record is no value JSON's rules write, so it goes to the hook
    show viaHook layout (.record kind fields) = _
    rw [viaHook, toJsonable, asdict_eq_fieldMaps _ hashable]
    rfl
  | .none, _ | .bool true, _ | .bool false, _ | .int _, _ | .float _, _ | .str _, _
  | .bytes _, _ | .set _, _ | .recordClass _, _ | .time _, _ | .handle _, _ => rfl

theorem writeItems_eq : ∀ items : List Value, Value.allKeysHashable items = true →
    writeItemsWith layout (viaHook layout) items =
      writeItemsWith layout refuse (Value.fieldMapsAll items)
  | [], _ => rfl
  | item :: rest, hashable => by
    rw [Value.allKeysHashable, Bool.and_eq_true] at hashable
    have first := write_eq_writeNative item hashable.1
    rw [write, writeNative] at first
    rw [writeItemsWith, Value.fieldMapsAll, writeItemsWith, first, writeItems_eq rest hashable.2]

theorem writeEntries_eq : ∀ entries : List (Value × Value),
    Value.entriesKeysHashable entries = true →
      writeEntriesWith layout (viaHook layout) entries =
        writeEntriesWith layout refuse (Value.fieldMapsEntries entries)
  | [], _ => rfl
  | (key, value) :: rest, hashable => by
    rw [Value.entriesKeysHashable, Bool.and_eq_true, Bool.and_eq_true] at hashable
    have first := write_eq_writeNative value hashable.1.2
    rw [write, writeNative] at first
    rw [writeEntriesWith, Value.fieldMapsEntries, writeEntriesWith, first,
      writeEntries_eq rest hashable.2]

end

end FieldMaps

section Failures

variable (layout : Layout)

theorem keyText_isOk (key : Value) : (keyText key).isOk = key.isKeyKind := by
  cases key with
  | bool b => cases b <;> rfl
  | _ => rfl

mutual

/-- JSON's own rules write a value exactly when it holds nothing they cannot write. -/
theorem refuse_isOk : ∀ v : Value, (writeWith layout refuse v).isOk = !v.unwritable
  | .list items | .tuple items => by
    rw [writeWith, Except.isOk_map, refuseItems_isOk items, Value.unwritable]
  | .dict entries => by
    rw [writeWith, Except.isOk_map, refuseEntries_isOk entries, Value.unwritable]
  | .none | .bool true | .bool false | .int _ | .float _ | .str _ | .bytes _ | .set _
  | .record _ _ | .recordClass _ | .time _ | .handle _ => rfl

theorem refuseItems_isOk : ∀ items : List Value,
    (writeItemsWith layout refuse items).isOk = !Value.anyUnwritable items
  | [] => rfl
  | item :: rest => by
    rw [writeItemsWith, Except.isOk_pair, refuse_isOk item, refuseItems_isOk rest,
      Value.anyUnwritable, Bool.not_or]

theorem refuseEntries_isOk : ∀ entries : List (Value × Value),
    (writeEntriesWith layout refuse entries).isOk = !Value.entriesUnwritable entries
  | [] => rfl
  | (key, value) :: rest => by
    rw [writeEntriesWith, Except.isOk_triple, keyText_isOk, refuse_isOk value,
      refuseEntries_isOk rest, Value.entriesUnwritable, Bool.not_or, Bool.not_or, Bool.not_not]

end

theorem keyText_faults (key : Value) :
    Except.Faults (fun fault => fault.className = "TypeError") (keyText key) := by
  intro fault refused
  cases key with
  | bool b => cases b <;> cases refused
  | none | int _ | float _ | str _ => cases refused
  | _ =>
    cases refused
    rfl

mutual

/-- Every fault of JSON's own rules is a type error. -/
theorem refuse_faults : ∀ v : Value,
    Except.Faults (fun fault => fault.className = "TypeError") (writeWith layout refuse v)
  | .list items | .tuple items => Except.faults_map _ (refuseItems_faults items)
  | .dict entries => Except.faults_map _ (refuseEntries_faults entries)
  | .none | .bool true | .bool false | .int _ | .float _ | .str _ => Except.faults_ok _
  | .bytes _ | .set _ | .record _ _ | .recordClass _ | .time _ | .handle _ => fun _ failed => by
    cases failed
    rfl

theorem refuseItems_faults : ∀ items : List Value,
    Except.Faults (fun fault => fault.className = "TypeError") (writeItemsWith layout refuse items)
  | [] => Except.faults_ok _
  | item :: rest =>
    Except.faults_bind (refuse_faults item) fun _ =>
      Except.faults_bind (refuseItems_faults rest) fun _ => Except.faults_ok _

theorem refuseEntries_faults : ∀ entries : List (Value × Value),
    Except.Faults (fun fault => fault.className = "TypeError")
      (writeEntriesWith layout refuse entries)
  | [] => Except.faults_ok _
  | (key, value) :: rest =>
    Except.faults_bind (keyText_faults key) fun _ =>
      Except.faults_bind (refuse_faults value) fun _ =>
        Except.faults_bind (refuseEntries_faults rest) fun _ => Except.faults_ok _

end

end Failures

/-- The result writer, `json.dumps` with the default hook, writes the field maps of a value by
JSON's own rules, in every layout, and fails exactly on what those rules cannot write. -/
theorem records_written_as_field_maps (layout : Layout) (v : Value)
    (hashable : v.keysHashable = true) :
    write layout v = writeNative layout v.fieldMaps ∧
      ((∃ fault, write layout v = .error fault) ↔ v.fieldMaps.unwritable = true) ∧
      (∀ fault, write layout v = .error fault → fault.className = "TypeError") ∧
      ∀ u, writeWith layout (viaHook layout) (asdict u) = writeNative layout (asdict u) := by
  have same := write_eq_writeNative layout v hashable
  refine ⟨same, ?_, fun fault failed => refuse_faults layout _ fault (same ▸ failed),
    writeWith_viaHook_asdict layout⟩
  rw [same, ← Except.not_isOk_iff, writeNative, refuse_isOk, Bool.not_eq_false']

/-- A tag record beside a mapping keyed by an integer that holds a set: refused for the set. -/
theorem records_written_as_field_maps_tag :
    (Value.list [.record .tag [.str "t", .int 2], .dict [(.int 1, .set [])]]).keysHashable = true ∧
      write .spaced (.list [.record .tag [.str "t", .int 2], .dict [(.int 1, .set [])]]) =
        writeNative .spaced
          (Value.list [.record .tag [.str "t", .int 2], .dict [(.int 1, .set [])]]).fieldMaps :=
  let hashable :
      (Value.list [.record .tag [.str "t", .int 2], .dict [(.int 1, .set [])]]).keysHashable = true :=
    rfl
  ⟨hashable, (records_written_as_field_maps .spaced _ hashable).1⟩

end Json

end CloudClient

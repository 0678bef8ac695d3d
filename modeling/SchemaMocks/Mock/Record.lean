import SchemaMocks.Mock.Value

set_option autoImplicit false
set_option relaxedAutoImplicit false

/-!
Mock records as trees. A record has a member for each field of its model that can be mocked, in the
order of the fields; members that stand for relations hold records in their turn. Records are read
off with any kind of values at their leaves.
-/

namespace SchemaMocks

mutual

/-- A record of the model of a name. -/
inductive MockRecord (ν : Type) where
  | of (model : String) (members : List (String × MockMember ν))

/-- What a record holds for a field. -/
inductive MockMember (ν : Type) where
  | value (v : ν)
  /-- A relation without a record. -/
  | null
  | emptyList
  /-- The identifier of a related record alone. -/
  | stub (idField : String) (v : ν)
  | single (record : MockRecord ν)
  | list (records : List (MockRecord ν))

end

namespace MockRecord

variable {ν : Type}

def model : MockRecord ν → String
  | of model _ => model

def members : MockRecord ν → List (String × MockMember ν)
  | of _ members => members

end MockRecord

/-- The records that a member holds. -/
def MockMember.records {ν : Type} : MockMember ν → List (MockRecord ν)
  | single record => [record]
  | list records => records
  | _ => []

mutual

/-- The JSON form of a record; of members of one name the last one stays. -/
def MockRecord.toJson : MockRecord MockValue → Json
  | .of _ members => .object (Dictionary.ofList (MockMember.entriesToJson members)).entries

def MockMember.toJson : MockMember MockValue → Json
  | .value v => v.toJson
  | .null => .null
  | .emptyList => .array []
  | .stub idField v => .object [(idField, v.toJson)]
  | .single record => record.toJson
  | .list records => .array (MockMember.recordsToJson records)

def MockMember.entriesToJson : List (String × MockMember MockValue) → List (String × Json)
  | [] => []
  | (name, member) :: rest => (name, member.toJson) :: MockMember.entriesToJson rest

def MockMember.recordsToJson : List (MockRecord MockValue) → List Json
  | [] => []
  | record :: rest => record.toJson :: MockMember.recordsToJson rest

end

namespace MockMember

theorem entriesToJson_eq_map (members : List (String × MockMember MockValue)) :
    entriesToJson members = members.map fun (name, member) => (name, member.toJson) := by
  induction members with
  | nil => rfl
  | cons entry rest ih => rw [entriesToJson, ih, List.map_cons]

theorem keys_entriesToJson (members : List (String × MockMember MockValue)) :
    (entriesToJson members).map (·.1) = members.map (·.1) := by
  rw [entriesToJson_eq_map, List.map_map]
  rfl

theorem recordsToJson_eq_map (records : List (MockRecord MockValue)) :
    recordsToJson records = records.map MockRecord.toJson := by
  induction records with
  | nil => rfl
  | cons record rest ih => rw [recordsToJson, ih, List.map_cons]

end MockMember

theorem MockRecord.get?_toJson {model : String} {members : List (String × MockMember MockValue)}
    (nodup : (members.map (·.1)).Nodup) (name : String) :
    (MockRecord.of model members).toJson.get? name =
      (Entries.get? name members).map MockMember.toJson := by
  have hkeys := MockMember.keys_entriesToJson members
  rw [MockRecord.toJson]
  refine (Dictionary.get?_ofList_of_nodup (hkeys ▸ nodup) name).trans ?_
  rw [MockMember.entriesToJson_eq_map, Entries.get?_map]

end SchemaMocks

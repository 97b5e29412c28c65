import BucketSteward.Schema
import BucketSteward.Timestamp.Notation

/-!
JSON forms of values. `JsonForm α` gives a type its written form, a reader and a schema; a
record's form is a list of fields, each of which knows its member's name, how to write it and how
to put a value that was read back into the record.

An optional member that is absent or `null` reads as `none` and `none` is written as `null`. A
record is also read from a list that has one element for each field, in the order of the fields,
unless it is a `namedRecord`. Members that no field names are ignored.
-/

namespace BucketSteward

class JsonForm (α : Type) where
  write : α → Json
  read? : Json → Option α
  schema : Schema

export JsonForm (write read? schema)

namespace Form

instance : JsonForm String where
  write := .str
  read?
    | .str s => some s
    | _ => none
  schema := .string

instance : JsonForm Bool where
  write := .bool
  read?
    | .bool b => some b
    | _ => none
  schema := .boolean

/-- Only numerals written as integers, and only those in range. -/
instance : JsonForm Int32 where
  write n := .int n.toInt
  read?
    | .int n => if -2147483648 ≤ n ∧ n ≤ 2147483647 then some (Int32.ofInt n) else none
    | _ => none
  schema := .integer "int32"

/-- Only numerals written as integers, and only those in range. -/
instance : JsonForm Int64 where
  write n := .int n.toInt
  read?
    | .int n =>
        if -9223372036854775808 ≤ n ∧ n ≤ 9223372036854775807 then some (Int64.ofInt n) else none
    | _ => none
  schema := .integer "int64"

instance : JsonForm Timestamp where
  write t := .str t.write
  read?
    | .str s => Timestamp.read? s
    | _ => none
  schema := .dateTime

/-- A document that is kept as it is. -/
instance : JsonForm Json where
  write := id
  read? := some
  schema := .object [] []

/-- Every element has to be readable. -/
instance {α : Type} [JsonForm α] : JsonForm (List α) where
  write items := .arr (items.map write)
  read?
    | .arr items => items.mapM read?
    | _ => none
  schema := .list (schema α)

/-! ## Records -/

/-- One member of a record `ρ`. -/
structure Field (ρ : Type) where
  name : String
  isRequired : Bool
  schema : Schema
  write : ρ → Json
  /-- The record with the member read from a document, `null` standing for an absent member. -/
  read? : Json → ρ → Option ρ

/-- A member that may be absent. -/
def optional {ρ β : Type} [JsonForm β] (name : String) (get : ρ → Option β)
    (set : ρ → Option β → ρ) : Field ρ where
  name := name
  isRequired := false
  schema := .nullable (schema β)
  write r :=
    match get r with
    | some value => write value
    | none => .null
  read?
    | .null, r => some (set r none)
    | document, r => (read? document).map fun value => set r (some value)

/-- A member that has to be there. -/
def required {ρ β : Type} [JsonForm β] (name : String) (get : ρ → β) (set : ρ → β → ρ) :
    Field ρ where
  name := name
  isRequired := true
  schema := schema β
  write r := write (get r)
  read? document r := (read? document).map (set r)

/-- Reads fields from the documents at the same places. -/
def readInOrder? {ρ : Type} (r : ρ) : List (Field ρ) → List Json → Option ρ
  | [], [] => some r
  | field :: fields, item :: items => do readInOrder? (← field.read? item r) fields items
  | _, _ => none

/-- Reads fields from the members under their names. -/
def readByName? {ρ : Type} (members : List (String × Json)) (r : ρ) : List (Field ρ) → Option ρ
  | [] => some r
  | field :: fields => do
      readByName? members (← field.read? (Json.memberOf members field.name) r) fields

/-- The form of a record that is read by filling in `blank` field by field. -/
@[reducible] def record {ρ : Type} (blank : ρ) (fields : List (Field ρ)) : JsonForm ρ where
  write r := .obj (fields.map fun field => (field.name, field.write r))
  read?
    | .obj members => readByName? members blank fields
    | .arr items => readInOrder? blank fields items
    | _ => none
  schema :=
    .object (fields.map fun field => (field.name, field.schema))
      ((fields.filter (·.isRequired)).map (·.name))

/-- The form of a record that is only read by name, never from a list. -/
@[reducible] def namedRecord {ρ : Type} (blank : ρ) (fields : List (Field ρ)) : JsonForm ρ where
  write := (record blank fields).write
  read?
    | .obj members => readByName? members blank fields
    | _ => none
  schema := (record blank fields).schema

end Form

end BucketSteward

import BucketSteward.Json

/-!
Structural schemas of JSON documents, as a Kubernetes resource definition states them.
-/

namespace BucketSteward

inductive Schema where
  | boolean
  | string
  | dateTime
  /-- An integer of a fixed width, named by its format. -/
  | integer (format : String)
  | list (item : Schema)
  /-- An object with its members and the names of those that have to be present. -/
  | object (members : List (String × Schema)) (required : List String)
  /-- A document of the schema, or `null`. -/
  | nullable (schema : Schema)
  deriving Inhabited

namespace Schema

mutual

/-- The members of the schema's JSON document; an object without members or without required
names does not mention them. -/
def properties : Schema → List (String × Json)
  | boolean => [("type", .str "boolean")]
  | string => [("type", .str "string")]
  | dateTime => [("type", .str "string"), ("format", .str "date-time")]
  | integer format => [("type", .str "integer"), ("format", .str format)]
  | list item => [("type", .str "array"), ("items", .obj (properties item))]
  | object members required =>
      [("type", .str "object")]
        ++ (if members.isEmpty then [] else [("properties", .obj (memberDocuments members))])
        ++ (if required.isEmpty then [] else [("required", .arr (required.map .str))])
  | nullable schema => ("nullable", .bool true) :: properties schema

def memberDocuments : List (String × Schema) → List (String × Json)
  | [] => []
  | m :: rest => memberDocument m :: memberDocuments rest

def memberDocument : String × Schema → String × Json
  | (name, schema) => (name, .obj (properties schema))

end

end Schema

end BucketSteward

import BucketSteward.Resource

/-!
The definition of the bucket resource, as it is registered with the cluster.
-/

namespace BucketSteward.Definition

def group : String := "s3.services.k8s.aws"

def version : String := "v1alpha1"

def kind : String := "Bucket"

/-- The resources of the kind, as an address names them. -/
def plural : String := "buckets"

/-- The group and the version, as a resource names them. -/
def apiVersion : String := group ++ "/" ++ version

/-- One column of the listing: its name, its type, the path of its value, and whether it is shown
only in a wide listing. -/
def column (name type path : String) (wide : Bool) : Json :=
  .obj <| [("jsonPath", .str path), ("name", .str name), ("type", .str type)]
    ++ if wide then [("priority", .int 1)] else []

def columns : Json := .arr [
  column "ARN" "string" ".status.ackResourceMetadata.arn" true,
  column "Synced" "string" ".status.conditions[?(@.type==\"ACK.ResourceSynced\")].status" false,
  column "Age" "date" ".metadata.creationTimestamp" false]

/-- The schema of a whole resource; its metadata is the cluster's own. -/
def openApiSchema : Json :=
  .obj <| ("title", .str kind) :: (Schema.object
    [("spec", schema BucketSpec), ("status", .nullable (schema BucketStatus))]
    ["spec"]).properties

def names : Json := .obj [
  ("categories", .arr []),
  ("kind", .str kind),
  ("plural", .str plural),
  ("shortNames", .arr [.str "bucket"]),
  ("singular", .str "bucket")]

def document : Json := .obj [
  ("apiVersion", .str "apiextensions.k8s.io/v1"),
  ("kind", .str "CustomResourceDefinition"),
  ("metadata", .obj [("name", .str (plural ++ "." ++ group))]),
  ("spec", .obj [
    ("group", .str group),
    ("names", names),
    ("scope", .str "Namespaced"),
    ("versions", .arr [.obj [
      ("additionalPrinterColumns", columns),
      ("name", .str version),
      ("schema", .obj [("openAPIV3Schema", openApiSchema)]),
      ("served", .bool true),
      ("storage", .bool true),
      ("subresources", .obj [("status", .obj [])])]])])]

end BucketSteward.Definition

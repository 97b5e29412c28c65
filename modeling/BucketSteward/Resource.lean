import BucketSteward.Resource.Metadata
import BucketSteward.Spec

/-!
The bucket resource as the cluster keeps it: metadata, the specification, and the status that the
steward writes back. Times in a status have whole seconds when they are written.
-/

namespace BucketSteward

open Form

/-- Where a bucket lives. -/
structure ResourceMetadata where
  arn : Option String := none
  ownerAccountId : Option String := none
  region : Option String := none
  deriving DecidableEq, Inhabited

instance : JsonForm ResourceMetadata := record {} [
  optional "arn" (·.arn) fun r v => { r with arn := v },
  optional "ownerAccountID" (·.ownerAccountId) fun r v => { r with ownerAccountId := v },
  optional "region" (·.region) fun r v => { r with region := v }]

/-- One observation about a bucket: its kind, whether it holds, and since when. -/
structure BucketCondition where
  lastTransitionTime : Option ClusterTime := none
  message : Option String := none
  reason : Option String := none
  /-- `True`, `False` or `Unknown`. -/
  status : String
  type : String
  deriving DecidableEq, Inhabited

instance : JsonForm BucketCondition := record { status := "", type := "" } [
  optional "lastTransitionTime" (·.lastTransitionTime)
    fun r v => { r with lastTransitionTime := v },
  optional "message" (·.message) fun r v => { r with message := v },
  optional "reason" (·.reason) fun r v => { r with reason := v },
  required "status" (·.status) fun r v => { r with status := v },
  required "type" (·.type) fun r v => { r with type := v }]

/-- What the steward reports about a bucket. -/
structure BucketStatus where
  ackResourceMetadata : Option ResourceMetadata := none
  /-- The location that the creation of the bucket answered. -/
  location : Option String := none
  conditions : Option (List BucketCondition) := none
  deriving DecidableEq, Inhabited

instance : JsonForm BucketStatus := record {} [
  optional "ackResourceMetadata" (·.ackResourceMetadata)
    fun r v => { r with ackResourceMetadata := v },
  optional "location" (·.location) fun r v => { r with location := v },
  optional "conditions" (·.conditions) fun r v => { r with conditions := v }]

structure BucketResource where
  metadata : Metadata := {}
  spec : BucketSpec
  status : Option BucketStatus := none
  deriving DecidableEq, Inhabited

/-- A resource without metadata reads as one with empty metadata. -/
instance : JsonForm BucketResource := record { spec := default } [
  optional "metadata" (some ·.metadata) fun r v => { r with metadata := v.getD {} },
  required "spec" (·.spec) fun r v => { r with spec := v },
  optional "status" (·.status) fun r v => { r with status := v }]

namespace BucketResource

/-- The value of an annotation; a resource without annotations has none. -/
def annotation? (resource : BucketResource) (name : String) : Option String :=
  resource.metadata.annotations.bind (·.get? name)

/-- The name of the resource, or what it will be made from, or nothing. -/
def name (resource : BucketResource) : String :=
  (resource.metadata.name.orElse fun _ => resource.metadata.generateName).getD ""

/-- Two versions of a resource look alike to the steward when neither the specification's
generation nor an annotation changed. -/
def looksLike (a b : BucketResource) : Bool :=
  a.metadata.generation == b.metadata.generation
    && a.metadata.annotations.getD {} == b.metadata.annotations.getD {}

end BucketResource

end BucketSteward

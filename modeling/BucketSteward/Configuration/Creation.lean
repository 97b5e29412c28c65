import BucketSteward.Form

/-!
Where and how a bucket is created.
-/

namespace BucketSteward

open Form

/-- The kind of a directory bucket and its redundancy. -/
structure BucketInfo where
  dataRedundancy : Option String := none
  type : Option String := none
  deriving DecidableEq, Inhabited

instance : JsonForm BucketInfo := record {} [
  optional "dataRedundancy" (·.dataRedundancy) fun r v => { r with dataRedundancy := v },
  optional "type" (·.type) fun r v => { r with type := v }]

/-- The zone of a directory bucket. -/
structure LocationInfo where
  name : Option String := none
  type : Option String := none
  deriving DecidableEq, Inhabited

instance : JsonForm LocationInfo := record {} [
  optional "name" (·.name) fun r v => { r with name := v },
  optional "type" (·.type) fun r v => { r with type := v }]

/-- The placement of a bucket, used only when it is created. -/
structure CreateBucketConfiguration where
  bucket : Option BucketInfo := none
  location : Option LocationInfo := none
  locationConstraint : Option String := none
  deriving DecidableEq, Inhabited

instance : JsonForm CreateBucketConfiguration := record {} [
  optional "bucket" (·.bucket) fun r v => { r with bucket := v },
  optional "location" (·.location) fun r v => { r with location := v },
  optional "locationConstraint" (·.locationConstraint)
    fun r v => { r with locationConstraint := v }]

end BucketSteward

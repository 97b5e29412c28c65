import BucketSteward.Form
import BucketSteward.Configuration.Tag

/-!
Lifecycle rules: when objects move to another storage class and when they expire.
-/

namespace BucketSteward

open Form

/-- When an unfinished upload is given up. -/
structure AbortIncompleteMultipartUpload where
  daysAfterInitiation : Option Int32 := none
  deriving DecidableEq, Inhabited

instance : JsonForm AbortIncompleteMultipartUpload := record {} [
  optional "daysAfterInitiation" (·.daysAfterInitiation)
    fun r v => { r with daysAfterInitiation := v }]

/-- When current objects expire. -/
structure LifecycleExpiration where
  date : Option Timestamp := none
  days : Option Int32 := none
  expiredObjectDeleteMarker : Option Bool := none
  deriving DecidableEq, Inhabited

instance : JsonForm LifecycleExpiration := record {} [
  optional "date" (·.date) fun r v => { r with date := v },
  optional "days" (·.days) fun r v => { r with days := v },
  optional "expiredObjectDeleteMarker" (·.expiredObjectDeleteMarker)
    fun r v => { r with expiredObjectDeleteMarker := v }]

/-- Objects that satisfy every part named. -/
structure LifecycleRuleAndOperator where
  objectSizeGreaterThan : Option Int64 := none
  objectSizeLessThan : Option Int64 := none
  keyPrefix : Option String := none
  tags : Option (List Tag) := none
  deriving DecidableEq, Inhabited

instance : JsonForm LifecycleRuleAndOperator := record {} [
  optional "objectSizeGreaterThan" (·.objectSizeGreaterThan)
    fun r v => { r with objectSizeGreaterThan := v },
  optional "objectSizeLessThan" (·.objectSizeLessThan)
    fun r v => { r with objectSizeLessThan := v },
  optional "prefix" (·.keyPrefix) fun r v => { r with keyPrefix := v },
  optional "tags" (·.tags) fun r v => { r with tags := v }]

/-- The objects a rule applies to. -/
structure LifecycleRuleFilter where
  and : Option LifecycleRuleAndOperator := none
  objectSizeGreaterThan : Option Int64 := none
  objectSizeLessThan : Option Int64 := none
  keyPrefix : Option String := none
  tag : Option Tag := none
  deriving DecidableEq, Inhabited

instance : JsonForm LifecycleRuleFilter := record {} [
  optional "and" (·.and) fun r v => { r with and := v },
  optional "objectSizeGreaterThan" (·.objectSizeGreaterThan)
    fun r v => { r with objectSizeGreaterThan := v },
  optional "objectSizeLessThan" (·.objectSizeLessThan)
    fun r v => { r with objectSizeLessThan := v },
  optional "prefix" (·.keyPrefix) fun r v => { r with keyPrefix := v },
  optional "tag" (·.tag) fun r v => { r with tag := v }]

/-- When replaced versions expire. -/
structure NoncurrentVersionExpiration where
  newerNoncurrentVersions : Option Int32 := none
  noncurrentDays : Option Int32 := none
  deriving DecidableEq, Inhabited

instance : JsonForm NoncurrentVersionExpiration := record {} [
  optional "newerNoncurrentVersions" (·.newerNoncurrentVersions)
    fun r v => { r with newerNoncurrentVersions := v },
  optional "noncurrentDays" (·.noncurrentDays) fun r v => { r with noncurrentDays := v }]

/-- When replaced versions move to another storage class. -/
structure NoncurrentVersionTransition where
  newerNoncurrentVersions : Option Int32 := none
  noncurrentDays : Option Int32 := none
  storageClass : Option String := none
  deriving DecidableEq, Inhabited

instance : JsonForm NoncurrentVersionTransition := record {} [
  optional "newerNoncurrentVersions" (·.newerNoncurrentVersions)
    fun r v => { r with newerNoncurrentVersions := v },
  optional "noncurrentDays" (·.noncurrentDays) fun r v => { r with noncurrentDays := v },
  optional "storageClass" (·.storageClass) fun r v => { r with storageClass := v }]

/-- When current objects move to another storage class. -/
structure Transition where
  date : Option Timestamp := none
  days : Option Int32 := none
  storageClass : Option String := none
  deriving DecidableEq, Inhabited

instance : JsonForm Transition := record {} [
  optional "date" (·.date) fun r v => { r with date := v },
  optional "days" (·.days) fun r v => { r with days := v },
  optional "storageClass" (·.storageClass) fun r v => { r with storageClass := v }]

/-- One lifecycle rule. -/
structure LifecycleRule where
  abortIncompleteMultipartUpload : Option AbortIncompleteMultipartUpload := none
  expiration : Option LifecycleExpiration := none
  filter : Option LifecycleRuleFilter := none
  id : Option String := none
  noncurrentVersionExpiration : Option NoncurrentVersionExpiration := none
  noncurrentVersionTransitions : Option (List NoncurrentVersionTransition) := none
  keyPrefix : Option String := none
  status : Option String := none
  transitions : Option (List Transition) := none
  deriving DecidableEq, Inhabited

instance : JsonForm LifecycleRule := record {} [
  optional "abortIncompleteMultipartUpload" (·.abortIncompleteMultipartUpload)
    fun r v => { r with abortIncompleteMultipartUpload := v },
  optional "expiration" (·.expiration) fun r v => { r with expiration := v },
  optional "filter" (·.filter) fun r v => { r with filter := v },
  optional "id" (·.id) fun r v => { r with id := v },
  optional "noncurrentVersionExpiration" (·.noncurrentVersionExpiration)
    fun r v => { r with noncurrentVersionExpiration := v },
  optional "noncurrentVersionTransitions" (·.noncurrentVersionTransitions)
    fun r v => { r with noncurrentVersionTransitions := v },
  optional "prefix" (·.keyPrefix) fun r v => { r with keyPrefix := v },
  optional "status" (·.status) fun r v => { r with status := v },
  optional "transitions" (·.transitions) fun r v => { r with transitions := v }]

/-- The lifecycle rules of a bucket. -/
structure BucketLifecycleConfiguration where
  rules : Option (List LifecycleRule) := none
  deriving DecidableEq, Inhabited

instance : JsonForm BucketLifecycleConfiguration := record {} [
  optional "rules" (·.rules) fun r v => { r with rules := v }]

end BucketSteward

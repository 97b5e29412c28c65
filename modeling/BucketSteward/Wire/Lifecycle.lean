import BucketSteward.Configuration.Lifecycle
import BucketSteward.Wire.Tag

/-!
Lifecycle rules on the wire: every rule has a status, and dates have whole seconds.
-/

namespace BucketSteward.Wire

structure Expiration where
  date : Option Instant
  days : Option Int32
  expiredObjectDeleteMarker : Option Bool
  deriving DecidableEq

namespace Expiration

def encode (expiration : LifecycleExpiration) : Expiration where
  date := expiration.date.map Instant.encode
  days := expiration.days
  expiredObjectDeleteMarker := expiration.expiredObjectDeleteMarker

def decode (expiration : Expiration) : LifecycleExpiration where
  date := expiration.date.bind Instant.decode
  days := expiration.days
  expiredObjectDeleteMarker := expiration.expiredObjectDeleteMarker

end Expiration

structure Transition where
  date : Option Instant
  days : Option Int32
  storageClass : Option String
  deriving DecidableEq

namespace Transition

def encode (transition : BucketSteward.Transition) : Transition where
  date := transition.date.map Instant.encode
  days := transition.days
  storageClass := transition.storageClass

def decode (transition : Transition) : BucketSteward.Transition where
  date := transition.date.bind Instant.decode
  days := transition.days
  storageClass := transition.storageClass

end Transition

structure LifecycleAnd where
  objectSizeGreaterThan : Option Int64
  objectSizeLessThan : Option Int64
  keyPrefix : Option String
  tags : Option (List Tag)
  deriving DecidableEq

namespace LifecycleAnd

def encode (and : LifecycleRuleAndOperator) : Encoded LifecycleAnd := do
  let tags ← encodeItems Tag.encode and.tags
  pure {
    objectSizeGreaterThan := and.objectSizeGreaterThan
    objectSizeLessThan := and.objectSizeLessThan
    keyPrefix := and.keyPrefix
    tags }

def decode (and : LifecycleAnd) : LifecycleRuleAndOperator where
  objectSizeGreaterThan := and.objectSizeGreaterThan
  objectSizeLessThan := and.objectSizeLessThan
  keyPrefix := and.keyPrefix
  tags := decodeItems Tag.decode and.tags

end LifecycleAnd

structure LifecycleFilter where
  and : Option LifecycleAnd
  objectSizeGreaterThan : Option Int64
  objectSizeLessThan : Option Int64
  keyPrefix : Option String
  tag : Option Tag
  deriving DecidableEq

namespace LifecycleFilter

def encode (filter : LifecycleRuleFilter) : Encoded LifecycleFilter := do
  let and ← encodeOption LifecycleAnd.encode filter.and
  let tag ← encodeOption Tag.encode filter.tag
  pure {
    and
    objectSizeGreaterThan := filter.objectSizeGreaterThan
    objectSizeLessThan := filter.objectSizeLessThan
    keyPrefix := filter.keyPrefix
    tag }

def decode (filter : LifecycleFilter) : LifecycleRuleFilter where
  and := filter.and.map LifecycleAnd.decode
  objectSizeGreaterThan := filter.objectSizeGreaterThan
  objectSizeLessThan := filter.objectSizeLessThan
  keyPrefix := filter.keyPrefix
  tag := filter.tag.map Tag.decode

end LifecycleFilter

structure LifecycleRule where
  abortIncompleteMultipartUpload : Option AbortIncompleteMultipartUpload
  expiration : Option Expiration
  filter : Option LifecycleFilter
  id : Option String
  noncurrentVersionExpiration : Option NoncurrentVersionExpiration
  noncurrentVersionTransitions : Option (List NoncurrentVersionTransition)
  keyPrefix : Option String
  status : String
  transitions : Option (List Transition)
  deriving DecidableEq

namespace LifecycleRule

def encode (rule : BucketSteward.LifecycleRule) : Encoded LifecycleRule := do
  let filter ← encodeOption LifecycleFilter.encode rule.filter
  let status ← demand "LifecycleRule" "status" rule.status
  pure {
    abortIncompleteMultipartUpload := rule.abortIncompleteMultipartUpload
    expiration := rule.expiration.map Expiration.encode
    filter
    id := rule.id
    noncurrentVersionExpiration := rule.noncurrentVersionExpiration
    noncurrentVersionTransitions := rule.noncurrentVersionTransitions
    keyPrefix := rule.keyPrefix
    status
    transitions := rule.transitions.map (·.map Transition.encode) }

def decode (rule : LifecycleRule) : BucketSteward.LifecycleRule where
  abortIncompleteMultipartUpload := rule.abortIncompleteMultipartUpload
  expiration := rule.expiration.map Expiration.decode
  filter := rule.filter.map LifecycleFilter.decode
  id := rule.id
  noncurrentVersionExpiration := rule.noncurrentVersionExpiration
  noncurrentVersionTransitions := rule.noncurrentVersionTransitions.bind decodeSame
  keyPrefix := rule.keyPrefix
  status := some rule.status
  transitions := decodeItems Transition.decode rule.transitions

end LifecycleRule

structure Lifecycle where
  rules : List LifecycleRule
  deriving DecidableEq

namespace Lifecycle

def encode (configuration : BucketLifecycleConfiguration) : Encoded Lifecycle := do
  let rules ← encodeAll LifecycleRule.encode configuration.rules
  pure { rules }

def decode (configuration : Lifecycle) : BucketLifecycleConfiguration where
  rules := decodeAll LifecycleRule.decode configuration.rules

end Lifecycle

end BucketSteward.Wire

import BucketSteward.Form

/-!
Default encryption of new objects.
-/

namespace BucketSteward

open Form

/-- The algorithm and the key used when a request names none. -/
structure ServerSideEncryptionByDefault where
  kmsMasterKeyId : Option String := none
  sseAlgorithm : Option String := none
  deriving DecidableEq, Inhabited

instance : JsonForm ServerSideEncryptionByDefault := record {} [
  optional "kmsMasterKeyId" (·.kmsMasterKeyId) fun r v => { r with kmsMasterKeyId := v },
  optional "sseAlgorithm" (·.sseAlgorithm) fun r v => { r with sseAlgorithm := v }]

/-- One rule of the default encryption. -/
structure ServerSideEncryptionRule where
  applyServerSideEncryptionByDefault : Option ServerSideEncryptionByDefault := none
  bucketKeyEnabled : Option Bool := none
  deriving DecidableEq, Inhabited

instance : JsonForm ServerSideEncryptionRule := record {} [
  optional "applyServerSideEncryptionByDefault" (·.applyServerSideEncryptionByDefault)
    fun r v => { r with applyServerSideEncryptionByDefault := v },
  optional "bucketKeyEnabled" (·.bucketKeyEnabled) fun r v => { r with bucketKeyEnabled := v }]

/-- The default encryption of a bucket. -/
structure ServerSideEncryptionConfiguration where
  rules : Option (List ServerSideEncryptionRule) := none
  deriving DecidableEq, Inhabited

instance : JsonForm ServerSideEncryptionConfiguration := record {} [
  optional "rules" (·.rules) fun r v => { r with rules := v }]

end BucketSteward

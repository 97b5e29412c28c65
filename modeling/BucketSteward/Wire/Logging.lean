import BucketSteward.Configuration.Logging
import BucketSteward.Wire.Grantee

/-!
Access logs on the wire: enabled logging names its bucket and its prefix.
-/

namespace BucketSteward.Wire

structure TargetGrant where
  grantee : Option Grantee
  permission : Option String
  deriving DecidableEq, Repr

namespace TargetGrant

def encode (grant : BucketSteward.TargetGrant) : Encoded TargetGrant := do
  let grantee ← encodeOption Grantee.encode grant.grantee
  pure { grantee, permission := grant.permission }

def decode (grant : TargetGrant) : BucketSteward.TargetGrant where
  grantee := grant.grantee.map Grantee.decode
  permission := grant.permission

end TargetGrant

structure LoggingEnabled where
  targetBucket : String
  targetGrants : Option (List TargetGrant)
  targetPrefix : String
  deriving DecidableEq, Repr

namespace LoggingEnabled

def encode (enabled : BucketSteward.LoggingEnabled) : Encoded LoggingEnabled := do
  let targetGrants ← encodeItems TargetGrant.encode enabled.targetGrants
  let targetBucket ← demand "LoggingEnabled" "target_bucket" enabled.targetBucket
  let targetPrefix ← demand "LoggingEnabled" "target_prefix" enabled.targetPrefix
  pure { targetBucket, targetGrants, targetPrefix }

def decode (enabled : LoggingEnabled) : BucketSteward.LoggingEnabled where
  targetBucket := some enabled.targetBucket
  targetGrants := decodeItems TargetGrant.decode enabled.targetGrants
  targetPrefix := some enabled.targetPrefix

end LoggingEnabled

structure Logging where
  loggingEnabled : Option LoggingEnabled
  deriving DecidableEq, Repr

namespace Logging

def encode (status : BucketLoggingStatus) : Encoded Logging := do
  let loggingEnabled ← encodeOption LoggingEnabled.encode status.loggingEnabled
  pure { loggingEnabled }

def decode (status : Logging) : BucketLoggingStatus where
  loggingEnabled := status.loggingEnabled.map LoggingEnabled.decode

end Logging

end BucketSteward.Wire

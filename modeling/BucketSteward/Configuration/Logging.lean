import BucketSteward.Form
import BucketSteward.Configuration.Grant

/-!
Server access logging.
-/

namespace BucketSteward

open Form

/-- A permission on the log objects. -/
structure TargetGrant where
  grantee : Option Grantee := none
  permission : Option String := none
  deriving DecidableEq, Inhabited

instance : JsonForm TargetGrant := record {} [
  optional "grantee" (·.grantee) fun r v => { r with grantee := v },
  optional "permission" (·.permission) fun r v => { r with permission := v }]

/-- The bucket that receives the log objects. -/
structure LoggingEnabled where
  targetBucket : Option String := none
  targetGrants : Option (List TargetGrant) := none
  targetPrefix : Option String := none
  deriving DecidableEq, Inhabited

instance : JsonForm LoggingEnabled := record {} [
  optional "targetBucket" (·.targetBucket) fun r v => { r with targetBucket := v },
  optional "targetGrants" (·.targetGrants) fun r v => { r with targetGrants := v },
  optional "targetPrefix" (·.targetPrefix) fun r v => { r with targetPrefix := v }]

/-- Whether and where access is logged. -/
structure BucketLoggingStatus where
  loggingEnabled : Option LoggingEnabled := none
  deriving DecidableEq, Inhabited

instance : JsonForm BucketLoggingStatus := record {} [
  optional "loggingEnabled" (·.loggingEnabled) fun r v => { r with loggingEnabled := v }]

end BucketSteward

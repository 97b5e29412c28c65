import BucketSteward.Fault
import BucketSteward.Spec
import BucketSteward.Text.Affix

/-!
Directory buckets. Their names end with `--x-s3`, they are addressed with a region and an account,
and only a few parts of a specification apply to them. `validate` refuses a specification that
asks one for anything else and names every such part.
-/

namespace BucketSteward

/-- The end of the name of every directory bucket. -/
def directorySuffix : String := "--x-s3"

def isDirectoryName (name : String) : Bool :=
  Text.hasSuffix directorySuffix name

/-- The resource name of a bucket. That of a directory bucket needs an account. -/
def bucketArn (name region : String) (account : Option String) : Except Fault String :=
  if isDirectoryName name then
    match account with
    | some account => .ok ("arn:aws:s3express:" ++ region ++ ":" ++ account ++ ":bucket/" ++ name)
    | none => .error (.missingAccount name)
  else .ok ("arn:aws:s3:::" ++ name)

namespace BucketSpec

/-- The parts that a directory bucket can not carry, each with whether it is there. -/
def generalParts (spec : BucketSpec) : List (String × Bool) := [
  ("acl", spec.acl.isSome),
  ("grantFullControl", spec.grantFullControl.isSome),
  ("grantRead", spec.grantRead.isSome),
  ("grantReadACP", spec.grantReadAcp.isSome),
  ("grantWrite", spec.grantWrite.isSome),
  ("grantWriteACP", spec.grantWriteAcp.isSome),
  ("objectLockEnabledForBucket", spec.objectLockEnabledForBucket.isSome),
  ("accelerate", spec.accelerate.isSome),
  ("analytics", spec.analytics.isSome),
  ("cors", spec.cors.isSome),
  ("intelligentTiering", spec.intelligentTiering.isSome),
  ("inventory", spec.inventory.isSome),
  ("logging", spec.logging.isSome),
  ("metrics", spec.metrics.isSome),
  ("notification", spec.notification.isSome),
  ("ownershipControls", spec.ownershipControls.isSome),
  ("publicAccessBlock", spec.publicAccessBlock.isSome),
  ("replication", spec.replication.isSome),
  ("requestPayment", spec.requestPayment.isSome),
  ("versioning", spec.versioning.isSome),
  ("website", spec.website.isSome)]

/-- The names of the parts that are there and that a directory bucket can not carry. -/
def unsupported (spec : BucketSpec) : List String :=
  (spec.generalParts.filter (·.2)).map (·.1)

/-- A general purpose bucket may carry every part. -/
def validate (spec : BucketSpec) : Except Fault Unit :=
  if isDirectoryName spec.name && !spec.unsupported.isEmpty then
    .error <| .invalid <| "directory bucket " ++ spec.name
      ++ " does not support the following fields: " ++ ", ".intercalate spec.unsupported
  else .ok ()

end BucketSpec

end BucketSteward

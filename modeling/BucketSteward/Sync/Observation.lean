import BucketSteward.Acl.Headers
import BucketSteward.Directory
import BucketSteward.Sync.Tags

/-!
Reading a bucket into a specification, so that it can be compared with the desired one. A part that
the store reports as not configured reads as absent; a part that always exists reads as its value.
What only counts when a bucket is created can not be read back and is taken from what is desired.
-/

namespace BucketSteward

/-- Where a bucket is addressed. -/
structure Location where
  account : Option String
  region : String
  deriving DecidableEq, Repr

namespace Location

/-- The account and the resource name under which a directory bucket is tagged. -/
def tagTarget (location : Location) (bucket : String) : Except Fault (String × String) := do
  match location.account with
  | none => throw (.missingAccount bucket)
  | some account =>
      let arn ← bucketArn bucket location.region (some account)
      pure (account, arn)

end Location

namespace Pass

/-- A result that was computed, as a pass that makes no call. -/
def ofExcept {α : Type} (result : Except Fault α) : Pass α :=
  .done result

/-- The codes of a region that has no transfer acceleration. -/
def accelerateUnsupported : List String := ["MethodNotAllowed", "UnsupportedArgument"]

def readSetting (label : CallLabel) (setting : Setting) (bucket : String) :
    Pass setting.Value :=
  call label (.getSetting setting bucket)

def readAccelerate (label : CallLabel) (bucket : String) : Pass AccelerateConfiguration := do
  let value ← callUnless accelerateUnsupported label (.getSetting .accelerate bucket)
  pure (value.getD {})

def readDocument (label : CallLabel) (document : Document) (bucket : String) :
    Pass (Option document.Content) := do
  let content ← callUnless [document.absentCode] label (.getDocument document bucket)
  pure content.join

def readPolicy (label : CallLabel) (bucket : String) : Pass (Option String) := do
  let policy ← callUnless [policyAbsentCode] label (.getPolicy bucket)
  pure policy.join

def readObjectLock (label : CallLabel) (bucket : String) : Pass Bool := do
  let enabled ← callUnless [objectLockAbsentCode] label (.getObjectLock bucket)
  pure (enabled.getD false)

def readAcl (bucket : String) : Pass AccessControlPolicy :=
  call ⟨.readOne, "GetBucketAcl"⟩ (.getAcl bucket)

def readItems (collection : Collection) (bucket : String) : Pass (List collection.Item) :=
  call ⟨.readMany, collection.listOperation⟩ (.listItems collection bucket)

/-- The parts that exist on a directory bucket. -/
def readDirectoryBucket (location : Location) (spec : BucketSpec) : Pass BucketSpec := do
  let encryption ← readDocument ⟨.readOne, "GetBucketEncryption"⟩ .encryption spec.name
  let lifecycle ← readDocument ⟨.readOne, "GetBucketLifecycleConfiguration"⟩ .lifecycle spec.name
  let policy ← readPolicy ⟨.readOne, "GetBucketPolicy"⟩ spec.name
  let (account, arn) ← ofExcept (location.tagTarget spec.name)
  let tagging ← getResourceTags account arn
  pure { spec with encryption, lifecycle, policy, tagging }

def readGeneralBucket (spec : BucketSpec) : Pass BucketSpec := do
  let bucket := spec.name
  let accelerate ← readAccelerate ⟨.readOne, "GetBucketAccelerateConfiguration"⟩ bucket
  let analytics ← readItems .analytics bucket
  let acl ← readAcl bucket
  let cors ← readDocument ⟨.readOne, "GetBucketCors"⟩ .cors bucket
  let encryption ← readDocument ⟨.readOne, "GetBucketEncryption"⟩ .encryption bucket
  let intelligentTiering ← readItems .intelligentTiering bucket
  let inventory ← readItems .inventory bucket
  let lifecycle ← readDocument ⟨.readOne, "GetBucketLifecycleConfiguration"⟩ .lifecycle bucket
  let logging ← readSetting ⟨.readOne, "GetBucketLogging"⟩ .logging bucket
  let metrics ← readItems .metrics bucket
  let notification ←
    readSetting ⟨.readOne, "GetBucketNotificationConfiguration"⟩ .notification bucket
  let ownershipControls ←
    readDocument ⟨.readOne, "GetBucketOwnershipControls"⟩ .ownershipControls bucket
  let policy ← readPolicy ⟨.readOne, "GetBucketPolicy"⟩ bucket
  let publicAccessBlock ←
    readDocument ⟨.readOne, "GetPublicAccessBlock"⟩ .publicAccessBlock bucket
  let replication ← readDocument ⟨.readOne, "GetBucketReplication"⟩ .replication bucket
  let requestPayment ← readSetting ⟨.readOne, "GetBucketRequestPayment"⟩ .requestPayment bucket
  let tagging ← readDocument ⟨.readOne, "GetBucketTagging"⟩ .tagging bucket
  let versioning ← readSetting ⟨.readOne, "GetBucketVersioning"⟩ .versioning bucket
  let website ← readDocument ⟨.readOne, "GetBucketWebsite"⟩ .website bucket
  let objectLock ← readObjectLock ⟨.readOne, "GetObjectLockConfiguration"⟩ bucket
  pure { spec.withObservedAcl acl with
    accelerate := some accelerate
    analytics := some analytics
    cors, encryption
    intelligentTiering := some intelligentTiering
    inventory := some inventory
    lifecycle
    logging := some logging
    metrics := some metrics
    notification := some notification
    ownershipControls, policy, publicAccessBlock, replication
    requestPayment := some requestPayment
    tagging
    versioning := some versioning
    website
    objectLockEnabledForBucket := some objectLock }

/-- Reads every part that the kind of bucket has. -/
def readObserved (location : Location) (desired : BucketSpec) : Pass BucketSpec :=
  let blank : BucketSpec := {
    name := desired.name
    createBucketConfiguration := desired.createBucketConfiguration }
  if isDirectoryName desired.name then readDirectoryBucket location blank
  else readGeneralBucket blank

end Pass

end BucketSteward

import BucketSteward.Configuration.Analytics
import BucketSteward.Configuration.Cors
import BucketSteward.Configuration.Creation
import BucketSteward.Configuration.Encryption
import BucketSteward.Configuration.IntelligentTiering
import BucketSteward.Configuration.Inventory
import BucketSteward.Configuration.Lifecycle
import BucketSteward.Configuration.Logging
import BucketSteward.Configuration.Metrics
import BucketSteward.Configuration.Notification
import BucketSteward.Configuration.Ownership
import BucketSteward.Configuration.PublicAccess
import BucketSteward.Configuration.Replication
import BucketSteward.Configuration.Setting
import BucketSteward.Configuration.Website

/-!
The specification of a bucket: its name and what is asked of each of its parts. An absent part means
"no opinion": the part is left alone, or compared with the default of the store where a part can not
be unset. A part that is present has to match the bucket exactly.
-/

namespace BucketSteward

open Form

/-- What is asked of a bucket, or what was observed of one. -/
structure BucketSpec where
  /-- The name of the bucket; the name of a directory bucket ends with `--x-s3`. -/
  name : String
  /-- The canned ACL, such as `private`; it wins over the grant fields. -/
  acl : Option String := none
  /-- Holders of every permission, as a comma separated list of `id=` and `uri=` tokens. -/
  grantFullControl : Option String := none
  /-- Who may list the objects. -/
  grantRead : Option String := none
  /-- Who may read the ACL. -/
  grantReadAcp : Option String := none
  /-- Who may create objects. -/
  grantWrite : Option String := none
  /-- Who may write the ACL. -/
  grantWriteAcp : Option String := none
  /-- Placement, used only when the bucket is created. -/
  createBucketConfiguration : Option CreateBucketConfiguration := none
  /-- Object lock; it cannot be disabled once enabled. -/
  objectLockEnabledForBucket : Option Bool := none
  accelerate : Option AccelerateConfiguration := none
  analytics : Option (List AnalyticsConfiguration) := none
  cors : Option CorsConfiguration := none
  encryption : Option ServerSideEncryptionConfiguration := none
  intelligentTiering : Option (List IntelligentTieringConfiguration) := none
  inventory : Option (List InventoryConfiguration) := none
  lifecycle : Option BucketLifecycleConfiguration := none
  logging : Option BucketLoggingStatus := none
  metrics : Option (List MetricsConfiguration) := none
  notification : Option NotificationConfiguration := none
  ownershipControls : Option OwnershipControls := none
  /-- The bucket policy, a JSON document. -/
  policy : Option String := none
  publicAccessBlock : Option PublicAccessBlockConfiguration := none
  replication : Option ReplicationConfiguration := none
  requestPayment : Option RequestPaymentConfiguration := none
  tagging : Option Tagging := none
  versioning : Option VersioningConfiguration := none
  website : Option WebsiteConfiguration := none
  deriving DecidableEq, Inhabited

instance : JsonForm BucketSpec := record { name := "" } [
  required "name" (·.name) fun r v => { r with name := v },
  optional "acl" (·.acl) fun r v => { r with acl := v },
  optional "grantFullControl" (·.grantFullControl) fun r v => { r with grantFullControl := v },
  optional "grantRead" (·.grantRead) fun r v => { r with grantRead := v },
  optional "grantReadACP" (·.grantReadAcp) fun r v => { r with grantReadAcp := v },
  optional "grantWrite" (·.grantWrite) fun r v => { r with grantWrite := v },
  optional "grantWriteACP" (·.grantWriteAcp) fun r v => { r with grantWriteAcp := v },
  optional "createBucketConfiguration" (·.createBucketConfiguration)
    fun r v => { r with createBucketConfiguration := v },
  optional "objectLockEnabledForBucket" (·.objectLockEnabledForBucket)
    fun r v => { r with objectLockEnabledForBucket := v },
  optional "accelerate" (·.accelerate) fun r v => { r with accelerate := v },
  optional "analytics" (·.analytics) fun r v => { r with analytics := v },
  optional "cors" (·.cors) fun r v => { r with cors := v },
  optional "encryption" (·.encryption) fun r v => { r with encryption := v },
  optional "intelligentTiering" (·.intelligentTiering)
    fun r v => { r with intelligentTiering := v },
  optional "inventory" (·.inventory) fun r v => { r with inventory := v },
  optional "lifecycle" (·.lifecycle) fun r v => { r with lifecycle := v },
  optional "logging" (·.logging) fun r v => { r with logging := v },
  optional "metrics" (·.metrics) fun r v => { r with metrics := v },
  optional "notification" (·.notification) fun r v => { r with notification := v },
  optional "ownershipControls" (·.ownershipControls) fun r v => { r with ownershipControls := v },
  optional "policy" (·.policy) fun r v => { r with policy := v },
  optional "publicAccessBlock" (·.publicAccessBlock) fun r v => { r with publicAccessBlock := v },
  optional "replication" (·.replication) fun r v => { r with replication := v },
  optional "requestPayment" (·.requestPayment) fun r v => { r with requestPayment := v },
  optional "tagging" (·.tagging) fun r v => { r with tagging := v },
  optional "versioning" (·.versioning) fun r v => { r with versioning := v },
  optional "website" (·.website) fun r v => { r with website := v }]

end BucketSteward

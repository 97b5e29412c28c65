import BucketSteward.Spec

/-!
The parts of a bucket that are read and written on their own, by the way the store treats them.

A *setting* always has a value and can only be reset; a *document* is there or not and can be
deleted; a *collection* holds items that are known by an id and written one at a time. The policy,
the object lock and the ACL have operations of their own.

Each part names the member of the specification it comes from, the property it is reported as, and
the words of its operations.
-/

namespace BucketSteward

/-! ## Settings -/

inductive Setting where
  | accelerate
  | logging
  | notification
  | requestPayment
  | versioning
  deriving DecidableEq, Repr

namespace Setting

def all : List Setting := [accelerate, logging, notification, requestPayment, versioning]

@[reducible] def Value : Setting → Type
  | accelerate => AccelerateConfiguration
  | logging => BucketLoggingStatus
  | notification => NotificationConfiguration
  | requestPayment => RequestPaymentConfiguration
  | versioning => VersioningConfiguration

instance : (setting : Setting) → DecidableEq setting.Value
  | accelerate => inferInstanceAs (DecidableEq AccelerateConfiguration)
  | logging => inferInstanceAs (DecidableEq BucketLoggingStatus)
  | notification => inferInstanceAs (DecidableEq NotificationConfiguration)
  | requestPayment => inferInstanceAs (DecidableEq RequestPaymentConfiguration)
  | versioning => inferInstanceAs (DecidableEq VersioningConfiguration)

instance : (setting : Setting) → JsonForm setting.Value
  | accelerate => inferInstanceAs (JsonForm AccelerateConfiguration)
  | logging => inferInstanceAs (JsonForm BucketLoggingStatus)
  | notification => inferInstanceAs (JsonForm NotificationConfiguration)
  | requestPayment => inferInstanceAs (JsonForm RequestPaymentConfiguration)
  | versioning => inferInstanceAs (JsonForm VersioningConfiguration)

/-- The value of a setting that says nothing. -/
def blank : (setting : Setting) → setting.Value
  | accelerate => {}
  | logging => {}
  | notification => {}
  | requestPayment => {}
  | versioning => {}

/-- The member of the specification. -/
def member : Setting → String
  | accelerate => "accelerate"
  | logging => "logging"
  | notification => "notification"
  | requestPayment => "requestPayment"
  | versioning => "versioning"

/-- The property that the setting is reported as. -/
def property : Setting → String
  | accelerate => "Accelerate"
  | logging => "Logging"
  | notification => "Notification"
  | requestPayment => "RequestPayment"
  | versioning => "Versioning"

/-- The resource that the setting's operations name. -/
def resource : Setting → String
  | accelerate => "BucketAccelerateConfiguration"
  | logging => "BucketLogging"
  | notification => "BucketNotificationConfiguration"
  | requestPayment => "BucketRequestPayment"
  | versioning => "BucketVersioning"

end Setting

/-! ## Documents -/

inductive Document where
  | cors
  | encryption
  | lifecycle
  | ownershipControls
  | publicAccessBlock
  | replication
  | tagging
  | website
  deriving DecidableEq, Repr

namespace Document

def all : List Document := [
  cors, encryption, lifecycle, ownershipControls, publicAccessBlock, replication, tagging, website]

@[reducible] def Content : Document → Type
  | cors => CorsConfiguration
  | encryption => ServerSideEncryptionConfiguration
  | lifecycle => BucketLifecycleConfiguration
  | ownershipControls => OwnershipControls
  | publicAccessBlock => PublicAccessBlockConfiguration
  | replication => ReplicationConfiguration
  | tagging => Tagging
  | website => WebsiteConfiguration

instance : (document : Document) → DecidableEq document.Content
  | cors => inferInstanceAs (DecidableEq CorsConfiguration)
  | encryption => inferInstanceAs (DecidableEq ServerSideEncryptionConfiguration)
  | lifecycle => inferInstanceAs (DecidableEq BucketLifecycleConfiguration)
  | ownershipControls => inferInstanceAs (DecidableEq OwnershipControls)
  | publicAccessBlock => inferInstanceAs (DecidableEq PublicAccessBlockConfiguration)
  | replication => inferInstanceAs (DecidableEq ReplicationConfiguration)
  | tagging => inferInstanceAs (DecidableEq Tagging)
  | website => inferInstanceAs (DecidableEq WebsiteConfiguration)

instance : (document : Document) → JsonForm document.Content
  | cors => inferInstanceAs (JsonForm CorsConfiguration)
  | encryption => inferInstanceAs (JsonForm ServerSideEncryptionConfiguration)
  | lifecycle => inferInstanceAs (JsonForm BucketLifecycleConfiguration)
  | ownershipControls => inferInstanceAs (JsonForm OwnershipControls)
  | publicAccessBlock => inferInstanceAs (JsonForm PublicAccessBlockConfiguration)
  | replication => inferInstanceAs (JsonForm ReplicationConfiguration)
  | tagging => inferInstanceAs (JsonForm Tagging)
  | website => inferInstanceAs (JsonForm WebsiteConfiguration)

/-- The document that says nothing. -/
def blank : (document : Document) → document.Content
  | cors => {}
  | encryption => {}
  | lifecycle => {}
  | ownershipControls => {}
  | publicAccessBlock => {}
  | replication => {}
  | tagging => {}
  | website => {}

/-- The member of the specification. -/
def member : Document → String
  | cors => "cors"
  | encryption => "encryption"
  | lifecycle => "lifecycle"
  | ownershipControls => "ownershipControls"
  | publicAccessBlock => "publicAccessBlock"
  | replication => "replication"
  | tagging => "tagging"
  | website => "website"

/-- The property that the document is reported as. -/
def property : Document → String
  | cors => "CORS"
  | encryption => "Encryption"
  | lifecycle => "Lifecycle"
  | ownershipControls => "OwnershipControls"
  | publicAccessBlock => "PublicAccessBlock"
  | replication => "Replication"
  | tagging => "Tagging"
  | website => "Website"

/-- The resource that reading and writing name. -/
def resource : Document → String
  | cors => "BucketCors"
  | encryption => "BucketEncryption"
  | lifecycle => "BucketLifecycleConfiguration"
  | ownershipControls => "BucketOwnershipControls"
  | publicAccessBlock => "PublicAccessBlock"
  | replication => "BucketReplication"
  | tagging => "BucketTagging"
  | website => "BucketWebsite"

/-- The resource that deleting names. -/
def deletedResource : Document → String
  | lifecycle => "BucketLifecycle"
  | document => document.resource

/-- The code that reading fails with when the document is not there. -/
def absentCode : Document → String
  | cors => "NoSuchCORSConfiguration"
  | encryption => "ServerSideEncryptionConfigurationNotFoundError"
  | lifecycle => "NoSuchLifecycleConfiguration"
  | ownershipControls => "OwnershipControlsNotFoundError"
  | publicAccessBlock => "NoSuchPublicAccessBlockConfiguration"
  | replication => "ReplicationConfigurationNotFoundError"
  | tagging => "NoSuchTagSet"
  | website => "NoSuchWebsiteConfiguration"

end Document

/-- The code that reading the policy fails with when there is none. -/
def policyAbsentCode : String := "NoSuchBucketPolicy"

/-- The code that reading the object lock fails with when it is off. -/
def objectLockAbsentCode : String := "ObjectLockConfigurationNotFoundError"

/-! ## Collections -/

inductive Collection where
  | analytics
  | intelligentTiering
  | inventory
  | metrics
  deriving DecidableEq, Repr

namespace Collection

def all : List Collection := [analytics, intelligentTiering, inventory, metrics]

@[reducible] def Item : Collection → Type
  | analytics => AnalyticsConfiguration
  | intelligentTiering => IntelligentTieringConfiguration
  | inventory => InventoryConfiguration
  | metrics => MetricsConfiguration

instance : (collection : Collection) → DecidableEq collection.Item
  | analytics => inferInstanceAs (DecidableEq AnalyticsConfiguration)
  | intelligentTiering => inferInstanceAs (DecidableEq IntelligentTieringConfiguration)
  | inventory => inferInstanceAs (DecidableEq InventoryConfiguration)
  | metrics => inferInstanceAs (DecidableEq MetricsConfiguration)

instance : (collection : Collection) → JsonForm collection.Item
  | analytics => inferInstanceAs (JsonForm AnalyticsConfiguration)
  | intelligentTiering => inferInstanceAs (JsonForm IntelligentTieringConfiguration)
  | inventory => inferInstanceAs (JsonForm InventoryConfiguration)
  | metrics => inferInstanceAs (JsonForm MetricsConfiguration)

def id? : (collection : Collection) → collection.Item → Option String
  | analytics, item => item.id
  | intelligentTiering, item => item.id
  | inventory, item => item.id
  | metrics, item => item.id

/-- The id an item is known by; an absent id is the empty one. -/
def id (collection : Collection) (item : collection.Item) : String :=
  (collection.id? item).getD ""

/-- The member of the specification. -/
def member : Collection → String
  | analytics => "analytics"
  | intelligentTiering => "intelligentTiering"
  | inventory => "inventory"
  | metrics => "metrics"

/-- The property that the collection is reported as. -/
def property : Collection → String
  | analytics => "Analytics"
  | intelligentTiering => "IntelligentTiering"
  | inventory => "Inventory"
  | metrics => "Metrics"

/-- What a collection is called in messages. -/
def kind : Collection → String
  | analytics => "analytics"
  | intelligentTiering => "intelligent-tiering"
  | inventory => "inventory"
  | metrics => "metrics"

/-- The resource that the operations on one item name. -/
def resource : Collection → String
  | analytics => "BucketAnalyticsConfiguration"
  | intelligentTiering => "BucketIntelligentTieringConfiguration"
  | inventory => "BucketInventoryConfiguration"
  | metrics => "BucketMetricsConfiguration"

/-- What listing the items is counted under. -/
def listOperation : Collection → String
  | analytics => "ListBucketAnalyticsConfigurations"
  | intelligentTiering => "ListBucketIntelligentTieringConfigurations"
  | inventory => "ListBucketInventoryConfigurations"
  | metrics => "ListBucketMetricsConfigurations"

/-- What putting an item is counted under. -/
def putOperation : Collection → String
  | analytics => "PutBucketAnalyticsConfiguration"
  | intelligentTiering => "PutBucketIntelligentTieringConfiguration"
  | inventory => "PutBucketInventoryConfiguration"
  | metrics => "PutBucketMetricsConfiguration"

/-- What deleting an item is counted under. -/
def deleteOperation : Collection → String
  | analytics => "DeleteBucketAnalyticsConfiguration"
  | intelligentTiering => "DeleteBucketIntelligentTieringConfiguration"
  | inventory => "DeleteBucketInventoryConfiguration"
  | metrics => "DeleteBucketMetricsConfiguration"

end Collection

/-! ## All parts -/

inductive Part where
  | setting (setting : Setting)
  | document (document : Document)
  | collection (collection : Collection)
  | policy
  | objectLock
  /-- The canned ACL and the grants. -/
  | acl
  deriving DecidableEq, Repr

namespace Part

/-- The members of the specification that describe the part. -/
def members : Part → List String
  | setting s => [s.member]
  | document d => [d.member]
  | collection c => [c.member]
  | policy => ["policy"]
  | objectLock => ["objectLockEnabledForBucket"]
  | acl => ["acl", "grantFullControl", "grantRead", "grantReadACP", "grantWrite", "grantWriteACP"]

/-- The property that the part is reported as. -/
def property : Part → String
  | setting s => s.property
  | document d => d.property
  | collection c => c.property
  | policy => "Policy"
  | objectLock => "ObjectLock"
  | acl => "ACLs or Grant Headers"

end Part

/-! ## The parts of a specification -/

namespace BucketSpec

def setting (spec : BucketSpec) : (setting : Setting) → Option setting.Value
  | .accelerate => spec.accelerate
  | .logging => spec.logging
  | .notification => spec.notification
  | .requestPayment => spec.requestPayment
  | .versioning => spec.versioning

def document (spec : BucketSpec) : (document : Document) → Option document.Content
  | .cors => spec.cors
  | .encryption => spec.encryption
  | .lifecycle => spec.lifecycle
  | .ownershipControls => spec.ownershipControls
  | .publicAccessBlock => spec.publicAccessBlock
  | .replication => spec.replication
  | .tagging => spec.tagging
  | .website => spec.website

def collection (spec : BucketSpec) : (collection : Collection) → Option (List collection.Item)
  | .analytics => spec.analytics
  | .intelligentTiering => spec.intelligentTiering
  | .inventory => spec.inventory
  | .metrics => spec.metrics

end BucketSpec

end BucketSteward

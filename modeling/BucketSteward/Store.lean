import BucketSteward.Call
import BucketSteward.Directory

/-!
An object store and its tag service, kept in memory. A part that was never configured is read with
the code that the real service answers; every call is logged, also one that fails; and an operation
can be made to fail with a code of one's choice.

The store keeps the ACL that a bucket was created with and, apart from it, the last ACL that was
sent.
-/

namespace BucketSteward

/-- A bucket and its parts as they are stored. A setting that was never written is absent. -/
structure StoredBucket where
  location : Option String := none
  acl : AccessControlPolicy := {}
  lastAclPut : Option AclGrants := none
  objectLock : Bool := false
  accelerate : Option AccelerateConfiguration := none
  logging : Option BucketLoggingStatus := none
  notification : Option NotificationConfiguration := none
  requestPayment : Option RequestPaymentConfiguration := none
  versioning : Option VersioningConfiguration := none
  cors : Option CorsConfiguration := none
  encryption : Option ServerSideEncryptionConfiguration := none
  lifecycle : Option BucketLifecycleConfiguration := none
  ownershipControls : Option OwnershipControls := none
  publicAccessBlock : Option PublicAccessBlockConfiguration := none
  replication : Option ReplicationConfiguration := none
  tagging : Option Tagging := none
  website : Option WebsiteConfiguration := none
  policy : Option String := none
  /-- Whether the last policy was sent with a word on locking oneself out, and which. -/
  policyConfirm : Option Bool := none
  analytics : Keyed AnalyticsConfiguration := {}
  intelligentTiering : Keyed IntelligentTieringConfiguration := {}
  inventory : Keyed InventoryConfiguration := {}
  metrics : Keyed MetricsConfiguration := {}
  deriving DecidableEq, Inhabited

namespace StoredBucket

def setting (bucket : StoredBucket) : (setting : Setting) → Option setting.Value
  | .accelerate => bucket.accelerate
  | .logging => bucket.logging
  | .notification => bucket.notification
  | .requestPayment => bucket.requestPayment
  | .versioning => bucket.versioning

def withSetting (bucket : StoredBucket) : (setting : Setting) → setting.Value → StoredBucket
  | .accelerate, value => { bucket with accelerate := some value }
  | .logging, value => { bucket with logging := some value }
  | .notification, value => { bucket with notification := some value }
  | .requestPayment, value => { bucket with requestPayment := some value }
  | .versioning, value => { bucket with versioning := some value }

def document (bucket : StoredBucket) : (document : Document) → Option document.Content
  | .cors => bucket.cors
  | .encryption => bucket.encryption
  | .lifecycle => bucket.lifecycle
  | .ownershipControls => bucket.ownershipControls
  | .publicAccessBlock => bucket.publicAccessBlock
  | .replication => bucket.replication
  | .tagging => bucket.tagging
  | .website => bucket.website

def withDocument (bucket : StoredBucket) :
    (document : Document) → Option document.Content → StoredBucket
  | .cors, content => { bucket with cors := content }
  | .encryption, content => { bucket with encryption := content }
  | .lifecycle, content => { bucket with lifecycle := content }
  | .ownershipControls, content => { bucket with ownershipControls := content }
  | .publicAccessBlock, content => { bucket with publicAccessBlock := content }
  | .replication, content => { bucket with replication := content }
  | .tagging, content => { bucket with tagging := content }
  | .website, content => { bucket with website := content }

def items (bucket : StoredBucket) : (collection : Collection) → Keyed collection.Item
  | .analytics => bucket.analytics
  | .intelligentTiering => bucket.intelligentTiering
  | .inventory => bucket.inventory
  | .metrics => bucket.metrics

def withItems (bucket : StoredBucket) :
    (collection : Collection) → Keyed collection.Item → StoredBucket
  | .analytics, items => { bucket with analytics := items }
  | .intelligentTiering, items => { bucket with intelligentTiering := items }
  | .inventory, items => { bucket with inventory := items }
  | .metrics, items => { bucket with metrics := items }

/-- The value of a setting; one that was never written says nothing. -/
def settingValue (bucket : StoredBucket) (setting : Setting) : setting.Value :=
  (bucket.setting setting).getD setting.blank

end StoredBucket

structure Store where
  buckets : Keyed StoredBucket := {}
  /-- Tags by the resource name they belong to. -/
  tags : Keyed (List Tag) := {}
  /-- Operations that fail, each with its code. -/
  failures : Keyed String := {}
  /-- Every call that was made, in order. -/
  calls : List Call := []
  deriving DecidableEq, Inhabited

namespace Store

/-- The account that owns every bucket of the store. -/
def ownerId : String := "79a59df900b949e55d96a1e698fbacedfd6e09d98eacf8f8d5218e7cd47ef2be"

/-- The ACL of a new bucket: its owner holds every permission. -/
def privateAcl : AccessControlPolicy where
  owner := some { id := some ownerId }
  grants := [{
    grantee := some { id := some ownerId, type := some "CanonicalUser" }
    permission := some "FULL_CONTROL" }]

def notFound (operation code : String) : ApiError :=
  ⟨operation, some code, "not found"⟩

/-- Makes every later call of an operation fail. -/
def fail (store : Store) (operation code : String) : Store :=
  { store with failures := store.failures.insert operation code }

def setBucket (store : Store) (name : String) (bucket : StoredBucket) : Store :=
  { store with buckets := store.buckets.insert name bucket }

def setTags (store : Store) (arn : String) (tags : List Tag) : Store :=
  { store with tags := store.tags.insert arn tags }

def tagsOf (store : Store) (arn : String) : List Tag :=
  (store.tags.get? arn).getD []

/-- The bucket that a creation makes. -/
def newBucket (creation : BucketCreation) : StoredBucket where
  location := some ("/" ++ creation.bucket)
  acl := privateAcl
  lastAclPut := some creation.grants
  objectLock := creation.objectLock.getD false
  requestPayment := some { payer := some "BucketOwner" }

/-- Reads from a bucket that has to be there. -/
def reading {α : Type} (store : Store) (operation bucket : String)
    (read : StoredBucket → Except ApiError α) : Except ApiError α × Store :=
  match store.buckets.get? bucket with
  | some stored => (read stored, store)
  | none =>
      (.error ⟨operation, some "NoSuchBucket", "The specified bucket does not exist"⟩, store)

/-- Writes to a bucket that has to be there. -/
def writing (store : Store) (operation bucket : String) (write : StoredBucket → StoredBucket) :
    Except ApiError Unit × Store :=
  match store.buckets.get? bucket with
  | some stored => (.ok (), store.setBucket bucket (write stored))
  | none =>
      (.error ⟨operation, some "NoSuchBucket", "The specified bucket does not exist"⟩, store)

/-- Something that was configured. -/
def configured {α : Type} (operation code : String) (value : Option α) : Except ApiError α :=
  match value with
  | some value => .ok value
  | none => .error (notFound operation code)

/-- The tags after one more was set: a tag with the same key goes, and the new one is the last. -/
def setTag (tags : List Tag) (tag : Tag) : List Tag :=
  tags.filter (fun t => t.key != tag.key) ++ [tag]

/-- The tags without those that have one of some keys. -/
def removeKeys (tags : List Tag) (keys : List String) : List Tag :=
  tags.filter fun t => !t.key.any keys.contains

/-- What a call does when it is not made to fail. -/
def perform (store : Store) (call : Call) : Except ApiError call.Reply × Store :=
  match call with
  | .createBucket creation =>
      if store.buckets.contains creation.bucket then
        (.error ⟨"CreateBucket", some "BucketAlreadyOwnedByYou", "bucket exists"⟩, store)
      else
        (.ok (some ("/" ++ creation.bucket)),
          store.setBucket creation.bucket (newBucket creation))
  | .deleteBucket bucket =>
      if store.buckets.contains bucket then
        (.ok (), { store with buckets := store.buckets.erase bucket })
      else (.error (notFound "DeleteBucket" "NoSuchBucket"), store)
  | .listBuckets => (.ok (store.buckets.names.filter (!isDirectoryName ·)), store)
  | .listDirectoryBuckets => (.ok (store.buckets.names.filter isDirectoryName), store)
  | .getSetting setting bucket =>
      store.reading (Call.operation (.getSetting setting bucket)) bucket fun stored =>
        .ok (stored.settingValue setting)
  | .putSetting setting bucket value =>
      store.writing (Call.operation (.putSetting setting bucket value)) bucket
        (·.withSetting setting value)
  | .getDocument document bucket =>
      let operation := Call.operation (.getDocument document bucket)
      store.reading operation bucket fun stored =>
        (configured operation document.absentCode (stored.document document)).map some
  | .putDocument document bucket content =>
      store.writing (Call.operation (.putDocument document bucket content)) bucket
        (·.withDocument document (some content))
  | .deleteDocument document bucket =>
      store.writing (Call.operation (.deleteDocument document bucket)) bucket
        (·.withDocument document none)
  | .getPolicy bucket =>
      store.reading "GetBucketPolicy" bucket fun stored =>
        (configured "GetBucketPolicy" policyAbsentCode stored.policy).map some
  | .putPolicy bucket policy confirm =>
      store.writing "PutBucketPolicy" bucket fun stored =>
        { stored with policy := some policy, policyConfirm := confirm }
  | .deletePolicy bucket =>
      store.writing "DeleteBucketPolicy" bucket fun stored => { stored with policy := none }
  | .getObjectLock bucket =>
      store.reading "GetObjectLockConfiguration" bucket fun stored =>
        if stored.objectLock then .ok true
        else .error (notFound "GetObjectLockConfiguration" objectLockAbsentCode)
  | .putObjectLock bucket enabled =>
      store.writing "PutObjectLockConfiguration" bucket fun stored =>
        { stored with objectLock := enabled }
  | .getAcl bucket => store.reading "GetBucketAcl" bucket fun stored => .ok stored.acl
  | .putAcl bucket grants =>
      store.writing "PutBucketAcl" bucket fun stored => { stored with lastAclPut := some grants }
  | .listItems collection bucket =>
      store.reading (Call.operation (.listItems collection bucket)) bucket fun stored =>
        .ok (stored.items collection).values
  | .putItem collection bucket item =>
      store.writing (Call.operation (.putItem collection bucket item)) bucket fun stored =>
        stored.withItems collection ((stored.items collection).insert (collection.id item) item)
  | .deleteItem collection bucket id =>
      store.writing (Call.operation (.deleteItem collection bucket id)) bucket fun stored =>
        stored.withItems collection ((stored.items collection).erase id)
  | .listTags _ arn => (.ok (store.tagsOf arn), store)
  | .tag _ arn tags => (.ok (), store.setTags arn (tags.foldl setTag (store.tagsOf arn)))
  | .untag _ arn keys =>
      match store.tags.get? arn with
      | some tags => (.ok (), store.setTags arn (removeKeys tags keys))
      | none => (.ok (), store)

/-- Answers a call: it is logged, and then it fails or does its work. -/
def serve : Service Storage Store := fun call store =>
  let store := { store with calls := store.calls ++ [call] }
  match store.failures.get? call.operation with
  | some code => (.error ⟨call.operation, some code, "injected failure"⟩, store)
  | none => store.perform call

end Store

end BucketSteward

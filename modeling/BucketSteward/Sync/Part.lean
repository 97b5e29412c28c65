import BucketSteward.Normalization
import BucketSteward.Sync.Plan

/-!
Writing one part of a bucket. A document is put when it says something and deleted otherwise; a
setting is always put, with the word that the store assumes where one is left out; a collection is
written item by item, as planned.
-/

namespace BucketSteward

namespace Setting

/-- The value that is put: the desired one, with the word that the store assumes filled in. -/
def toPut : (setting : Setting) → Option setting.Value → setting.Value
  | .accelerate, desired =>
      let value := desired.getD {}
      { value with status := some (value.status.getD defaultAccelerateStatus) }
  | .logging, desired => desired.getD {}
  | .notification, desired => desired.getD {}
  | .requestPayment, desired =>
      let value := desired.getD {}
      { value with payer := some (value.payer.getD defaultPayer) }
  | .versioning, desired =>
      let value := desired.getD {}
      { value with status := some (value.status.getD defaultVersioningStatus) }

/-- What putting a setting is counted under. -/
def putLabel : Setting → CallLabel
  | accelerate => ⟨.update, "PutBucketAccelerateConfiguration"⟩
  | logging => ⟨.update, "PutBucketLogging"⟩
  | notification => ⟨.update, "PutBucketNotificationConfiguration"⟩
  | requestPayment => ⟨.update, "PutBucketRequestPayment"⟩
  | versioning => ⟨.update, "PutBucketVersioning"⟩

end Setting

namespace Document

/-- What putting a document is counted under. -/
def putLabel : Document → CallLabel
  | cors => ⟨.update, "PutBucketCors"⟩
  | encryption => ⟨.update, "PutBucketEncryption"⟩
  | lifecycle => ⟨.update, "PutBucketLifecycleConfiguration"⟩
  | ownershipControls => ⟨.update, "PutBucketOwnershipControls"⟩
  | publicAccessBlock => ⟨.update, "PutPublicAccessBlock"⟩
  | replication => ⟨.update, "PutBucketReplication"⟩
  | tagging => ⟨.update, "PutBucketTagging"⟩
  | website => ⟨.update, "PutBucketWebsite"⟩

/-- What deleting a document is counted under. -/
def deleteLabel : Document → CallLabel
  | cors => ⟨.delete, "DeleteBucketCors"⟩
  | encryption => ⟨.delete, "DeleteBucketEncryption"⟩
  | lifecycle => ⟨.delete, "DeleteBucketLifecycle"⟩
  | ownershipControls => ⟨.delete, "DeleteBucketOwnershipControls"⟩
  | publicAccessBlock => ⟨.delete, "DeletePublicAccessBlock"⟩
  | replication => ⟨.delete, "DeleteBucketReplication"⟩
  | tagging => ⟨.delete, "DeleteBucketTagging"⟩
  | website => ⟨.delete, "DeleteBucketWebsite"⟩

end Document

namespace Pass

def syncSetting (setting : Setting) (bucket : String) (desired : Option setting.Value) :
    Pass Unit :=
  call setting.putLabel (.putSetting setting bucket (setting.toPut desired))

def syncDocument (document : Document) (bucket : String) (desired : Option document.Content) :
    Pass Unit :=
  match desired.filter document.isConfigured with
  | some content => call document.putLabel (.putDocument document bucket content)
  | none => call document.deleteLabel (.deleteDocument document bucket)

/-- Nobody is to lock itself out; directory buckets take no word on it. -/
def syncPolicy (bucket : String) (desired : Option String) (directory : Bool) : Pass Unit :=
  match desired with
  | some policy =>
      call ⟨.update, "PutBucketPolicy"⟩
        (.putPolicy bucket policy (if directory then none else some false))
  | none => call ⟨.delete, "DeleteBucketPolicy"⟩ (.deletePolicy bucket)

def syncObjectLock (bucket : String) (desired : Option Bool) : Pass Unit :=
  call ⟨.update, "PutObjectLockConfiguration"⟩ (.putObjectLock bucket (desired.getD false))

def syncAcl (spec : BucketSpec) : Pass Unit :=
  call ⟨.update, "PutBucketAcl"⟩ (.putAcl spec.name (.ofSpec spec))

/-- Carries out a plan; tells whether anything was written. -/
def carryOut (collection : Collection) (bucket : String) :
    List (ItemAction × collection.Item) → Pass Bool
  | [] => pure false
  | (.keep, _) :: rest => carryOut collection bucket rest
  | (.put, item) :: rest | (.update, item) :: rest => do
      call ⟨.update, collection.putOperation⟩ (.putItem collection bucket item)
      let _ ← carryOut collection bucket rest
      pure true
  | (.delete, item) :: rest => do
      call ⟨.delete, collection.deleteOperation⟩
        (.deleteItem collection bucket (collection.id item))
      let _ ← carryOut collection bucket rest
      pure true

/-- Turns the latest items into the desired ones. Without `latest` nothing is deleted. -/
def syncItems (collection : Collection) (bucket : String)
    (desired latest : Option (List collection.Item)) : Pass Bool :=
  carryOut collection bucket (collection.plan (desired.getD []) (latest.getD []))

end Pass

end BucketSteward

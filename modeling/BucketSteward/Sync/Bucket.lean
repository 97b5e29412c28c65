import BucketSteward.Delta
import BucketSteward.Resource.Policy
import BucketSteward.Sync.Observation
import BucketSteward.Sync.Part

/-!
One pass over a bucket: find it, create it when it is missing, and otherwise compare it with what is
desired and write every part that differs.

The parts are written in a fixed order. Versioning is switched on before replication is configured,
and replication is removed before versioning is switched off, because only a versioned bucket can be
replicated; the block on public access is written before the policy, because it may forbid the
policy. The first part that fails ends the pass.
-/

namespace BucketSteward

/-- How a pass left the bucket. -/
inductive Outcome where
  | created
  /-- The properties that differed, in the order in which they were written. -/
  | updated (properties : List String)
  | inSync
  deriving DecidableEq, Repr

structure Synced where
  outcome : Outcome
  arn : String
  /-- Known only when the pass created the bucket. -/
  location : Option String
  deriving DecidableEq, Repr

namespace Part

/-- The parts of a directory bucket. -/
def isDirectoryPart : Part → Bool
  | document .encryption | document .lifecycle | document .tagging | policy => true
  | _ => false

/-- The parts in the order in which a new bucket is given them. The ACL and the object lock are set
by the creation itself. -/
def creationOrder : List Part := [
  .setting .versioning,
  .setting .accelerate,
  .collection .analytics,
  .document .cors,
  .document .encryption,
  .collection .intelligentTiering,
  .collection .inventory,
  .document .lifecycle,
  .setting .logging,
  .collection .metrics,
  .setting .notification,
  .document .ownershipControls,
  .document .publicAccessBlock,
  .policy,
  .document .replication,
  .setting .requestPayment,
  .document .tagging,
  .document .website]

/-- The parts in the order in which they are updated, but for replication, versioning and object
lock, which come last. -/
def updateOrder : List Part := [
  .setting .accelerate,
  .collection .analytics,
  .acl,
  .document .cors,
  .document .encryption,
  .collection .intelligentTiering,
  .collection .inventory,
  .document .lifecycle,
  .setting .logging,
  .collection .metrics,
  .setting .notification,
  .document .ownershipControls,
  .document .publicAccessBlock,
  .policy,
  .setting .requestPayment,
  .document .tagging,
  .document .website]

/-- Replication goes before versioning when it is removed, and after it otherwise. -/
def replicationOrder (desired : BucketSpec) : List Part :=
  if (desired.document .replication).any Document.replication.isConfigured then
    [.setting .versioning, .document .replication]
  else [.document .replication, .setting .versioning]

/-- Every part, in the order in which an update writes them. -/
def orderFor (desired : BucketSpec) : List Part :=
  updateOrder ++ replicationOrder desired ++ [.objectLock]

/-- The specification speaks of the part; an empty collection says nothing. -/
def isStated (desired : BucketSpec) : Part → Bool
  | setting s => (desired.setting s).isSome
  | document d => (desired.document d).isSome
  | collection c => isFilled (desired.collection c)
  | policy => desired.policy.isSome
  | objectLock | acl => false

/-- The part has to be written. Replication and versioning depend on each other, so a difference in
one is a difference in both. -/
def differsIn (delta : Delta) : Part → Bool
  | setting .versioning | document .replication =>
      delta.touches "replication" || delta.touches "versioning"
  | part => part.members.any delta.touches

/-- Writes a part as it is desired; tells whether anything was written. -/
def write (location : Location) (desired observed : BucketSpec) : Part → Pass Bool
  | setting s => do
      Pass.syncSetting s desired.name (desired.setting s)
      pure true
  | document .tagging => do
      if isDirectoryName desired.name then
        let (account, arn) ← Pass.ofExcept (location.tagTarget desired.name)
        Pass.syncResourceTags account arn desired.tagging
      else Pass.syncDocument .tagging desired.name desired.tagging
      pure true
  | document d => do
      Pass.syncDocument d desired.name (desired.document d)
      pure true
  | collection c =>
      Pass.syncItems c desired.name (desired.collection c) (observed.collection c)
  | policy => do
      Pass.syncPolicy desired.name desired.policy (isDirectoryName desired.name)
      pure true
  | objectLock => do
      Pass.syncObjectLock desired.name desired.objectLockEnabledForBucket
      pure true
  | acl => do
      Pass.syncAcl desired
      pure true

/-- The part exists on the kind of bucket that a name belongs to. -/
def existsOn (bucket : String) (part : Part) : Bool :=
  !isDirectoryName bucket || part.isDirectoryPart

end Part

namespace Pass

/-- Writes parts one after the other, each under its name; answers the names of those where
something was written. -/
def writeParts (location : Location) (desired observed : BucketSpec) :
    List Part → Pass (List String)
  | [] => pure []
  | part :: rest => do
      let written ← under part.property (part.write location desired observed)
      let names ← writeParts location desired observed rest
      pure (if written then part.property :: names else names)

/-- Gives a new bucket every part that the specification speaks of. -/
def writeStated (location : Location) (desired : BucketSpec) : Pass Unit := do
  let parts := Part.creationOrder.filter fun part =>
    part.existsOn desired.name && part.isStated desired
  let _ ← writeParts location desired { name := desired.name } parts
  pure ()

/-- Creates the bucket; answers its location. -/
def create (location : Location) (desired : BucketSpec) : Pass (Option String) := do
  let created ← call ⟨.create, "CreateBucket"⟩ <| .createBucket {
    bucket := desired.name
    grants := .ofNewSpec desired
    configuration := desired.createBucketConfiguration
    objectLock := desired.objectLockEnabledForBucket }
  writeStated location desired
  pure created

/-- Writes every part that differs; answers their properties in the order of writing. -/
def update (location : Location) (desired observed : BucketSpec) (delta : Delta) :
    Pass (List String) :=
  writeParts location desired observed <| (Part.orderFor desired).filter fun part =>
    part.existsOn desired.name && part.differsIn delta

/-- The buckets of the kind that a name belongs to; a store that knows no bucket lists none. -/
def listBeside (bucket : String) : Pass (List String) := do
  let names ← if isDirectoryName bucket then
      callUnless [ApiError.noSuchBucket] ⟨.readMany, "ListDirectoryBuckets"⟩ .listDirectoryBuckets
    else callUnless [ApiError.noSuchBucket] ⟨.readMany, "ListBuckets"⟩ .listBuckets
  pure (names.getD [])

/-- What is observed of the bucket, if the caller owns one of that name. Only a listing tells
whether a bucket exists and is the caller's own; a bucket that goes away while it is read counts as
missing. -/
def find (location : Location) (desired : BucketSpec) : Pass (Option BucketSpec) := do
  let names ← listBeside desired.name
  if names.contains desired.name then
    (some <$> readObserved location desired).handle fun
      | .api e => if e.hasCode [ApiError.noSuchBucket] then pure none else throw (.api e)
      | fault => throw fault
  else pure none

/-- A bucket that is missing and may not be created. -/
def mayNotCreate (bucket : String) : Fault :=
  .invalid <| "bucket " ++ bucket
    ++ " does not exist and the adoption policy does not allow creating it"

/-- Brings a bucket that is there in line with what is desired. -/
def settle (location : Location) (desired observed : BucketSpec) : Pass Outcome := do
  let wanted := desired.normalizedDesired observed
  let found := desired.normalizedObserved observed
  let delta := Delta.between wanted found
  if delta.isEmpty then pure .inSync
  else
    let written ← update location wanted found delta
    pure (if written.isEmpty then .inSync else .updated written)

/-- One pass over a bucket. -/
def sync (location : Location) (desired : BucketSpec) (adoption : AdoptionPolicy) :
    Pass Synced := do
  ofExcept desired.validate
  let arn ← ofExcept (bucketArn desired.name location.region location.account)
  match ← find location desired with
  | none =>
      if adoption = .adopt then throw (mayNotCreate desired.name)
      else
        let created ← create location desired
        pure ⟨.created, arn, created⟩
  | some observed =>
      let outcome ← settle location desired observed
      pure ⟨outcome, arn, none⟩

/-- Deletes a bucket; one that is gone already counts as deleted. -/
def delete (bucket : String) : Pass Unit := do
  let _ ← callUnless [ApiError.noSuchBucket] ⟨.delete, "DeleteBucket"⟩ (.deleteBucket bucket)
  pure ()

end Pass

end BucketSteward

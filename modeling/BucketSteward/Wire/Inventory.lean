import BucketSteward.Configuration.Inventory
import BucketSteward.Wire.Encoding

/-!
Inventories on the wire: a configuration says whether it is enabled, has an id and names the
versions it includes. A destination without a bucket is none.
-/

namespace BucketSteward.Wire

structure KmsKey where
  keyId : String
  deriving DecidableEq, Repr

namespace KmsKey

def encode (key : SseKms) : Encoded KmsKey := do
  let keyId ← demand "Ssekms" "key_id" key.keyId
  pure { keyId }

def decode (key : KmsKey) : SseKms where
  keyId := some key.keyId

end KmsKey

structure InventoryEncryption where
  sseKms : Option KmsKey
  sseS3 : Option SseS3
  deriving DecidableEq

namespace InventoryEncryption

def encode (encryption : BucketSteward.InventoryEncryption) : Encoded InventoryEncryption := do
  let sseKms ← encodeOption KmsKey.encode encryption.sseKms
  pure { sseKms, sseS3 := encryption.sseS3 }

def decode (encryption : InventoryEncryption) : BucketSteward.InventoryEncryption where
  sseKms := encryption.sseKms.map KmsKey.decode
  sseS3 := encryption.sseS3

end InventoryEncryption

structure InventoryBucket where
  accountId : Option String
  bucket : String
  encryption : Option InventoryEncryption
  format : String
  keyPrefix : Option String
  deriving DecidableEq

namespace InventoryBucket

def encode (destination : InventoryS3BucketDestination) : Encoded InventoryBucket := do
  let encryption ← encodeOption InventoryEncryption.encode destination.encryption
  let bucket ← demand "InventoryS3BucketDestination" "bucket" destination.bucket
  let format ← demand "InventoryS3BucketDestination" "format" destination.format
  pure {
    accountId := destination.accountId
    bucket, encryption, format
    keyPrefix := destination.keyPrefix }

def decode (destination : InventoryBucket) : InventoryS3BucketDestination where
  accountId := destination.accountId
  bucket := some destination.bucket
  encryption := destination.encryption.map InventoryEncryption.decode
  format := some destination.format
  keyPrefix := destination.keyPrefix

def blank : InventoryBucket where
  accountId := none
  bucket := ""
  encryption := none
  format := unset
  keyPrefix := none

end InventoryBucket

structure InventoryFilter where
  keyPrefix : String
  deriving DecidableEq, Repr

namespace InventoryFilter

def encode (filter : BucketSteward.InventoryFilter) : Encoded InventoryFilter := do
  let keyPrefix ← demand "InventoryFilter" "prefix" filter.keyPrefix
  pure { keyPrefix }

def decode (filter : InventoryFilter) : BucketSteward.InventoryFilter where
  keyPrefix := some filter.keyPrefix

end InventoryFilter

structure InventorySchedule where
  frequency : String
  deriving DecidableEq, Repr

namespace InventorySchedule

def encode (schedule : BucketSteward.InventorySchedule) : Encoded InventorySchedule := do
  let frequency ← demand "InventorySchedule" "frequency" schedule.frequency
  pure { frequency }

def decode (schedule : InventorySchedule) : BucketSteward.InventorySchedule where
  frequency := some schedule.frequency

def blank : InventorySchedule where
  frequency := unset

end InventorySchedule

structure Inventory where
  id : String
  /-- The bucket that receives the inventory. -/
  destination : Option InventoryBucket
  filter : Option InventoryFilter
  includedObjectVersions : String
  isEnabled : Bool
  optionalFields : Option (List String)
  schedule : Option InventorySchedule
  deriving DecidableEq

namespace Inventory

def encode (configuration : InventoryConfiguration) : Encoded Inventory := do
  let bucket := configuration.destination.bind (·.s3BucketDestination)
  let destination ← encodeOption InventoryBucket.encode bucket
  let filter ← encodeOption InventoryFilter.encode configuration.filter
  let schedule ← encodeOption InventorySchedule.encode configuration.schedule
  let isEnabled ← demand "InventoryConfiguration" "is_enabled" configuration.isEnabled
  let id ← demand "InventoryConfiguration" "id" configuration.id
  let includedObjectVersions ← demand "InventoryConfiguration" "included_object_versions"
    configuration.includedObjectVersions
  pure {
    id, destination, filter, includedObjectVersions, isEnabled
    optionalFields := configuration.optionalFields
    schedule }

def decode (configuration : Inventory) : InventoryConfiguration where
  id := some configuration.id
  destination := configuration.destination.map fun bucket =>
    { s3BucketDestination := some bucket.decode }
  filter := configuration.filter.map InventoryFilter.decode
  includedObjectVersions := some configuration.includedObjectVersions
  isEnabled := some configuration.isEnabled
  optionalFields := configuration.optionalFields.bind decodeSame
  schedule := configuration.schedule.map InventorySchedule.decode

/-- An answer has a destination with a bucket, and a schedule. -/
def completed (configuration : Inventory) : Inventory :=
  { configuration with
    destination := some (configuration.destination.getD InventoryBucket.blank)
    schedule := some (configuration.schedule.getD InventorySchedule.blank) }

end Inventory

end BucketSteward.Wire

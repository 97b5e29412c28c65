import BucketSteward.Form

/-!
Inventory reports, one configuration for each id.
-/

namespace BucketSteward

open Form

/-- Encryption with a key of the key service. -/
structure SseKms where
  keyId : Option String := none
  deriving DecidableEq, Inhabited

instance : JsonForm SseKms := record {} [
  optional "keyId" (·.keyId) fun r v => { r with keyId := v }]

/-- Encryption with a key of the store; the marker carries nothing. -/
structure SseS3 where
  deriving DecidableEq, Inhabited

instance : JsonForm SseS3 := record {} []

/-- How a report is encrypted. -/
structure InventoryEncryption where
  sseKms : Option SseKms := none
  sseS3 : Option SseS3 := none
  deriving DecidableEq, Inhabited

instance : JsonForm InventoryEncryption := record {} [
  optional "sseKms" (·.sseKms) fun r v => { r with sseKms := v },
  optional "sseS3" (·.sseS3) fun r v => { r with sseS3 := v }]

/-- The bucket that receives a report. -/
structure InventoryS3BucketDestination where
  accountId : Option String := none
  bucket : Option String := none
  encryption : Option InventoryEncryption := none
  format : Option String := none
  keyPrefix : Option String := none
  deriving DecidableEq, Inhabited

instance : JsonForm InventoryS3BucketDestination := record {} [
  optional "accountId" (·.accountId) fun r v => { r with accountId := v },
  optional "bucket" (·.bucket) fun r v => { r with bucket := v },
  optional "encryption" (·.encryption) fun r v => { r with encryption := v },
  optional "format" (·.format) fun r v => { r with format := v },
  optional "prefix" (·.keyPrefix) fun r v => { r with keyPrefix := v }]

/-- Where a report is sent to. -/
structure InventoryDestination where
  s3BucketDestination : Option InventoryS3BucketDestination := none
  deriving DecidableEq, Inhabited

instance : JsonForm InventoryDestination := record {} [
  optional "s3BucketDestination" (·.s3BucketDestination)
    fun r v => { r with s3BucketDestination := v }]

/-- The objects a report covers. -/
structure InventoryFilter where
  keyPrefix : Option String := none
  deriving DecidableEq, Inhabited

instance : JsonForm InventoryFilter := record {} [
  optional "prefix" (·.keyPrefix) fun r v => { r with keyPrefix := v }]

/-- How often a report is made. -/
structure InventorySchedule where
  frequency : Option String := none
  deriving DecidableEq, Inhabited

instance : JsonForm InventorySchedule := record {} [
  optional "frequency" (·.frequency) fun r v => { r with frequency := v }]

/-- A report on the objects that a filter selects, known by its id. -/
structure InventoryConfiguration where
  id : Option String := none
  destination : Option InventoryDestination := none
  filter : Option InventoryFilter := none
  includedObjectVersions : Option String := none
  isEnabled : Option Bool := none
  optionalFields : Option (List String) := none
  schedule : Option InventorySchedule := none
  deriving DecidableEq, Inhabited

instance : JsonForm InventoryConfiguration := record {} [
  optional "id" (·.id) fun r v => { r with id := v },
  optional "destination" (·.destination) fun r v => { r with destination := v },
  optional "filter" (·.filter) fun r v => { r with filter := v },
  optional "includedObjectVersions" (·.includedObjectVersions)
    fun r v => { r with includedObjectVersions := v },
  optional "isEnabled" (·.isEnabled) fun r v => { r with isEnabled := v },
  optional "optionalFields" (·.optionalFields) fun r v => { r with optionalFields := v },
  optional "schedule" (·.schedule) fun r v => { r with schedule := v }]

end BucketSteward

import BucketSteward.Form
import BucketSteward.Configuration.Tag

/-!
Replication of objects into other buckets.
-/

namespace BucketSteward

open Form

/-- A part of a replication rule that is switched on or off. -/
structure StatusConfiguration where
  status : Option String := none
  deriving DecidableEq, Inhabited

instance : JsonForm StatusConfiguration := record {} [
  optional "status" (·.status) fun r v => { r with status := v }]

/-- Who owns the replicas. -/
structure ReplicaOwner where
  owner : Option String := none
  deriving DecidableEq, Inhabited

instance : JsonForm ReplicaOwner := record {} [
  optional "owner" (·.owner) fun r v => { r with owner := v }]

/-- The key that encrypts the replicas. -/
structure EncryptionConfiguration where
  replicaKmsKeyId : Option String := none
  deriving DecidableEq, Inhabited

instance : JsonForm EncryptionConfiguration := record {} [
  optional "replicaKmsKeyId" (·.replicaKmsKeyId) fun r v => { r with replicaKmsKeyId := v }]

/-- A span of time in minutes. -/
structure ReplicationTimeValue where
  minutes : Option Int32 := none
  deriving DecidableEq, Inhabited

instance : JsonForm ReplicationTimeValue := record {} [
  optional "minutes" (·.minutes) fun r v => { r with minutes := v }]

/-- Metrics of the replication and the delay that raises an event. -/
structure ReplicationMetrics where
  eventThreshold : Option ReplicationTimeValue := none
  status : Option String := none
  deriving DecidableEq, Inhabited

instance : JsonForm ReplicationMetrics := record {} [
  optional "eventThreshold" (·.eventThreshold) fun r v => { r with eventThreshold := v },
  optional "status" (·.status) fun r v => { r with status := v }]

/-- The time within which replicas are due. -/
structure ReplicationTime where
  status : Option String := none
  time : Option ReplicationTimeValue := none
  deriving DecidableEq, Inhabited

instance : JsonForm ReplicationTime := record {} [
  optional "status" (·.status) fun r v => { r with status := v },
  optional "time" (·.time) fun r v => { r with time := v }]

/-- The bucket that receives the replicas. -/
structure ReplicationDestination where
  replicaOwner : Option ReplicaOwner := none
  account : Option String := none
  bucket : Option String := none
  encryptionConfiguration : Option EncryptionConfiguration := none
  metrics : Option ReplicationMetrics := none
  replicationTime : Option ReplicationTime := none
  storageClass : Option String := none
  deriving DecidableEq, Inhabited

instance : JsonForm ReplicationDestination := record {} [
  optional "accessControlTranslation" (·.replicaOwner) fun r v => { r with replicaOwner := v },
  optional "account" (·.account) fun r v => { r with account := v },
  optional "bucket" (·.bucket) fun r v => { r with bucket := v },
  optional "encryptionConfiguration" (·.encryptionConfiguration)
    fun r v => { r with encryptionConfiguration := v },
  optional "metrics" (·.metrics) fun r v => { r with metrics := v },
  optional "replicationTime" (·.replicationTime) fun r v => { r with replicationTime := v },
  optional "storageClass" (·.storageClass) fun r v => { r with storageClass := v }]

/-- Further objects that are replicated. -/
structure SourceSelectionCriteria where
  replicaModifications : Option StatusConfiguration := none
  sseKmsEncryptedObjects : Option StatusConfiguration := none
  deriving DecidableEq, Inhabited

instance : JsonForm SourceSelectionCriteria := record {} [
  optional "replicaModifications" (·.replicaModifications)
    fun r v => { r with replicaModifications := v },
  optional "sseKmsEncryptedObjects" (·.sseKmsEncryptedObjects)
    fun r v => { r with sseKmsEncryptedObjects := v }]

/-- One replication rule. -/
structure ReplicationRule where
  deleteMarkerReplication : Option StatusConfiguration := none
  destination : Option ReplicationDestination := none
  existingObjectReplication : Option StatusConfiguration := none
  filter : Option ConfigurationFilter := none
  id : Option String := none
  keyPrefix : Option String := none
  priority : Option Int32 := none
  sourceSelectionCriteria : Option SourceSelectionCriteria := none
  status : Option String := none
  deriving DecidableEq, Inhabited

instance : JsonForm ReplicationRule := record {} [
  optional "deleteMarkerReplication" (·.deleteMarkerReplication)
    fun r v => { r with deleteMarkerReplication := v },
  optional "destination" (·.destination) fun r v => { r with destination := v },
  optional "existingObjectReplication" (·.existingObjectReplication)
    fun r v => { r with existingObjectReplication := v },
  optional "filter" (·.filter) fun r v => { r with filter := v },
  optional "id" (·.id) fun r v => { r with id := v },
  optional "prefix" (·.keyPrefix) fun r v => { r with keyPrefix := v },
  optional "priority" (·.priority) fun r v => { r with priority := v },
  optional "sourceSelectionCriteria" (·.sourceSelectionCriteria)
    fun r v => { r with sourceSelectionCriteria := v },
  optional "status" (·.status) fun r v => { r with status := v }]

/-- The replication rules of a bucket. -/
structure ReplicationConfiguration where
  role : Option String := none
  rules : Option (List ReplicationRule) := none
  deriving DecidableEq, Inhabited

instance : JsonForm ReplicationConfiguration := record {} [
  optional "role" (·.role) fun r v => { r with role := v },
  optional "rules" (·.rules) fun r v => { r with rules := v }]

end BucketSteward

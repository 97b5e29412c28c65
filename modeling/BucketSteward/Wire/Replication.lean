import BucketSteward.Configuration.Replication
import BucketSteward.Wire.Tag

/-!
Replication on the wire: the configuration names its role, a rule has a status, and so has nearly
every option of a rule; a destination names its bucket.
-/

namespace BucketSteward.Wire

/-- An option that is on or off, of a type that asks for its status. -/
structure Switch where
  status : String
  deriving DecidableEq, Repr

namespace Switch

def encode (type : String) (option : StatusConfiguration) : Encoded Switch := do
  let status ← demand type "status" option.status
  pure { status }

def decode (option : Switch) : StatusConfiguration where
  status := some option.status

end Switch

structure ReplicaOwner where
  owner : String
  deriving DecidableEq, Repr

namespace ReplicaOwner

def encode (replicaOwner : BucketSteward.ReplicaOwner) : Encoded ReplicaOwner := do
  let owner ← demand "AccessControlTranslation" "owner" replicaOwner.owner
  pure { owner }

def decode (replicaOwner : ReplicaOwner) : BucketSteward.ReplicaOwner where
  owner := some replicaOwner.owner

end ReplicaOwner

structure DestinationMetrics where
  eventThreshold : Option ReplicationTimeValue
  status : String
  deriving DecidableEq

namespace DestinationMetrics

def encode (metrics : ReplicationMetrics) : Encoded DestinationMetrics := do
  let status ← demand "Metrics" "status" metrics.status
  pure { eventThreshold := metrics.eventThreshold, status }

def decode (metrics : DestinationMetrics) : ReplicationMetrics where
  eventThreshold := metrics.eventThreshold
  status := some metrics.status

end DestinationMetrics

structure TimeControl where
  status : String
  time : Option ReplicationTimeValue
  deriving DecidableEq

namespace TimeControl

def encode (time : ReplicationTime) : Encoded TimeControl := do
  let status ← demand "ReplicationTime" "status" time.status
  pure { status, time := time.time }

def decode (time : TimeControl) : ReplicationTime where
  status := some time.status
  time := time.time

def completed (time : TimeControl) : TimeControl where
  status := time.status
  time := some (time.time.getD {})

end TimeControl

structure Destination where
  replicaOwner : Option ReplicaOwner
  account : Option String
  bucket : String
  encryptionConfiguration : Option EncryptionConfiguration
  metrics : Option DestinationMetrics
  replicationTime : Option TimeControl
  storageClass : Option String
  deriving DecidableEq

namespace Destination

def encode (destination : ReplicationDestination) : Encoded Destination := do
  let replicaOwner ← encodeOption ReplicaOwner.encode destination.replicaOwner
  let metrics ← encodeOption DestinationMetrics.encode destination.metrics
  let replicationTime ← encodeOption TimeControl.encode destination.replicationTime
  let bucket ← demand "Destination" "bucket" destination.bucket
  pure {
    replicaOwner
    account := destination.account
    bucket
    encryptionConfiguration := destination.encryptionConfiguration
    metrics, replicationTime
    storageClass := destination.storageClass }

def decode (destination : Destination) : ReplicationDestination where
  replicaOwner := destination.replicaOwner.map ReplicaOwner.decode
  account := destination.account
  bucket := some destination.bucket
  encryptionConfiguration := destination.encryptionConfiguration
  metrics := destination.metrics.map DestinationMetrics.decode
  replicationTime := destination.replicationTime.map TimeControl.decode
  storageClass := destination.storageClass

def blank : Destination where
  replicaOwner := none
  account := none
  bucket := ""
  encryptionConfiguration := none
  metrics := none
  replicationTime := none
  storageClass := none

def completed (destination : Destination) : Destination :=
  { destination with replicationTime := destination.replicationTime.map TimeControl.completed }

end Destination

structure SourceCriteria where
  replicaModifications : Option Switch
  sseKmsEncryptedObjects : Option Switch
  deriving DecidableEq, Repr

namespace SourceCriteria

def encode (criteria : SourceSelectionCriteria) : Encoded SourceCriteria := do
  let replicaModifications ←
    encodeOption (Switch.encode "ReplicaModifications") criteria.replicaModifications
  let sseKmsEncryptedObjects ←
    encodeOption (Switch.encode "SseKmsEncryptedObjects") criteria.sseKmsEncryptedObjects
  pure { replicaModifications, sseKmsEncryptedObjects }

def decode (criteria : SourceCriteria) : SourceSelectionCriteria where
  replicaModifications := criteria.replicaModifications.map Switch.decode
  sseKmsEncryptedObjects := criteria.sseKmsEncryptedObjects.map Switch.decode

end SourceCriteria

structure ReplicationRule where
  /-- The replication of delete markers may leave its status open. -/
  deleteMarkerReplication : Option StatusConfiguration
  destination : Option Destination
  existingObjectReplication : Option Switch
  filter : Option Filter
  id : Option String
  keyPrefix : Option String
  priority : Option Int32
  sourceSelectionCriteria : Option SourceCriteria
  status : String
  deriving DecidableEq

namespace ReplicationRule

def encode (rule : BucketSteward.ReplicationRule) : Encoded ReplicationRule := do
  let filter ← encodeOption Filter.encode rule.filter
  let sourceSelectionCriteria ← encodeOption SourceCriteria.encode rule.sourceSelectionCriteria
  let existingObjectReplication ←
    encodeOption (Switch.encode "ExistingObjectReplication") rule.existingObjectReplication
  let destination ← encodeOption Destination.encode rule.destination
  let status ← demand "ReplicationRule" "status" rule.status
  pure {
    deleteMarkerReplication := rule.deleteMarkerReplication
    destination, existingObjectReplication, filter
    id := rule.id
    keyPrefix := rule.keyPrefix
    priority := rule.priority
    sourceSelectionCriteria, status }

def decode (rule : ReplicationRule) : BucketSteward.ReplicationRule where
  deleteMarkerReplication := rule.deleteMarkerReplication
  destination := rule.destination.map Destination.decode
  existingObjectReplication := rule.existingObjectReplication.map Switch.decode
  filter := rule.filter.map Filter.decode
  id := rule.id
  keyPrefix := rule.keyPrefix
  priority := rule.priority
  sourceSelectionCriteria := rule.sourceSelectionCriteria.map SourceCriteria.decode
  status := some rule.status

def completed (rule : ReplicationRule) : ReplicationRule :=
  { rule with destination := some (rule.destination.getD Destination.blank).completed }

end ReplicationRule

structure Replication where
  role : String
  rules : List ReplicationRule
  deriving DecidableEq

namespace Replication

def encode (configuration : ReplicationConfiguration) : Encoded Replication := do
  let rules ← encodeAll ReplicationRule.encode configuration.rules
  let role ← demand "ReplicationConfiguration" "role" configuration.role
  pure { role, rules }

def decode (configuration : Replication) : ReplicationConfiguration where
  role := some configuration.role
  rules := decodeAll ReplicationRule.decode configuration.rules

/-- A rule in an answer has a destination, and the control of its time a time. -/
def completed (configuration : Replication) : Replication where
  role := configuration.role
  rules := configuration.rules.map ReplicationRule.completed

end Replication

end BucketSteward.Wire

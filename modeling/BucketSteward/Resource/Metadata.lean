import BucketSteward.Form
import BucketSteward.Keyed

/-!
The metadata that every resource of the cluster has. The steward reads the name, the namespace, the
annotations, the finalizers, the generation and the time of the deletion; the rest is kept because
metadata is only readable as a whole. Metadata and its parts are read from objects alone, never
from lists.
-/

namespace BucketSteward

open Form

/-- An object whose members are all strings. -/
instance : JsonForm (Keyed String) where
  write map := .obj (map.entries.map fun e => (e.1, .str e.2))
  read?
    | .obj members =>
        (members.mapM fun m => (read? m.2).map fun value => (m.1, value)).map Keyed.ofList
    | _ => none
  schema := .object [] []

/-- A time as the cluster writes it: read with its fraction, written without. -/
structure ClusterTime where
  instant : Timestamp
  deriving DecidableEq

instance : JsonForm ClusterTime where
  write t := .str t.instant.writeSeconds
  read?
    | .str s => (Timestamp.read? s).map ClusterTime.mk
    | _ => none
  schema := .dateTime

/-- A resource that this one belongs to. -/
structure OwnerReference where
  apiVersion : Option String := none
  blockOwnerDeletion : Option Bool := none
  controller : Option Bool := none
  kind : Option String := none
  name : Option String := none
  uid : Option String := none
  deriving DecidableEq, Inhabited

instance : JsonForm OwnerReference := namedRecord {} [
  optional "apiVersion" (·.apiVersion) fun r v => { r with apiVersion := v },
  optional "blockOwnerDeletion" (·.blockOwnerDeletion)
    fun r v => { r with blockOwnerDeletion := v },
  optional "controller" (·.controller) fun r v => { r with controller := v },
  optional "kind" (·.kind) fun r v => { r with kind := v },
  optional "name" (·.name) fun r v => { r with name := v },
  optional "uid" (·.uid) fun r v => { r with uid := v }]

/-- The members of a resource that one of its writers looks after. -/
structure ManagedFields where
  apiVersion : Option String := none
  fieldsType : Option String := none
  /-- The members, in a document that only the cluster interprets. -/
  fields : Option Json := none
  manager : Option String := none
  operation : Option String := none
  subresource : Option String := none
  time : Option ClusterTime := none
  deriving DecidableEq, Inhabited

instance : JsonForm ManagedFields := namedRecord {} [
  optional "apiVersion" (·.apiVersion) fun r v => { r with apiVersion := v },
  optional "fieldsType" (·.fieldsType) fun r v => { r with fieldsType := v },
  optional "fieldsV1" (·.fields) fun r v => { r with fields := v },
  optional "manager" (·.manager) fun r v => { r with manager := v },
  optional "operation" (·.operation) fun r v => { r with operation := v },
  optional "subresource" (·.subresource) fun r v => { r with subresource := v },
  optional "time" (·.time) fun r v => { r with time := v }]

structure Metadata where
  annotations : Option (Keyed String) := none
  creationTimestamp : Option ClusterTime := none
  deletionGracePeriodSeconds : Option Int64 := none
  deletionTimestamp : Option ClusterTime := none
  finalizers : Option (List String) := none
  /-- What the cluster makes the name from when there is none yet. -/
  generateName : Option String := none
  /-- Counts the changes of the specification. -/
  generation : Option Int64 := none
  labels : Option (Keyed String) := none
  managedFields : Option (List ManagedFields) := none
  name : Option String := none
  namespaceName : Option String := none
  ownerReferences : Option (List OwnerReference) := none
  resourceVersion : Option String := none
  selfLink : Option String := none
  uid : Option String := none
  deriving DecidableEq, Inhabited

instance : JsonForm Metadata := namedRecord {} [
  optional "annotations" (·.annotations) fun r v => { r with annotations := v },
  optional "creationTimestamp" (·.creationTimestamp) fun r v => { r with creationTimestamp := v },
  optional "deletionGracePeriodSeconds" (·.deletionGracePeriodSeconds)
    fun r v => { r with deletionGracePeriodSeconds := v },
  optional "deletionTimestamp" (·.deletionTimestamp) fun r v => { r with deletionTimestamp := v },
  optional "finalizers" (·.finalizers) fun r v => { r with finalizers := v },
  optional "generateName" (·.generateName) fun r v => { r with generateName := v },
  optional "generation" (·.generation) fun r v => { r with generation := v },
  optional "labels" (·.labels) fun r v => { r with labels := v },
  optional "managedFields" (·.managedFields) fun r v => { r with managedFields := v },
  optional "name" (·.name) fun r v => { r with name := v },
  optional "namespace" (·.namespaceName) fun r v => { r with namespaceName := v },
  optional "ownerReferences" (·.ownerReferences) fun r v => { r with ownerReferences := v },
  optional "resourceVersion" (·.resourceVersion) fun r v => { r with resourceVersion := v },
  optional "selfLink" (·.selfLink) fun r v => { r with selfLink := v },
  optional "uid" (·.uid) fun r v => { r with uid := v }]

end BucketSteward

import BucketSteward.Cluster
import BucketSteward.Resource.Status

/-!
One turn of the steward on a resource. A finalizer on the resource guards its bucket: it is added
before anything else is done, and it is removed after the bucket was dealt with, so that the
resource does not go away before.

A turn says when the resource has to be looked at again. What goes wrong in a turn is reported as an
event, and only then is it a failure of the turn; a turn whose failure can not even be reported ends
with the cluster's fault.
-/

namespace BucketSteward

/-- When a resource is looked at again. -/
inductive Next where
  | afterSeconds (seconds : Nat)
  /-- Not before it changes. -/
  | afterChange
  deriving DecidableEq, Repr

/-- What holds for all resources. -/
structure Policy where
  /-- Applies when neither the resource nor its namespace says otherwise. -/
  deletion : DeletionPolicy := .delete
  /-- How often a bucket that is in line is compared again. -/
  resyncSeconds : Nat := 36000
  /-- The codes that say that a request can not succeed as it stands. -/
  terminalCodes : List String := Fault.defaultTerminalCodes
  deriving DecidableEq, Repr

/-- How long to wait before changes are verified. -/
def verifySeconds : Nat := 10

/-- How long to wait after a fault that may go away. -/
def retrySeconds : Nat := 30

/-- How long to wait after a fault: a terminal one waits for the next comparison. -/
def Fault.retryAfter (policy : Policy) (fault : Fault) : Nat :=
  if fault.isTerminal policy.terminalCodes then policy.resyncSeconds else retrySeconds

/-- The store and the cluster together. -/
@[reducible] def Surroundings : Interface := Storage.sum Cluster

@[reducible] def Turn (α : Type) : Type := Program Surroundings Fault α

namespace Turn

/-- A pass over the bucket. -/
def pass {α : Type} (work : Pass α) : Turn α :=
  work.onLeft Cluster

/-- Asks the cluster and goes on with whatever it answers. A request that can not be sent is
answered without asking. -/
def ask (request : ClusterRequest) : Turn (Except ClusterError request.Reply) :=
  match request.defect? with
  | some defect => pure (.error (.unsendable defect))
  | none => Program.request (I := Surroundings) (.inr request)

/-- Asks the cluster; a refusal becomes the fault that `asFault` makes of it. -/
def demand (asFault : ClusterError → Fault) (request : ClusterRequest) : Turn request.Reply := do
  match ← ask request with
  | .ok reply => pure reply
  | .error e => throw (asFault e)

def publish (resource : BucketResource) (event : Event) : Turn Unit :=
  demand .cluster (.publish resource.subject event)

/-! ## Bringing the bucket in line -/

/-- What is reported of a pass that changed something. -/
def changeEvent? (spec : BucketSpec) : Except Fault Synced → Option Event
  | .ok { outcome := .created, .. } =>
      some { reason := "Created", note := "Created bucket " ++ spec.name, action := "Reconcile" }
  | .ok { outcome := .updated properties, .. } =>
      some { reason := "Updated"
             note := "Synced " ++ ", ".intercalate properties
             action := "Reconcile" }
  | _ => none

def patchStatus (resource : BucketResource) (status : BucketStatus) : Turn Unit :=
  demand .cluster (.patchStatus resource.home resource.name status)

/-- A pass over the bucket, whose result is reported and written into the status. -/
def apply (policy : Policy) (location : Location) (now : ClusterTime)
    (resource : BucketResource) : Turn Next := do
  let result ← Program.attempt
    (pass (Pass.sync location resource.spec resource.adoptionPolicy))
  match changeEvent? resource.spec result with
  | some event => publish resource event
  | none => pure ()
  patchStatus resource
    (BucketStatus.next resource.status location policy.terminalCodes now result)
  match result with
  | .ok { outcome := .inSync, .. } => pure (.afterSeconds policy.resyncSeconds)
  | .ok _ => pure (.afterSeconds verifySeconds)
  | .error fault => throw fault

/-! ## Letting go of the bucket -/

/-- The annotations of a namespace; a namespace that is not there has none. -/
def namespaceAnnotations (name : String) : Turn (Option (Keyed String)) := do
  match ← ask (.getNamespace name) with
  | .ok annotations => pure annotations
  | .error e => if e.isNotFound then pure none else throw (.cluster e)

/-- Whether the bucket goes with the resource. The namespace is asked only if the resource does not
decide. -/
def deletionPolicy (policy : Policy) (resource : BucketResource) : Turn DeletionPolicy := do
  match resource.deletionPolicy? with
  | some decided => pure decided
  | none => do
      let annotations ← namespaceAnnotations resource.home
      pure (DeletionPolicy.resolve none annotations policy.deletion)

/-- Deletes the bucket of a resource that is being deleted, unless it is to be kept. -/
def cleanup (policy : Policy) (resource : BucketResource) : Turn Next := do
  publish resource {
    reason := "DeleteRequested"
    note := "Delete `" ++ resource.name ++ "`"
    action := "Deleting" }
  match ← deletionPolicy policy resource with
  | .delete => pass (Pass.delete resource.spec.name)
  | .retain => pure ()
  pure .afterChange

/-! ## The finalizer -/

def finalizerName : String := "finalizers.s3.services.k8s.aws/Bucket"

def finalizersPath : String := "/metadata/finalizers"

/-- Adds the finalizer, provided that nobody changed the list. -/
def addingPatch : List String → List PatchStep
  | [] => [.test finalizersPath .null, .add finalizersPath (.arr [.str finalizerName])]
  | finalizers => [
      .test finalizersPath (.arr (finalizers.map .str)),
      .add (finalizersPath ++ "/-") (.str finalizerName)]

/-- Removes the finalizer from its place, provided that it is still there. -/
def removingPatch (index : Nat) : List PatchStep :=
  let path := finalizersPath ++ "/" ++ toString index
  [.test path (.str finalizerName), .remove path]

/-- The name of a resource, which a patch of its finalizers needs. -/
def named (resource : BucketResource) : Turn String :=
  match resource.metadata.name with
  | some name => pure name
  | none => throw .unnamedResource

/-- Guards a resource with the finalizer. -/
def guarded (resource : BucketResource) (apply cleanup : Turn Next) : Turn Next :=
  match resource.finalizers.findIdx? (· == finalizerName), resource.isBeingDeleted with
  | some _, false => apply.mapFault .applyFailed
  | some index, true => do
      let name ← named resource
      let next ← cleanup.mapFault .cleanupFailed
      demand .removeFinalizer (.patchFinalizers resource.home name (removingPatch index))
      pure next
  | none, false => do
      let name ← named resource
      demand .addFinalizer
        (.patchFinalizers resource.home name (addingPatch resource.finalizers))
      pure .afterChange
  | none, true => pure .afterChange

/-- One turn on a resource. -/
def reconcile (policy : Policy) (location : Location) (now : ClusterTime) (resource : BucketResource) :
    Turn Next :=
  (guarded resource (apply policy location now resource) (cleanup policy resource)).handle
    fun fault => do
      publish resource {
        type := .warning
        reason := "FailedReconcile"
        note := fault.note
        action := "Reconcile" }
      throw fault

end Turn

namespace Counters

/-- A turn is counted when it begins and measured when it ends; one that fails is counted as
failed, if the failure could be reported. -/
def recordTurn (counters : Counters) (resource : BucketResource) (result : Except Fault Next) :
    Counters :=
  let counters := counters.recordPass Definition.kind
  match result with
  | .ok _ | .error (.cluster _) => counters
  | .error fault => counters.recordFailure Definition.kind resource.name fault

end Counters

end BucketSteward

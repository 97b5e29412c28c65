import BucketSteward.Resource
import BucketSteward.Sync.Bucket

/-!
The status that follows from the last one and the result of a pass. A success reports where the
bucket lives and one condition; a failure keeps what was known and reports two. A condition keeps
the time of its last transition for as long as its status stays the same.
-/

namespace BucketSteward

namespace BucketCondition

def resourceSynced : String := "ACK.ResourceSynced"
def terminal : String := "ACK.Terminal"
def recoverable : String := "ACK.Recoverable"

/-- The condition of a type after a pass; a condition that had the same status before keeps its
time. -/
def transition (existing : List BucketCondition) (now : ClusterTime)
    (type status reason message : String) : BucketCondition :=
  let previous := (existing.find? fun c => c.type == type).filter fun c => c.status == status
  { lastTransitionTime := some ((previous.bind (·.lastTransitionTime)).getD now)
    message := some message
    reason := some reason
    status
    type }

end BucketCondition

namespace BucketStatus

open BucketCondition in
/-- The conditions after a pass. -/
def conditionsAfter (existing : List BucketCondition) (now : ClusterTime)
    (terminalCodes : List String) : Except Fault Synced → List BucketCondition
  | .ok { outcome := .inSync, .. } =>
      [transition existing now resourceSynced "True" "Synced" "Resource synced successfully"]
  | .ok { outcome := .created, .. } =>
      [transition existing now resourceSynced "False" "Created"
        "Bucket was created, verifying its configuration"]
  | .ok { outcome := .updated properties, .. } =>
      [transition existing now resourceSynced "False" "Updated"
        ("Synced " ++ ", ".intercalate properties ++ ", verifying")]
  | .error fault =>
      let message := fault.display
      if fault.isTerminal terminalCodes then
        [transition existing now resourceSynced "False" "Terminal" message,
          transition existing now terminal "True" "Terminal" message]
      else
        [transition existing now resourceSynced "Unknown" "FailedReconcile" message,
          transition existing now recoverable "True" "FailedReconcile" message]

/-- The status after a pass. -/
def next (previous : Option BucketStatus) (location : Location) (terminalCodes : List String)
    (now : ClusterTime) (result : Except Fault Synced) : BucketStatus :=
  let before := previous.getD {}
  let conditions := conditionsAfter (before.conditions.getD []) now terminalCodes result
  match result with
  | .ok synced =>
      { ackResourceMetadata := some {
          arn := some synced.arn
          ownerAccountId := location.account
          region := some location.region }
        location := synced.location.orElse fun _ => before.location
        conditions := some conditions }
  | .error _ => { before with conditions := some conditions }

end BucketStatus

end BucketSteward

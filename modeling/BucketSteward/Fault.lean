import BucketSteward.Cluster.Address
import BucketSteward.Json.Printer

/-!
Everything that can go wrong in a pass over a bucket, with its wording, the label it is counted
under, and whether trying again can help.

A fault is terminal when the resource has to change first. Only the innermost cause decides that
(`Fault.isTerminal`): what wraps it, the property that was synced or the phase of the finalizer,
does not count.
-/

namespace BucketSteward

/-- A call that a service refused or that could not be sent. -/
structure ApiError where
  operation : String
  /-- The service's code; a call that got no answer has none. -/
  code : Option String
  message : String
  deriving DecidableEq, Repr

namespace ApiError

def display (e : ApiError) : String :=
  e.operation ++ " failed (" ++ e.code.getD "Unknown" ++ "): " ++ e.message

/-- Whether the code is one of those given; a call without code has none of them. -/
def hasCode (e : ApiError) (codes : List String) : Bool :=
  match e.code with
  | some code => codes.contains code
  | none => false

/-- The code that says that the caller owns no bucket of that name. -/
def noSuchBucket : String := "NoSuchBucket"

end ApiError

/-- Why a request to the cluster came to nothing. -/
inductive ClusterError where
  /-- The cluster answered that it refuses the request. -/
  | refused (status message reason : String) (code : Nat)
  /-- The request has no address and was not sent. -/
  | unsendable (defect : AddressDefect)
  deriving DecidableEq, Repr

namespace ClusterError

def display : ClusterError → String
  | refused status message reason code =>
      "ApiError: " ++ message ++ ": " ++ reason ++ " (ErrorResponse \x7b status: "
        ++ Json.quoted status ++ ", message: " ++ Json.quoted message ++ ", reason: "
        ++ Json.quoted reason ++ ", code: " ++ toString code ++ " \x7d)"
  | unsendable defect => "Failed to build request: " ++ defect.display

/-- The cluster answered that there is no such resource. -/
def isNotFound : ClusterError → Bool
  | refused _ _ reason _ => reason == "NotFound"
  | unsendable _ => false

end ClusterError

inductive Fault where
  /-- A document could not be read or written. -/
  | unreadable
  | cluster (e : ClusterError)
  | api (e : ApiError)
  /-- A part of the bucket could not be synced. -/
  | property (name : String) (source : Fault)
  /-- The resource asks for something that can not be. -/
  | invalid (message : String)
  /-- The bucket can only be addressed with an account. -/
  | missingAccount (bucket : String)
  /-- The work guarded by the finalizer failed. -/
  | applyFailed (source : Fault)
  /-- The work before the finalizer is removed failed. -/
  | cleanupFailed (source : Fault)
  | addFinalizer (e : ClusterError)
  | removeFinalizer (e : ClusterError)
  | unnamedResource
  | invalidFinalizer
  deriving DecidableEq, Repr

namespace Fault

/-- The codes that say that a request can not succeed as it stands. -/
def defaultTerminalCodes : List String := [
  "InvalidBucketName",
  "BucketAlreadyExists",
  "InvalidLocationConstraint",
  "IllegalLocationConstraintException",
  "MalformedPolicy",
  "MalformedXML",
  "InvalidArgument",
  "InvalidRequest"]

/-- The label that a fault is counted under. -/
def label : Fault → String
  | unreadable => "SerializationError"
  | cluster _ => "KubeError"
  | api _ => "ApiError"
  | property _ _ => "SyncPropertyError"
  | invalid _ => "Terminal"
  | missingAccount _ => "MissingAccountId"
  | applyFailed _ | cleanupFailed _ | addFinalizer _ | removeFinalizer _ | unnamedResource
  | invalidFinalizer => "FinalizerError"

/-- The wording of a fault. -/
def display : Fault → String
  | unreadable => "SerializationError"
  | cluster e => "Kube Error: " ++ e.display
  | api e => e.display
  | property name source => "Error syncing property '" ++ name ++ "': " ++ display source
  | invalid message => message
  | missingAccount bucket =>
      "An AWS account ID is required to address directory bucket " ++ bucket
        ++ "; set --aws-account-id"
  | applyFailed source => "Finalizer Error: failed to apply object: " ++ display source
  | cleanupFailed source => "Finalizer Error: failed to clean up object: " ++ display source
  | addFinalizer e => "Finalizer Error: failed to add finalizer: " ++ e.display
  | removeFinalizer e => "Finalizer Error: failed to remove finalizer: " ++ e.display
  | unnamedResource => "Finalizer Error: object has no name"
  | invalidFinalizer => "Finalizer Error: invalid finalizer"

/-- The wording of a fault in a note about its resource, which does not say again that the
finalizer failed. -/
def note : Fault → String
  | applyFailed source => "failed to apply object: " ++ source.display
  | cleanupFailed source => "failed to clean up object: " ++ source.display
  | addFinalizer e => "failed to add finalizer: " ++ e.display
  | removeFinalizer e => "failed to remove finalizer: " ++ e.display
  | unnamedResource => "object has no name"
  | invalidFinalizer => "invalid finalizer"
  | fault => fault.display

/-- Whether the resource has to change before another attempt can succeed. -/
def isTerminal (codes : List String) : Fault → Bool
  | invalid _ | missingAccount _ => true
  | api e => e.hasCode codes
  | property _ source => isTerminal codes source
  | applyFailed source | cleanupFailed source => isTerminal codes source
  | unreadable | cluster _ | addFinalizer _ | removeFinalizer _ | unnamedResource
  | invalidFinalizer => false

end Fault

end BucketSteward

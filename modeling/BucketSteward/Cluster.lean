import BucketSteward.Fault
import BucketSteward.Program
import BucketSteward.Resource.Definition

/-!
The requests that the steward makes to the cluster: it reports events about a resource, looks up the
annotations of a namespace, and patches the status and the finalizers of a resource. Nothing else
of a resource is ever written. A request whose names make no address can not be sent
(`ClusterRequest.defect?`).
-/

namespace BucketSteward

/-- The name that the steward reports events and owns fields under. -/
def stewardName : String := "s3-bucket-operator"

inductive EventType where
  | normal
  | warning
  deriving DecidableEq, Repr

def EventType.word : EventType → String
  | normal => "Normal"
  | warning => "Warning"

/-- Something that happened to a resource. -/
structure Event where
  type : EventType := .normal
  reason : String
  note : String
  action : String
  deriving DecidableEq, Repr

/-- A resource as an event refers to it. -/
structure Subject where
  kind : String
  name : Option String
  home : Option String
  deriving DecidableEq, Repr

namespace Subject

/-- The namespace of a resource that says none. -/
def defaultNamespace : String := "default"

/-- The namespace that an event about the resource belongs to. -/
def eventNamespace (subject : Subject) : String :=
  subject.home.getD defaultNamespace

end Subject

/-- One step of a patch. -/
inductive PatchStep where
  /-- The patch is void unless this value is there; `null` stands for nothing. -/
  | test (path : String) (value : Json)
  | add (path : String) (value : Json)
  | remove (path : String)
  deriving DecidableEq

inductive ClusterRequest where
  | publish (subject : Subject) (event : Event)
  | getNamespace (name : String)
  /-- Replaces the status with what the steward saw. -/
  | patchStatus (home name : String) (status : BucketStatus)
  | patchFinalizers (home name : String) (patch : List PatchStep)
  deriving DecidableEq

namespace ClusterRequest

/-- What a request answers when it succeeds; a namespace answers its annotations. -/
@[reducible] def Reply : ClusterRequest → Type
  | getNamespace _ => Option (Keyed String)
  | publish _ _ | patchStatus _ _ _ | patchFinalizers _ _ _ => Unit

/-- Where the bucket resources of a namespace are. -/
def resourcesPath (home : String) : String :=
  "/apis/" ++ Definition.apiVersion ++ "/namespaces/" ++ home ++ "/" ++ Definition.plural ++ "/"

def address : ClusterRequest → String
  | publish subject _ =>
      "/apis/events.k8s.io/v1/namespaces/" ++ subject.eventNamespace ++ "/events?"
  | getNamespace name => "/api/v1/namespaces/" ++ name
  | patchStatus home name _ =>
      resourcesPath home ++ name ++ "/status?&force=true&fieldManager=" ++ stewardName
  | patchFinalizers home name _ => resourcesPath home ++ name ++ "?"

/-- The name of what a request is about; an event is about nothing that has to be there. -/
def target? : ClusterRequest → Option String
  | publish _ _ => none
  | getNamespace name | patchStatus _ name _ | patchFinalizers _ name _ => some name

/-- Why a request can not be sent. -/
def defect? (request : ClusterRequest) : Option AddressDefect :=
  if request.target? = some "" then some .noName else Address.defect? request.address

end ClusterRequest

@[reducible] def Cluster : Interface where
  Request := ClusterRequest
  Answer request := Except ClusterError request.Reply
  Note := Empty

namespace BucketResource

/-- The namespace that requests about the resource go to. -/
def home (resource : BucketResource) : String :=
  match resource.metadata.namespaceName with
  | none | some "" => Subject.defaultNamespace
  | some name => name

def subject (resource : BucketResource) : Subject where
  kind := Definition.kind
  name := resource.metadata.name
  home := resource.metadata.namespaceName

/-- The cluster was asked to delete the resource. -/
def isBeingDeleted (resource : BucketResource) : Bool :=
  resource.metadata.deletionTimestamp.isSome

def finalizers (resource : BucketResource) : List String :=
  resource.metadata.finalizers.getD []

end BucketResource

end BucketSteward

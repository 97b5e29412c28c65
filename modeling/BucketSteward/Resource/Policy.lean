import BucketSteward.Resource
import BucketSteward.Text.Affix
import BucketSteward.Text.Blank

/-!
Policies that a resource states in annotations: whether its bucket is deleted with it, and whether
a bucket may be taken over or created. Blanks around a value and the case of ASCII letters do not
count, and a value that is not recognised counts as absent.
-/

namespace BucketSteward

/-- A policy's word as it is compared: without the blanks around it, in lower case. -/
def policyWord (value : String) : List Char :=
  (Text.trim value.toList).map Text.lowerAscii

inductive DeletionPolicy where
  | delete
  | retain
  deriving DecidableEq, Repr, Inhabited

inductive AdoptionPolicy where
  /-- The bucket has to exist; it is never created. -/
  | adopt
  /-- The bucket is taken over when it exists and created otherwise. -/
  | adoptOrCreate
  deriving DecidableEq, Repr, Inhabited

namespace DeletionPolicy

def parse? (value : String) : Option DeletionPolicy :=
  let word := policyWord value
  if word = "delete".toList then some .delete
  else if word = "retain".toList then some .retain
  else none

/-- The annotation of a resource. -/
def annotation : String := "services.k8s.aws/deletion-policy"

/-- The annotation of a namespace, for its resources that state none. -/
def namespaceAnnotation : String := "s3.services.k8s.aws/deletion-policy"

/-- The resource decides before its namespace, and the namespace before the default. -/
def resolve (resource : Option DeletionPolicy) (namespaceAnnotations : Option (Keyed String))
    (default : DeletionPolicy) : DeletionPolicy :=
  let ofNamespace := (namespaceAnnotations.bind (·.get? namespaceAnnotation)).bind parse?
  (resource.orElse fun _ => ofNamespace).getD default

end DeletionPolicy

namespace AdoptionPolicy

def parse? (value : String) : Option AdoptionPolicy :=
  let word := policyWord value
  if word = "adopt".toList then some .adopt
  else if word = "adopt-or-create".toList then some .adoptOrCreate
  else none

def annotation : String := "services.k8s.aws/adoption-policy"

end AdoptionPolicy

namespace BucketResource

def deletionPolicy? (resource : BucketResource) : Option DeletionPolicy :=
  (resource.annotation? DeletionPolicy.annotation).bind DeletionPolicy.parse?

/-- A bucket may be created unless the resource says otherwise. -/
def adoptionPolicy (resource : BucketResource) : AdoptionPolicy :=
  ((resource.annotation? AdoptionPolicy.annotation).bind AdoptionPolicy.parse?).getD .adoptOrCreate

end BucketResource

end BucketSteward

import BucketSteward.Form

/-!
Who owns the objects that others write.
-/

namespace BucketSteward

open Form

/-- One ownership rule. -/
structure OwnershipControlsRule where
  objectOwnership : Option String := none
  deriving DecidableEq, Inhabited

instance : JsonForm OwnershipControlsRule := record {} [
  optional "objectOwnership" (·.objectOwnership) fun r v => { r with objectOwnership := v }]

/-- The ownership rules of a bucket. -/
structure OwnershipControls where
  rules : Option (List OwnershipControlsRule) := none
  deriving DecidableEq, Inhabited

instance : JsonForm OwnershipControls := record {} [
  optional "rules" (·.rules) fun r v => { r with rules := v }]

end BucketSteward

import BucketSteward.Configuration.Ownership
import BucketSteward.Wire.Encoding

/-!
Object ownership on the wire: every rule names the ownership.
-/

namespace BucketSteward.Wire

structure OwnershipRule where
  objectOwnership : String
  deriving DecidableEq, Repr

namespace OwnershipRule

def encode (rule : OwnershipControlsRule) : Encoded OwnershipRule := do
  let objectOwnership ← demand "OwnershipControlsRule" "object_ownership" rule.objectOwnership
  pure { objectOwnership }

def decode (rule : OwnershipRule) : OwnershipControlsRule where
  objectOwnership := some rule.objectOwnership

end OwnershipRule

structure Ownership where
  rules : List OwnershipRule
  deriving DecidableEq, Repr

namespace Ownership

def encode (controls : OwnershipControls) : Encoded Ownership := do
  let rules ← encodeAll OwnershipRule.encode controls.rules
  pure { rules }

def decode (controls : Ownership) : OwnershipControls where
  rules := decodeAll OwnershipRule.decode controls.rules

end Ownership

end BucketSteward.Wire

import BucketSteward.Form

/-!
The block on public access.
-/

namespace BucketSteward

open Form

/-- Which kinds of public access are refused. -/
structure PublicAccessBlockConfiguration where
  blockPublicAcls : Option Bool := none
  blockPublicPolicy : Option Bool := none
  ignorePublicAcls : Option Bool := none
  restrictPublicBuckets : Option Bool := none
  deriving DecidableEq, Inhabited

instance : JsonForm PublicAccessBlockConfiguration := record {} [
  optional "blockPublicAcls" (·.blockPublicAcls) fun r v => { r with blockPublicAcls := v },
  optional "blockPublicPolicy" (·.blockPublicPolicy) fun r v => { r with blockPublicPolicy := v },
  optional "ignorePublicAcls" (·.ignorePublicAcls) fun r v => { r with ignorePublicAcls := v },
  optional "restrictPublicBuckets" (·.restrictPublicBuckets)
    fun r v => { r with restrictPublicBuckets := v }]

end BucketSteward

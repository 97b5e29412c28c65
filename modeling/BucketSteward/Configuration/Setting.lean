import BucketSteward.Form

/-!
Settings of one or two words: transfer acceleration, who pays for requests, and versioning.
-/

namespace BucketSteward

open Form

/-- Whether transfer acceleration is on. -/
structure AccelerateConfiguration where
  status : Option String := none
  deriving DecidableEq, Inhabited

instance : JsonForm AccelerateConfiguration := record {} [
  optional "status" (·.status) fun r v => { r with status := v }]

/-- Who pays for requests. -/
structure RequestPaymentConfiguration where
  payer : Option String := none
  deriving DecidableEq, Inhabited

instance : JsonForm RequestPaymentConfiguration := record {} [
  optional "payer" (·.payer) fun r v => { r with payer := v }]

/-- Whether replaced versions of an object are kept. -/
structure VersioningConfiguration where
  mfaDelete : Option String := none
  status : Option String := none
  deriving DecidableEq, Inhabited

instance : JsonForm VersioningConfiguration := record {} [
  optional "mfaDelete" (·.mfaDelete) fun r v => { r with mfaDelete := v },
  optional "status" (·.status) fun r v => { r with status := v }]

end BucketSteward

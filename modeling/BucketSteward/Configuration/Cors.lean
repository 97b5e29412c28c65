import BucketSteward.Form

/-!
Cross-origin resource sharing.
-/

namespace BucketSteward

open Form

/-- The origins and methods one rule allows. -/
structure CorsRule where
  allowedHeaders : Option (List String) := none
  allowedMethods : Option (List String) := none
  allowedOrigins : Option (List String) := none
  exposeHeaders : Option (List String) := none
  id : Option String := none
  maxAgeSeconds : Option Int32 := none
  deriving DecidableEq, Inhabited

instance : JsonForm CorsRule := record {} [
  optional "allowedHeaders" (·.allowedHeaders) fun r v => { r with allowedHeaders := v },
  optional "allowedMethods" (·.allowedMethods) fun r v => { r with allowedMethods := v },
  optional "allowedOrigins" (·.allowedOrigins) fun r v => { r with allowedOrigins := v },
  optional "exposeHeaders" (·.exposeHeaders) fun r v => { r with exposeHeaders := v },
  optional "id" (·.id) fun r v => { r with id := v },
  optional "maxAgeSeconds" (·.maxAgeSeconds) fun r v => { r with maxAgeSeconds := v }]

/-- The cross-origin rules of a bucket. -/
structure CorsConfiguration where
  corsRules : Option (List CorsRule) := none
  deriving DecidableEq, Inhabited

instance : JsonForm CorsConfiguration := record {} [
  optional "corsRules" (·.corsRules) fun r v => { r with corsRules := v }]

end BucketSteward

import BucketSteward.Configuration.Cors
import BucketSteward.Wire.Encoding

/-!
Rules for requests from other origins on the wire: every rule names methods and origins.
-/

namespace BucketSteward.Wire

structure CorsRule where
  allowedHeaders : Option (List String)
  allowedMethods : List String
  allowedOrigins : List String
  exposeHeaders : Option (List String)
  id : Option String
  maxAgeSeconds : Option Int32
  deriving DecidableEq

namespace CorsRule

def encode (rule : BucketSteward.CorsRule) : Encoded CorsRule := do
  let allowedMethods ← demand "CorsRule" "allowed_methods" rule.allowedMethods
  let allowedOrigins ← demand "CorsRule" "allowed_origins" rule.allowedOrigins
  pure {
    allowedHeaders := rule.allowedHeaders
    allowedMethods, allowedOrigins
    exposeHeaders := rule.exposeHeaders
    id := rule.id
    maxAgeSeconds := rule.maxAgeSeconds }

def decode (rule : CorsRule) : BucketSteward.CorsRule where
  allowedHeaders := rule.allowedHeaders.bind decodeSame
  allowedMethods := decodeSame rule.allowedMethods
  allowedOrigins := decodeSame rule.allowedOrigins
  exposeHeaders := rule.exposeHeaders.bind decodeSame
  id := rule.id
  maxAgeSeconds := rule.maxAgeSeconds

end CorsRule

structure Cors where
  corsRules : List CorsRule
  deriving DecidableEq

namespace Cors

def encode (configuration : CorsConfiguration) : Encoded Cors := do
  let corsRules ← encodeAll CorsRule.encode configuration.corsRules
  pure { corsRules }

def decode (configuration : Cors) : CorsConfiguration where
  corsRules := decodeAll CorsRule.decode configuration.corsRules

end Cors

end BucketSteward.Wire

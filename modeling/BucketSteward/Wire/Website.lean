import BucketSteward.Configuration.Website
import BucketSteward.Wire.Encoding

/-!
Websites on the wire: a document names its key, and a redirection of all requests its host. Routing
rules ask for nothing.
-/

namespace BucketSteward.Wire

structure ErrorDocument where
  key : String
  deriving DecidableEq, Repr

namespace ErrorDocument

def encode (document : BucketSteward.ErrorDocument) : Encoded ErrorDocument := do
  let key ← demand "ErrorDocument" "key" document.key
  pure { key }

def decode (document : ErrorDocument) : BucketSteward.ErrorDocument where
  key := some document.key

end ErrorDocument

structure IndexDocument where
  suffix : String
  deriving DecidableEq, Repr

namespace IndexDocument

def encode (document : BucketSteward.IndexDocument) : Encoded IndexDocument := do
  let suffix ← demand "IndexDocument" "suffix" document.suffix
  pure { suffix }

def decode (document : IndexDocument) : BucketSteward.IndexDocument where
  suffix := some document.suffix

end IndexDocument

structure RedirectAll where
  hostName : String
  protocol : Option String
  deriving DecidableEq, Repr

namespace RedirectAll

def encode (redirect : RedirectAllRequestsTo) : Encoded RedirectAll := do
  let hostName ← demand "RedirectAllRequestsTo" "host_name" redirect.hostName
  pure { hostName, protocol := redirect.protocol }

def decode (redirect : RedirectAll) : RedirectAllRequestsTo where
  hostName := some redirect.hostName
  protocol := redirect.protocol

end RedirectAll

structure Website where
  errorDocument : Option ErrorDocument
  indexDocument : Option IndexDocument
  redirectAllRequestsTo : Option RedirectAll
  routingRules : Option (List RoutingRule)
  deriving DecidableEq

namespace Website

def encode (configuration : WebsiteConfiguration) : Encoded Website := do
  let errorDocument ← encodeOption ErrorDocument.encode configuration.errorDocument
  let indexDocument ← encodeOption IndexDocument.encode configuration.indexDocument
  let redirectAllRequestsTo ←
    encodeOption RedirectAll.encode configuration.redirectAllRequestsTo
  pure {
    errorDocument, indexDocument, redirectAllRequestsTo
    routingRules := configuration.routingRules }

def decode (configuration : Website) : WebsiteConfiguration where
  errorDocument := configuration.errorDocument.map ErrorDocument.decode
  indexDocument := configuration.indexDocument.map IndexDocument.decode
  redirectAllRequestsTo := configuration.redirectAllRequestsTo.map RedirectAll.decode
  routingRules := configuration.routingRules.bind decodeSame

/-- A routing rule in an answer has a redirection. -/
def completed (configuration : Website) : Website :=
  { configuration with
    routingRules := configuration.routingRules.map fun rules =>
      rules.map fun rule => { rule with redirect := some (rule.redirect.getD {}) } }

end Website

end BucketSteward.Wire

import BucketSteward.Form

/-!
Static website hosting.
-/

namespace BucketSteward

open Form

/-- The page served for an error. -/
structure ErrorDocument where
  key : Option String := none
  deriving DecidableEq, Inhabited

instance : JsonForm ErrorDocument := record {} [
  optional "key" (·.key) fun r v => { r with key := v }]

/-- The page served for a directory. -/
structure IndexDocument where
  suffix : Option String := none
  deriving DecidableEq, Inhabited

instance : JsonForm IndexDocument := record {} [
  optional "suffix" (·.suffix) fun r v => { r with suffix := v }]

/-- The host that answers every request. -/
structure RedirectAllRequestsTo where
  hostName : Option String := none
  protocol : Option String := none
  deriving DecidableEq, Inhabited

instance : JsonForm RedirectAllRequestsTo := record {} [
  optional "hostName" (·.hostName) fun r v => { r with hostName := v },
  optional "protocol" (·.protocol) fun r v => { r with protocol := v }]

/-- When a routing rule applies. -/
structure RoutingRuleCondition where
  httpErrorCodeReturnedEquals : Option String := none
  keyPrefixEquals : Option String := none
  deriving DecidableEq, Inhabited

instance : JsonForm RoutingRuleCondition := record {} [
  optional "httpErrorCodeReturnedEquals" (·.httpErrorCodeReturnedEquals)
    fun r v => { r with httpErrorCodeReturnedEquals := v },
  optional "keyPrefixEquals" (·.keyPrefixEquals) fun r v => { r with keyPrefixEquals := v }]

/-- Where a routing rule leads. -/
structure Redirect where
  hostName : Option String := none
  httpRedirectCode : Option String := none
  protocol : Option String := none
  replaceKeyPrefixWith : Option String := none
  replaceKeyWith : Option String := none
  deriving DecidableEq, Inhabited

instance : JsonForm Redirect := record {} [
  optional "hostName" (·.hostName) fun r v => { r with hostName := v },
  optional "httpRedirectCode" (·.httpRedirectCode) fun r v => { r with httpRedirectCode := v },
  optional "protocol" (·.protocol) fun r v => { r with protocol := v },
  optional "replaceKeyPrefixWith" (·.replaceKeyPrefixWith)
    fun r v => { r with replaceKeyPrefixWith := v },
  optional "replaceKeyWith" (·.replaceKeyWith) fun r v => { r with replaceKeyWith := v }]

/-- One routing rule. -/
structure RoutingRule where
  condition : Option RoutingRuleCondition := none
  redirect : Option Redirect := none
  deriving DecidableEq, Inhabited

instance : JsonForm RoutingRule := record {} [
  optional "condition" (·.condition) fun r v => { r with condition := v },
  optional "redirect" (·.redirect) fun r v => { r with redirect := v }]

/-- The website of a bucket. -/
structure WebsiteConfiguration where
  errorDocument : Option ErrorDocument := none
  indexDocument : Option IndexDocument := none
  redirectAllRequestsTo : Option RedirectAllRequestsTo := none
  routingRules : Option (List RoutingRule) := none
  deriving DecidableEq, Inhabited

instance : JsonForm WebsiteConfiguration := record {} [
  optional "errorDocument" (·.errorDocument) fun r v => { r with errorDocument := v },
  optional "indexDocument" (·.indexDocument) fun r v => { r with indexDocument := v },
  optional "redirectAllRequestsTo" (·.redirectAllRequestsTo)
    fun r v => { r with redirectAllRequestsTo := v },
  optional "routingRules" (·.routingRules) fun r v => { r with routingRules := v }]

end BucketSteward

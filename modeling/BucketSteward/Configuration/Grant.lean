import BucketSteward.Form

/-!
Who owns a bucket and who holds which permission on it.
-/

namespace BucketSteward

open Form

/-- The account that owns a bucket. -/
structure Owner where
  displayName : Option String := none
  id : Option String := none
  deriving DecidableEq, Inhabited

instance : JsonForm Owner := record {} [
  optional "displayName" (·.displayName) fun r v => { r with displayName := v },
  optional "id" (·.id) fun r v => { r with id := v }]

/-- A user or a group that holds a permission. -/
structure Grantee where
  displayName : Option String := none
  emailAddress : Option String := none
  id : Option String := none
  type : Option String := none
  uri : Option String := none
  deriving DecidableEq, Inhabited

instance : JsonForm Grantee := record {} [
  optional "displayName" (·.displayName) fun r v => { r with displayName := v },
  optional "emailAddress" (·.emailAddress) fun r v => { r with emailAddress := v },
  optional "id" (·.id) fun r v => { r with id := v },
  optional "type" (·.type) fun r v => { r with type := v },
  optional "uri" (·.uri) fun r v => { r with uri := v }]

/-- A permission and its holder. -/
structure Grant where
  grantee : Option Grantee := none
  permission : Option String := none
  deriving DecidableEq, Inhabited

instance : JsonForm Grant := record {} [
  optional "grantee" (·.grantee) fun r v => { r with grantee := v },
  optional "permission" (·.permission) fun r v => { r with permission := v }]

end BucketSteward

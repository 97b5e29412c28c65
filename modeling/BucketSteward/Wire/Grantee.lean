import BucketSteward.Configuration.Grant
import BucketSteward.Wire.Encoding

/-!
Grantees on the wire say what type they are of. Grants of an ACL are only ever read.
-/

namespace BucketSteward.Wire

structure Grantee where
  displayName : Option String
  emailAddress : Option String
  id : Option String
  type : String
  uri : Option String
  deriving DecidableEq, Repr

namespace Grantee

def encode (grantee : BucketSteward.Grantee) : Encoded Grantee := do
  let type ← demand "Grantee" "r#type" grantee.type
  pure {
    displayName := grantee.displayName
    emailAddress := grantee.emailAddress
    id := grantee.id
    type
    uri := grantee.uri }

def decode (grantee : Grantee) : BucketSteward.Grantee where
  displayName := grantee.displayName
  emailAddress := grantee.emailAddress
  id := grantee.id
  type := some grantee.type
  uri := grantee.uri

end Grantee

structure Grant where
  grantee : Option Grantee
  permission : Option String
  deriving DecidableEq, Repr

namespace Grant

def encode (grant : BucketSteward.Grant) : Encoded Grant := do
  let grantee ← encodeOption Grantee.encode grant.grantee
  pure { grantee, permission := grant.permission }

def decode (grant : Grant) : BucketSteward.Grant where
  grantee := grant.grantee.map Grantee.decode
  permission := grant.permission

end Grant

end BucketSteward.Wire

import BucketSteward.Acl.Canned
import BucketSteward.Call

/-!
Grants as texts, one for each permission: a comma separated list of `id=` and `uri=` tokens, in the
order of the grants. The observed ACL of a bucket is written into a specification in this form,
beside the canned ACLs that fit it, and a specification's ACL is sent in it.
-/

namespace BucketSteward

/-- Who holds each permission; a permission nobody holds is absent. -/
structure GrantHeaders where
  fullControl : Option String := none
  read : Option String := none
  readAcp : Option String := none
  write : Option String := none
  writeAcp : Option String := none
  deriving DecidableEq, Repr, Inhabited

namespace Grantee

/-- A holder in a grant text: a group by its address, a user by its id, and a holder of another
type by its id or else its address. -/
def token? (grantee : Grantee) : Option String :=
  let byId := grantee.id.map fun id => "id=" ++ id
  let byUri := grantee.uri.map fun uri => "uri=" ++ uri
  if grantee.type == some Acl.group then byUri
  else if grantee.type == some Acl.canonicalUser then byId
  else byId.orElse fun _ => byUri

end Grantee

namespace GrantHeaders

/-- The holders of one permission. -/
def tokens (grants : List Grant) (permission : String) : List String :=
  (grants.filter fun grant => grant.permission == some permission).filterMap fun grant =>
    grant.grantee.bind Grantee.token?

def header? (grants : List Grant) (permission : String) : Option String :=
  match tokens grants permission with
  | [] => none
  | holders => some (",".intercalate holders)

def ofGrants (grants : List Grant) : GrantHeaders where
  fullControl := header? grants Acl.fullControl
  read := header? grants Acl.read
  readAcp := header? grants Acl.readAcp
  write := header? grants Acl.write
  writeAcp := header? grants Acl.writeAcp

end GrantHeaders

namespace BucketSpec

/-- The specification with an observed ACL: the canned ACLs that fit, and the grants. -/
def withObservedAcl (spec : BucketSpec) (policy : AccessControlPolicy) : BucketSpec :=
  let acls := CannedAcls.ofGrants policy.owner policy.grants
  let headers := GrantHeaders.ofGrants policy.grants
  { spec with
    acl := if acls.isEmpty then none else some acls.display
    grantFullControl := headers.fullControl
    grantRead := headers.read
    grantReadAcp := headers.readAcp
    grantWrite := headers.write
    grantWriteAcp := headers.writeAcp }

end BucketSpec

/-- A text that says something. -/
def nonBlank (text : Option String) : Option String :=
  text.filter (· != "")

namespace AclGrants

/-- What an ACL is set to: the canned ACL if the specification names one, else the grants that say
something, and `private` when there are none. -/
def ofSpec (spec : BucketSpec) : AclGrants :=
  match spec.acl with
  | some acl => { acl := some acl }
  | none =>
      let grants : AclGrants := {
        grantFullControl := nonBlank spec.grantFullControl
        grantRead := nonBlank spec.grantRead
        grantReadAcp := nonBlank spec.grantReadAcp
        grantWrite := nonBlank spec.grantWrite
        grantWriteAcp := nonBlank spec.grantWriteAcp }
      if grants = {} then { acl := some Acl.defaultName } else grants

/-- What a bucket is created with: every text that says something. -/
def ofNewSpec (spec : BucketSpec) : AclGrants where
  acl := nonBlank spec.acl
  grantFullControl := nonBlank spec.grantFullControl
  grantRead := nonBlank spec.grantRead
  grantReadAcp := nonBlank spec.grantReadAcp
  grantWrite := nonBlank spec.grantWrite
  grantWriteAcp := nonBlank spec.grantWriteAcp

end AclGrants

end BucketSteward

import BucketSteward.Configuration.Grant
import BucketSteward.Text.Blank

/-!
Canned ACLs, and how they are recognised from the grants they lead to. A store only ever answers
grants, and several canned ACLs lead to the same ones, so recognition yields all names that fit.

The names are kept in one text, divided by `|`; a text that somebody wrote is read the same way,
blanks around a name and empty names do not count.
-/

namespace BucketSteward

namespace Acl

/-! ## Words of the store -/

def fullControl : String := "FULL_CONTROL"
def read : String := "READ"
def readAcp : String := "READ_ACP"
def write : String := "WRITE"
def writeAcp : String := "WRITE_ACP"

def canonicalUser : String := "CanonicalUser"
def group : String := "Group"

/-- The user that may read under `aws-exec-read`. -/
def execReadUser : String := "6aa5a366c34c1cbe25dc49211496e913e0351eb0e8c37aa3477e40942ec6b97c"

def allUsers : String := "http://acs.amazonaws.com/groups/global/AllUsers"
def authenticatedUsers : String := "http://acs.amazonaws.com/groups/global/AuthenticatedUsers"
def logDelivery : String := "http://acs.amazonaws.com/groups/s3/LogDelivery"

/-- The ACL of a bucket that nobody gave one. -/
def defaultName : String := "private"

end Acl

namespace Grant

def granteeId? (grant : Grant) : Option String := grant.grantee.bind (·.id)

def granteeUri? (grant : Grant) : Option String := grant.grantee.bind (·.uri)

def granteeType? (grant : Grant) : Option String := grant.grantee.bind (·.type)

/-- The permission is held by the user with an id; a grantee without type can be one. -/
def isHeldByUser (grant : Grant) (id : String) : Bool :=
  grant.granteeType?.getD Acl.canonicalUser == Acl.canonicalUser && grant.granteeId? == some id

/-- The permission is held by the group with an address; a grantee without type can be one. -/
def isHeldByGroup (grant : Grant) (uri : String) : Bool :=
  grant.granteeType?.getD Acl.group == Acl.group && grant.granteeUri? == some uri

/-- The grant by which an owner holds every permission. -/
def isOwners (grant : Grant) (owner : String) : Bool :=
  grant.granteeId? == some owner && grant.permission == some Acl.fullControl

end Grant

namespace Acl

/-- Two grants give a group one of two permissions each. -/
def pairHeldByGroup (a b : Grant) (uri first second : String) : Bool :=
  a.isHeldByGroup uri && b.isHeldByGroup uri
    && ((a.permission == some first && b.permission == some second)
      || (a.permission == some second && b.permission == some first))

/-- The canned ACLs that add some grants to the one of the owner. -/
def namesBeside : List Grant → List String
  | [] => ["private", "bucket-owner-read", "bucket-owner-full-control"]
  | [grant] =>
      if grant.permission == some read then
        if grant.isHeldByUser execReadUser then ["aws-exec-read"]
        else if grant.isHeldByGroup allUsers then ["public-read"]
        else if grant.isHeldByGroup authenticatedUsers then ["authenticated-read"]
        else []
      else []
  | [a, b] =>
      if pairHeldByGroup a b logDelivery write readAcp then ["log-delivery-write"]
      else if pairHeldByGroup a b allUsers read write then ["public-read-write"]
      else []
  | _ => []

end Acl

/-- The names of canned ACLs that an ACL may have been made from, in a fixed order. -/
structure CannedAcls where
  names : List String := []
  deriving DecidableEq, Repr, Inhabited

namespace CannedAcls

/-- The canned ACLs that fit an owner and grants: the owner holds every permission, and what is
left after the first such grant is what the canned ACL adds. -/
def ofGrants (owner : Option Owner) (grants : List Grant) : CannedAcls :=
  match owner.bind (·.id) with
  | none => ⟨[]⟩
  | some id =>
      if grants.any (·.isOwners id) then ⟨Acl.namesBeside (grants.eraseP (·.isOwners id))⟩
      else ⟨[]⟩

/-- The names in one text. -/
def display (acls : CannedAcls) : String :=
  String.ofList ("|".toList.intercalate (acls.names.map String.toList))

/-- Reads names from one text. -/
def parse (text : String) : CannedAcls :=
  let tokens := (text.toList.splitOn '|').map Text.trim
  ⟨(tokens.filter (!·.isEmpty)).map String.ofList⟩

def isEmpty (acls : CannedAcls) : Bool := acls.names.isEmpty

/-- The grants are those of a bucket that nobody gave an ACL. -/
def isDefault (acls : CannedAcls) : Bool := acls.names.contains Acl.defaultName

def first? (acls : CannedAcls) : Option String := acls.names.head?

/-- The name, if it is among those that fit. -/
def matching? (acls : CannedAcls) (name : String) : Option String :=
  if acls.names.contains name then some name else none

end CannedAcls

end BucketSteward

import BucketSteward.Part
import BucketSteward.Counters
import BucketSteward.Program

/-!
The calls that the steward makes to the store and to the tag service. What a call answers and the
name that it is logged under are functions of the call itself; what it is counted under is said by
whoever makes it.
-/

namespace BucketSteward

open Form

/-- An ACL as it is sent: a canned ACL or grants, one text for each permission. -/
structure AclGrants where
  acl : Option String := none
  grantFullControl : Option String := none
  grantRead : Option String := none
  grantReadAcp : Option String := none
  grantWrite : Option String := none
  grantWriteAcp : Option String := none
  deriving DecidableEq, Inhabited

instance : JsonForm AclGrants := record {} [
  optional "acl" (·.acl) fun r v => { r with acl := v },
  optional "grantFullControl" (·.grantFullControl) fun r v => { r with grantFullControl := v },
  optional "grantRead" (·.grantRead) fun r v => { r with grantRead := v },
  optional "grantReadACP" (·.grantReadAcp) fun r v => { r with grantReadAcp := v },
  optional "grantWrite" (·.grantWrite) fun r v => { r with grantWrite := v },
  optional "grantWriteACP" (·.grantWriteAcp) fun r v => { r with grantWriteAcp := v }]

/-- What a bucket is created with. -/
structure BucketCreation where
  bucket : String
  grants : AclGrants := {}
  configuration : Option CreateBucketConfiguration := none
  objectLock : Option Bool := none
  deriving DecidableEq, Inhabited

/-- An ACL as it is read: the owner and the list of grants. -/
structure AccessControlPolicy where
  owner : Option Owner := none
  grants : List Grant := []
  deriving DecidableEq, Inhabited

/-- An ACL without a list of grants reads as one with an empty list. -/
instance : JsonForm AccessControlPolicy := record {} [
  optional "owner" (·.owner) fun r v => { r with owner := v },
  optional "grants" (some ·.grants) fun r v => { r with grants := v.getD [] }]

inductive Call where
  | createBucket (creation : BucketCreation)
  | deleteBucket (bucket : String)
  | listBuckets
  | listDirectoryBuckets
  | getSetting (setting : Setting) (bucket : String)
  | putSetting (setting : Setting) (bucket : String) (value : setting.Value)
  | getDocument (document : Document) (bucket : String)
  | putDocument (document : Document) (bucket : String) (content : document.Content)
  | deleteDocument (document : Document) (bucket : String)
  | getPolicy (bucket : String)
  /-- `confirm` says whether the caller may lock itself out; directory buckets take no word on
  it. -/
  | putPolicy (bucket policy : String) (confirm : Option Bool)
  | deletePolicy (bucket : String)
  | getObjectLock (bucket : String)
  | putObjectLock (bucket : String) (enabled : Bool)
  | getAcl (bucket : String)
  | putAcl (bucket : String) (grants : AclGrants)
  | listItems (collection : Collection) (bucket : String)
  | putItem (collection : Collection) (bucket : String) (item : collection.Item)
  | deleteItem (collection : Collection) (bucket id : String)
  | listTags (account arn : String)
  | tag (account arn : String) (tags : List Tag)
  | untag (account arn : String) (keys : List String)
  deriving DecidableEq

namespace Call

/-- What a call answers when it succeeds. A document or a policy can be missing from the answer. -/
@[reducible] def Reply : Call → Type
  | createBucket _ => Option String
  | listBuckets | listDirectoryBuckets => List String
  | getSetting setting _ => setting.Value
  | getDocument document _ => Option document.Content
  | getPolicy _ => Option String
  | getObjectLock _ => Bool
  | getAcl _ => AccessControlPolicy
  | listItems collection _ => List collection.Item
  | listTags _ _ => List Tag
  | deleteBucket _ | putSetting _ _ _ | putDocument _ _ _ | deleteDocument _ _ | putPolicy _ _ _
  | deletePolicy _ | putObjectLock _ _ | putAcl _ _ | putItem _ _ _ | deleteItem _ _ _
  | tag _ _ _ | untag _ _ _ => Unit

/-- The name that a call is logged under. -/
def operation : Call → String
  | createBucket _ => "CreateBucket"
  | deleteBucket _ => "DeleteBucket"
  | listBuckets => "ListBuckets"
  | listDirectoryBuckets => "ListDirectoryBuckets"
  | getSetting setting _ => "Get" ++ setting.resource
  | putSetting setting _ _ => "Put" ++ setting.resource
  | getDocument document _ => "Get" ++ document.resource
  | putDocument document _ _ => "Put" ++ document.resource
  | deleteDocument document _ => "Delete" ++ document.deletedResource
  | getPolicy _ => "GetBucketPolicy"
  | putPolicy _ _ _ => "PutBucketPolicy"
  | deletePolicy _ => "DeleteBucketPolicy"
  | getObjectLock _ => "GetObjectLockConfiguration"
  | putObjectLock _ _ => "PutObjectLockConfiguration"
  | getAcl _ => "GetBucketAcl"
  | putAcl _ _ => "PutBucketAcl"
  | listItems collection _ => "List" ++ collection.resource ++ "s"
  | putItem collection _ _ => "Put" ++ collection.resource
  | deleteItem collection _ _ => "Delete" ++ collection.resource
  | listTags _ _ => "ListTagsForResource"
  | tag _ _ _ => "TagResource"
  | untag _ _ _ => "UntagResource"

/-- The id of the item that a call addresses. -/
def itemId? : Call → Option String
  | putItem collection _ item => some (collection.id item)
  | deleteItem _ _ id => some id
  | _ => none

/-- How a call is listed: its operation, and the id of the item it addresses. -/
def listing (call : Call) : String :=
  match call.itemId? with
  | some id => call.operation ++ ":" ++ id
  | none => call.operation

/-- The call can change what is stored. -/
def mutates : Call → Bool
  | listBuckets | listDirectoryBuckets | getSetting _ _ | getDocument _ _ | getPolicy _
  | getObjectLock _ | getAcl _ | listItems _ _ | listTags _ _ => false
  | createBucket _ | deleteBucket _ | putSetting _ _ _ | putDocument _ _ _ | deleteDocument _ _
  | putPolicy _ _ _ | deletePolicy _ | putObjectLock _ _ | putAcl _ _ | putItem _ _ _
  | deleteItem _ _ _ | tag _ _ _ | untag _ _ _ => true

end Call

/-- The store and the tag service as the steward sees them; every call that has ended is noted. -/
@[reducible] def Storage : Interface where
  Request := Call
  Answer call := Except ApiError call.Reply
  Note := EndedCall

/-- A piece of the steward's work on the store. -/
@[reducible] def Pass (α : Type) : Type := Program Storage Fault α

namespace Pass

/-- The error that a call ended with. -/
def failure? {α : Type} : Except ApiError α → Option ApiError
  | .ok _ => none
  | .error e => some e

/-- Makes a call, notes under the given label how it ended, and goes on with whatever it
answered. -/
def counted (label : CallLabel) (call : Call) : Pass (Except ApiError call.Reply) := do
  let answer ← Program.request (I := Storage) call
  Program.noting (I := Storage) ⟨label, failure? answer⟩
  pure answer

/-- Makes a call that has to succeed. -/
def call (label : CallLabel) (call : Call) : Pass call.Reply := do
  match ← counted label call with
  | .ok reply => pure reply
  | .error e => throw (.api e)

/-- Makes a call; one of the given codes means that there is nothing. -/
def callUnless (codes : List String) (label : CallLabel) (call : Call) :
    Pass (Option call.Reply) := do
  match ← counted label call with
  | .ok reply => pure (some reply)
  | .error e => if e.hasCode codes then pure none else throw (.api e)

/-- Runs a piece of work under the name of the property it syncs. -/
def under {α : Type} (property : String) (work : Pass α) : Pass α :=
  work.mapFault (.property property)

end Pass

end BucketSteward

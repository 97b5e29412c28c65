import BucketSteward.Call
import BucketSteward.Remote.Xml
import BucketSteward.Wire.Part

/-!
The requests that reach the remote services, and what a response to each holds. A request carries
values in their wire form; a listing is asked for page by page.

Not every request is sent. What an address, a header or a date may look like is known to the client
that writes the request down (`Sender`); one that it can not write down it refuses.
-/

namespace BucketSteward

/-- A part of a listing. -/
structure Page (α : Type) where
  items : List α
  /-- The service has not listed everything yet. -/
  isTruncated : Bool
  /-- What the request for the following page has to carry. -/
  next : Option String
  deriving DecidableEq

/-- The same part, with every item changed. -/
def Page.map {α β : Type} (change : α → β) (page : Page α) : Page β where
  items := page.items.map change
  isTruncated := page.isTruncated
  next := page.next

/-- An ACL as a response holds it. -/
structure SentAcl where
  owner : Option Owner := none
  grants : List Wire.Grant := []
  deriving DecidableEq

inductive Request where
  | createBucket (creation : BucketCreation)
  | deleteBucket (bucket : String)
  | listBuckets (token : Option String)
  | listDirectoryBuckets (token : Option String)
  | getSetting (setting : Setting) (bucket : String)
  | putSetting (setting : Setting) (bucket : String) (value : setting.Sent)
  | getDocument (document : Document) (bucket : String)
  | putDocument (document : Document) (bucket : String) (content : document.Sent)
  | deleteDocument (document : Document) (bucket : String)
  | getPolicy (bucket : String)
  | putPolicy (bucket policy : String) (confirm : Option Bool)
  | deletePolicy (bucket : String)
  | getObjectLock (bucket : String)
  /-- Without a state the document is left empty. -/
  | putObjectLock (bucket : String) (state : Option String)
  | getAcl (bucket : String)
  | putAcl (bucket : String) (grants : AclGrants)
  | listItems (collection : Collection) (bucket : String) (token : Option String)
  | putItem (collection : Collection) (bucket : String) (item : collection.Sent)
  | deleteItem (collection : Collection) (bucket id : String)
  | listTags (account arn : String)
  | tag (account arn : String) (tags : List Wire.Tag)
  | untag (account arn : String) (keys : List String)
  deriving DecidableEq

namespace Request

/-- What a successful response holds. -/
@[reducible] def Response : Request → Type
  | createBucket _ => Option String
  | listBuckets _ | listDirectoryBuckets _ => Page (Option String)
  | getSetting setting _ => Option setting.Sent
  | getDocument document _ => Option document.Sent
  | getPolicy _ => Option String
  | getObjectLock _ => Option String
  | getAcl _ => SentAcl
  | listItems collection _ _ => Page collection.Sent
  | listTags _ _ => List Wire.Tag
  | deleteBucket _ | putSetting _ _ _ | putDocument _ _ _ | deleteDocument _ _ | putPolicy _ _ _
  | deletePolicy _ | putObjectLock _ _ | putAcl _ _ | putItem _ _ _ | deleteItem _ _ _
  | tag _ _ _ | untag _ _ _ => Unit

def operation : Request → String
  | createBucket _ => "CreateBucket"
  | deleteBucket _ => "DeleteBucket"
  | listBuckets _ => "ListBuckets"
  | listDirectoryBuckets _ => "ListDirectoryBuckets"
  | getSetting setting _ => "Get" ++ setting.resource
  | putSetting setting _ _ => "Put" ++ setting.resource
  | getDocument document _ => "Get" ++ document.resource
  | putDocument document _ _ => "Put" ++ document.resource
  | deleteDocument document _ => "Delete" ++ document.deletedResource
  | getPolicy _ => "GetBucketPolicy"
  | putPolicy _ _ _ => "PutBucketPolicy"
  | deletePolicy _ => "DeleteBucketPolicy"
  | getObjectLock _ => "GetObjectLockConfiguration"
  | putObjectLock _ _ => "PutObjectLockConfiguration"
  | getAcl _ => "GetBucketAcl"
  | putAcl _ _ => "PutBucketAcl"
  | listItems collection _ _ => "List" ++ collection.resource ++ "s"
  | putItem collection _ _ => "Put" ++ collection.resource
  | deleteItem collection _ _ => "Delete" ++ collection.resource
  | listTags _ _ => "ListTagsForResource"
  | tag _ _ _ => "TagResource"
  | untag _ _ _ => "UntagResource"

/-- The bucket that a request is addressed to. -/
def bucket? : Request → Option String
  | createBucket creation => some creation.bucket
  | listBuckets _ | listDirectoryBuckets _ | listTags _ _ | tag _ _ _ | untag _ _ _ => none
  | deleteBucket bucket | getSetting _ bucket | putSetting _ bucket _ | getDocument _ bucket
  | putDocument _ bucket _ | deleteDocument _ bucket | getPolicy bucket | putPolicy bucket _ _
  | deletePolicy bucket | getObjectLock bucket | putObjectLock bucket _ | getAcl bucket
  | putAcl bucket _ | listItems _ bucket _ | putItem _ bucket _ | deleteItem _ bucket _ =>
      some bucket

/-- The id of the item that a request addresses. -/
def itemId? : Request → Option String
  | putItem collection _ item => some (collection.sentId item)
  | deleteItem _ _ id => some id
  | _ => none

/-- How a request is listed: its operation, and the id of the item it addresses. -/
def listing (request : Request) : String :=
  match request.itemId? with
  | some id => request.operation ++ ":" ++ id
  | none => request.operation

/-! ## Headers and bodies -/

def boolText (value : Bool) : String :=
  if value then "true" else "false"

/-- A header that is left out when there is nothing to say. -/
def header (name : String) : Option String → List (String × String)
  | some value => [(name, value)]
  | none => []

def aclHeaders (grants : AclGrants) : List (String × String) :=
  header "x-amz-acl" grants.acl
    ++ header "x-amz-grant-full-control" grants.grantFullControl
    ++ header "x-amz-grant-read" grants.grantRead
    ++ header "x-amz-grant-read-acp" grants.grantReadAcp
    ++ header "x-amz-grant-write" grants.grantWrite
    ++ header "x-amz-grant-write-acp" grants.grantWriteAcp

/-- The headers that carry a part of what is asked. -/
def headers : Request → List (String × String)
  | createBucket creation =>
      aclHeaders creation.grants
        ++ header "x-amz-bucket-object-lock-enabled" (creation.objectLock.map boolText)
  | putAcl _ grants => aclHeaders grants
  | putPolicy _ _ confirm =>
      header "x-amz-confirm-remove-self-bucket-access" (confirm.map boolText)
  | _ => []

def rootAttributes : List (String × String) :=
  [("xmlns", "http://s3.amazonaws.com/doc/2006-03-01/")]

def creationXml (configuration : CreateBucketConfiguration) : Xml :=
  let location := configuration.location.map fun location =>
    Xml.element "Location" [] (Xml.leaf "Type" location.type ++ Xml.leaf "Name" location.name)
  let bucket := configuration.bucket.map fun bucket =>
    Xml.element "Bucket" []
      (Xml.leaf "DataRedundancy" bucket.dataRedundancy ++ Xml.leaf "Type" bucket.type)
  .element "CreateBucketConfiguration" rootAttributes
    (Xml.leaf "LocationConstraint" configuration.locationConstraint ++ location.toList
      ++ bucket.toList)

def objectLockXml (state : String) : Xml :=
  .element "ObjectLockConfiguration" rootAttributes (Xml.leaf "ObjectLockEnabled" (some state))

/-- The body of a request whose document may be left out altogether. -/
def optionalBody? : Request → Option String
  | createBucket creation =>
      some ((creation.configuration.map fun configuration =>
        (creationXml configuration).print).getD "")
  | putObjectLock _ state => some ((state.map fun state => (objectLockXml state).print).getD "")
  | _ => none

/-- The texts that a response holds in XML. A location is a header, and a policy is a body of its
own. -/
def xmlTexts (request : Request) (response : request.Response) : List String :=
  match request, response with
  | listBuckets _, page | listDirectoryBuckets _, page => page.items.filterMap id
  | getSetting setting _, answer =>
      answer.toList.flatMap fun sent => (write (setting.decode sent)).texts
  | getDocument document _, answer =>
      answer.toList.flatMap fun sent => (write (document.decode sent)).texts
  | getObjectLock _, state => state.toList
  | getAcl _, acl =>
      (write (acl.owner.getD {})).texts
        ++ acl.grants.flatMap fun grant => (write grant.decode).texts
  | listItems collection _ _, page =>
      page.items.flatMap fun item => (write (collection.decode item)).texts
  | listTags _ _, tags => tags.flatMap fun tag => [tag.key, tag.value]
  | _, _ => []

end Request

/-- A request that got no answer to work with: the service's code, if there is one. -/
structure Refusal where
  code : Option String
  message : String
  deriving DecidableEq, Repr

/-- The remote services as requests reach them. -/
@[reducible] def Remote : Interface where
  Request := Request
  Answer request := Except Refusal request.Response
  Note := Empty

/-- Who writes requests down and sends them. Which of them are refused before they are sent depends on
how the client is set up, so it is left open. -/
structure Sender where
  refusal? : Request → Option Refusal

/-- Codes are words of the services: a request that is not sent is refused without one. -/
def Sender.IsCodeless (sender : Sender) : Prop :=
  ∀ request refusal, sender.refusal? request = some refusal → refusal.code = none

end BucketSteward

import BucketSteward.Directory
import BucketSteward.Remote.Request

/-!
Remote services kept in memory. They keep what a request puts and respond with it, completed where
every answer has more than a request needs; a document that was never put is refused with the code of the real service. Listings are in the order of the names
and come in pages; every request is logged, also one that is refused.

A service can be told to refuse an operation, with a code or without an answer at all, and to
respond to one without a body. It keeps any text that it is sent, but a response with a character
that XML does not have can not be read.
-/

namespace BucketSteward

/-- What is kept for a bucket, in its wire form. -/
structure HostedBucket where
  settings : (setting : Setting) → Option setting.Sent := fun _ => none
  documents : (document : Document) → Option document.Sent := fun _ => none
  items : (collection : Collection) → Keyed collection.Sent := fun _ => {}
  policy : Option String := none
  /-- The object lock document, and the state in it. -/
  objectLock : Option (Option String) := none

namespace HostedBucket

def withSetting (bucket : HostedBucket) (setting : Setting) (value : setting.Sent) :
    HostedBucket :=
  { bucket with
    settings := fun other => if h : setting = other then some (h ▸ value) else bucket.settings other }

def withDocument (bucket : HostedBucket) (document : Document) (content : Option document.Sent) :
    HostedBucket :=
  { bucket with
    documents := fun other => if h : document = other then h ▸ content else bucket.documents other }

def withItems (bucket : HostedBucket) (collection : Collection) (items : Keyed collection.Sent) :
    HostedBucket :=
  { bucket with
    items := fun other => if h : collection = other then h ▸ items else bucket.items other }

end HostedBucket

/-- How a listing tells that it goes on. -/
inductive Paging where
  | complete
  /-- It names the next page without saying that it is truncated. -/
  | withoutFlag
  /-- It says that it is truncated without naming the next page. -/
  | withoutToken
  deriving DecidableEq, Repr

structure Server where
  buckets : Keyed HostedBucket := {}
  acls : Keyed SentAcl := {}
  /-- Tags by the resource name they belong to. -/
  tags : Keyed (List Wire.Tag) := {}
  /-- Operations that are refused, each with its code; without one the connection breaks. -/
  failures : Keyed (Option String) := {}
  /-- Operations that are answered without a body. -/
  silent : List String := []
  pageSize : Nat := 1000
  paging : Paging := .complete
  /-- Every request that arrived, in order. -/
  requests : List Request := []

namespace Server

/-- Makes every later request of an operation fail. -/
def fail (server : Server) (operation : String) (code : Option String) : Server :=
  { server with failures := server.failures.insert operation code }

/-- Makes every later request of an operation be answered without a body. -/
def silence (server : Server) (operation : String) : Server :=
  { server with silent := operation :: server.silent }

def setAcl (server : Server) (bucket : String) (acl : SentAcl) : Server :=
  { server with acls := server.acls.insert bucket acl }

def setBucket (server : Server) (name : String) (bucket : HostedBucket) : Server :=
  { server with buckets := server.buckets.insert name bucket }

def refusal (code : String) : Refusal :=
  ⟨some code, "refused"⟩

/-- A response that lacks the body it should have. -/
def unreadable : Refusal :=
  ⟨none, "failed to read the response"⟩

/-- The page of a listing that begins with the entry a token names. -/
def page {α : Type} (server : Server) (token : Option String) (entries : List (String × α)) :
    Page (String × α) :=
  let rest : List (String × α) := match token with
    | some token => entries.dropWhile fun e => e.1 < token
    | none => entries
  let later := rest.drop server.pageSize
  { items := rest.take server.pageSize
    isTruncated := server.paging != .withoutFlag && !later.isEmpty
    next := if server.paging = .withoutToken then none else later.head?.map (·.1) }

/-- The buckets of a kind. -/
def bucketPage (server : Server) (token : Option String) (isListed : String → Bool) :
    Page (Option String) :=
  (server.page token (server.buckets.entries.filter fun e => isListed e.1)).map fun e => some e.1

def itemPage {α : Type} (server : Server) (token : Option String) (items : Keyed α) : Page α :=
  (server.page token items.entries).map (·.2)

/-- Reads from a bucket that has to be there. -/
def reading {α : Type} (server : Server) (bucket : String)
    (read : HostedBucket → Except Refusal α) : Except Refusal α × Server :=
  match server.buckets.get? bucket with
  | some hosted => (read hosted, server)
  | none => (.error (refusal "NoSuchBucket"), server)

/-- Writes to a bucket that has to be there. -/
def writing (server : Server) (bucket : String) (write : HostedBucket → HostedBucket) :
    Except Refusal Unit × Server :=
  match server.buckets.get? bucket with
  | some hosted => (.ok (), server.setBucket bucket (write hosted))
  | none => (.error (refusal "NoSuchBucket"), server)

/-- Something that was put. -/
def configured {α : Type} (code : String) : Option α → Except Refusal α
  | some value => .ok value
  | none => .error (refusal code)

/-- A text that was put; an empty one leaves no body to respond with. -/
def bodyText (text : String) : Option String :=
  if text = "" then none else some text

/-- A setting that was never put says nothing, except that somebody always pays. -/
def settingAnswer (hosted : HostedBucket) : (setting : Setting) → Option setting.Sent
  | .requestPayment => (hosted.settings .requestPayment).orElse fun _ => some ⟨"BucketOwner"⟩
  | setting => hosted.settings setting

/-- The tags after one more was set: a tag with the same key goes, and the new one is the last. -/
def setTag (tags : List Wire.Tag) (tag : Wire.Tag) : List Wire.Tag :=
  tags.filter (fun t => t.key != tag.key) ++ [tag]

/-- What a request does when it is not made to fail. -/
def perform (server : Server) (request : Request) :
    Except Refusal request.Response × Server :=
  match request with
  | .createBucket creation =>
      if server.buckets.contains creation.bucket then
        (.error (refusal "BucketAlreadyOwnedByYou"), server)
      else (.ok (some ("/" ++ creation.bucket)), server.setBucket creation.bucket {})
  | .deleteBucket bucket =>
      if server.buckets.contains bucket then
        (.ok (), { server with
          buckets := server.buckets.erase bucket
          acls := server.acls.erase bucket })
      else (.error (refusal "NoSuchBucket"), server)
  | .listBuckets token => (.ok (server.bucketPage token (!isDirectoryName ·)), server)
  | .listDirectoryBuckets token => (.ok (server.bucketPage token isDirectoryName), server)
  | .getSetting setting bucket =>
      server.reading bucket fun hosted => .ok (settingAnswer hosted setting)
  | .putSetting setting bucket value => server.writing bucket (·.withSetting setting value)
  | .getDocument document bucket =>
      server.reading bucket fun hosted =>
        (configured document.absentCode (hosted.documents document)).map
          fun sent => some (document.completed sent)
  | .putDocument document bucket content =>
      server.writing bucket (·.withDocument document (some content))
  | .deleteDocument document bucket => server.writing bucket (·.withDocument document none)
  | .getPolicy bucket =>
      server.reading bucket fun hosted =>
        (configured policyAbsentCode hosted.policy).map bodyText
  | .putPolicy bucket policy _ =>
      server.writing bucket fun hosted => { hosted with policy := some policy }
  | .deletePolicy bucket => server.writing bucket fun hosted => { hosted with policy := none }
  | .getObjectLock bucket =>
      server.reading bucket fun hosted => configured objectLockAbsentCode hosted.objectLock
  | .putObjectLock bucket state =>
      server.writing bucket fun hosted => { hosted with objectLock := some state }
  | .getAcl bucket =>
      server.reading bucket fun _ => .ok ((server.acls.get? bucket).getD {})
  | .putAcl bucket _ => server.writing bucket id
  | .listItems collection bucket token =>
      server.reading bucket fun hosted =>
        .ok ((server.itemPage token (hosted.items collection)).map collection.completed)
  | .putItem collection bucket item =>
      server.writing bucket fun hosted =>
        hosted.withItems collection
          ((hosted.items collection).insert (collection.sentId item) item)
  | .deleteItem collection bucket id =>
      server.writing bucket fun hosted =>
        hosted.withItems collection ((hosted.items collection).erase id)
  | .listTags _ arn => (.ok ((server.tags.get? arn).getD []), server)
  | .tag _ arn tags =>
      let current := (server.tags.get? arn).getD []
      (.ok (), { server with tags := server.tags.insert arn (tags.foldl setTag current) })
  | .untag _ arn keys =>
      let current := (server.tags.get? arn).getD []
      let left := current.filter fun t => !keys.contains t.key
      (.ok (), { server with tags := server.tags.insert arn left })

/-- The document is the whole body of its response. -/
def isWholeBody : Document → Bool
  | .encryption | .ownershipControls | .publicAccessBlock | .replication => true
  | _ => false

/-- A response without a body. It can be read where nothing is expected, or where what is expected
would be the whole body. -/
def silentAnswer (request : Request) : Except Refusal request.Response :=
  match request with
  | .createBucket _ | .getPolicy _ | .getObjectLock _ => .ok none
  | .getDocument document _ => if isWholeBody document then .ok none else .error unreadable
  | .listBuckets _ | .listDirectoryBuckets _ | .getSetting _ _ | .getAcl _ | .listItems _ _ _
  | .listTags _ _ => .error unreadable
  | .deleteBucket _ | .putSetting _ _ _ | .putDocument _ _ _ | .deleteDocument _ _
  | .putPolicy _ _ _ | .deletePolicy _ | .putObjectLock _ _ | .putAcl _ _ | .putItem _ _ _
  | .deleteItem _ _ _ | .tag _ _ _ | .untag _ _ _ => .ok ()

/-- An answer as it can be read: a document with a character that XML does not have can not, be it
what was asked for or the code of a refusal. -/
def received (request : Request) :
    Except Refusal request.Response → Except Refusal request.Response
  | .ok response =>
      if (request.xmlTexts response).all Xml.isText then .ok response else .error unreadable
  | .error refusal => .error { refusal with code := refusal.code.filter Xml.isText }

/-- What a request comes to: it is refused, answered without a body, or carried out. -/
def respond (server : Server) (request : Request) : Except Refusal request.Response × Server :=
  match server.failures.get? request.operation with
  | some code => (.error ⟨code, "refused"⟩, server)
  | none =>
      if server.silent.contains request.operation then (silentAnswer request, server)
      else server.perform request

/-- Answers a request, which is logged first. -/
def serve : Service Remote Server := fun request server =>
  let (answer, server) :=
    ({ server with requests := server.requests ++ [request] } : Server).respond request
  (received request answer, server)

end Server

end BucketSteward

import BucketSteward.Remote.Request

/-!
Calls carried out by requests. A call becomes one request, except that a listing is read page by
page. Two things are refused before anything is sent: a value that has no wire form, with the code
of a rejected request, and a request that the sender can not write down, as the sender refuses it.

A listing of buckets goes on for as long as a page names a next one; a listing of items also has to
be truncated. A page that fails ends the listing, and nothing of it is answered.
-/

namespace BucketSteward

namespace Client

/-- The work of a call on the remote services. -/
@[reducible] def Work (α : Type) : Type := Program Remote ApiError α

/-- The code of a value that has no wire form: the service would reject it. -/
def invalidRequest : String := "InvalidRequest"

/-- The fault of a request that is refused, before it is sent or by the service. -/
def fault (request : Request) (refusal : Refusal) : ApiError :=
  ⟨request.operation, refusal.code, refusal.message⟩

/-- What one request comes to: it is refused unsent, or it is sent and answered. -/
def dispatch (sender : Sender) (request : Request) : Work (Except Refusal request.Response) :=
  match sender.refusal? request with
  | some refusal => pure (.error refusal)
  | none => Program.request (I := Remote) request

/-- Makes one request, which has to succeed. -/
def send (sender : Sender) (request : Request) : Work request.Response := do
  match ← dispatch sender request with
  | .ok response => pure response
  | .error refusal => throw (fault request refusal)

/-- A value in its wire form. -/
def encoded {α : Type} (operation : String) : Wire.Encoded α → Work α
  | .ok value => pure value
  | .error missing => throw ⟨operation, some invalidRequest, missing.message⟩

/-- Reads the pages from a token on, until one is the last. `limit` bounds how many are read. -/
def readPages {α : Type} (operation : String) (fetch : Option String → Work (Page α))
    (isLast : Page α → Bool) : Nat → Option String → Work (List α)
  | 0, _ => throw ⟨operation, none, "too many pages"⟩
  | limit + 1, token => do
      let page ← fetch token
      if isLast page then pure page.items
      else do
        let rest ← readPages operation fetch isLast limit page.next
        pure (page.items ++ rest)

/-- The last page of a listing of buckets names no next one. -/
def endsBuckets (page : Page (Option String)) : Bool :=
  page.next.isNone

/-- The last page of a listing of items is not truncated, or names no next one. -/
def endsItems {α : Type} (page : Page α) : Bool :=
  !page.isTruncated || page.next.isNone

/-- Carries out a call; a listing reads at most `limit` pages. -/
def perform (sender : Sender) (limit : Nat) : (call : Call) → Work call.Reply
  | .createBucket creation => send sender (.createBucket creation)
  | .deleteBucket bucket => send sender (.deleteBucket bucket)
  | .listBuckets => do
      let names ← readPages "ListBuckets" (fun token => send sender (.listBuckets token)) endsBuckets
        limit none
      pure (names.filterMap id)
  | .listDirectoryBuckets => do
      let names ← readPages "ListDirectoryBuckets"
        (fun token => send sender (.listDirectoryBuckets token)) endsBuckets limit none
      pure (names.filterMap id)
  | .getSetting setting bucket => do
      let answer ← send sender (.getSetting setting bucket)
      pure (setting.ofAnswer answer)
  | .putSetting setting bucket value => do
      let value ← encoded (Call.operation (.putSetting setting bucket value))
        (setting.encode value)
      send sender (.putSetting setting bucket value)
  | .getDocument document bucket => do
      let answer ← send sender (.getDocument document bucket)
      pure (document.ofAnswer answer)
  | .putDocument document bucket content => do
      let content ← encoded (Call.operation (.putDocument document bucket content))
        (document.encode content)
      send sender (.putDocument document bucket content)
  | .deleteDocument document bucket => send sender (.deleteDocument document bucket)
  | .getPolicy bucket => send sender (.getPolicy bucket)
  | .putPolicy bucket policy confirm => send sender (.putPolicy bucket policy confirm)
  | .deletePolicy bucket => send sender (.deletePolicy bucket)
  | .getObjectLock bucket => do
      let state ← send sender (.getObjectLock bucket)
      pure (state == some "Enabled")
  | .putObjectLock bucket enabled =>
      send sender (.putObjectLock bucket (if enabled then some "Enabled" else none))
  | .getAcl bucket => do
      let answer ← send sender (.getAcl bucket)
      pure { owner := answer.owner, grants := answer.grants.map Wire.Grant.decode }
  | .putAcl bucket grants => send sender (.putAcl bucket grants)
  | .listItems collection bucket => do
      let items ← readPages (Call.operation (.listItems collection bucket))
        (fun token => send sender (.listItems collection bucket token)) endsItems limit none
      pure (items.map collection.decode)
  | .putItem collection bucket item => do
      let item ← encoded (Call.operation (.putItem collection bucket item))
        (collection.encode item)
      send sender (.putItem collection bucket item)
  | .deleteItem collection bucket id => send sender (.deleteItem collection bucket id)
  | .listTags account arn => do
      let tags ← send sender (.listTags account arn)
      pure (tags.map Wire.Tag.decode)
  | .tag account arn tags => do
      let tags ← encoded "TagResource" (Wire.encodeList Wire.Tag.encode tags)
      send sender (.tag account arn tags)
  | .untag account arn keys => send sender (.untag account arn keys)

/-- The store and the tag service, reached through the remote services. -/
def serve {σ : Type} (sender : Sender) (limit : Nat) (remote : Service Remote σ) :
    Service Storage σ :=
  fun call state => (perform sender limit call).run remote state

end Client

end BucketSteward

import BucketSteward.Proofs.Sending
import BucketSteward.Remote.Server
import Mathlib.Data.List.Basic

/-! Listings that are read page by page. The pages that a service gives form a chain: every request
after the first carries the token of the page before it, and the chain ends with a last page or is
broken off by a refusal, of the service or of the sender (`Listing.Reads`). A call answers the entries
of the whole chain, or nothing of it. A service that splits a fixed listing gives a chain whose pages
make up that listing, however large they are (`Listing.Splits`); the server that is kept in memory is
such a service. -/
namespace BucketSteward

open Client (Work)

theorem Page.map_map {α β γ : Type} (g : β → γ) (f : α → β) (page : Page α) :
    (page.map f).map g = page.map fun entry => g (f entry) := by
  simp [Page.map]

/-- What is listed in pages. -/
inductive Listing where
  | buckets
  | directoryBuckets
  | items (collection : Collection) (bucket : String)

namespace Listing

/-- An entry of a page; a bucket can lack its name. -/
@[reducible] def Sent : Listing → Type
  | buckets | directoryBuckets => Option String
  | items collection _ => collection.Sent

@[reducible] def call : Listing → Call
  | buckets => .listBuckets
  | directoryBuckets => .listDirectoryBuckets
  | items collection bucket => .listItems collection bucket

/-- The request for the page that a token names. -/
def request : Listing → Option String → Request
  | buckets, token => .listBuckets token
  | directoryBuckets, token => .listDirectoryBuckets token
  | items collection bucket, token => .listItems collection bucket token

/-- A page of buckets is the last when it has no token; one of items also when it is not truncated. -/
def IsLast : (listing : Listing) → Page listing.Sent → Prop
  | buckets, page | directoryBuckets, page => page.next = none
  | items _ _, page => page.isTruncated = false ∨ page.next = none

/-- What is made of the entries of all pages: the names that there are, or the decoded items. -/
def reply : (listing : Listing) → List listing.Sent → listing.call.Reply
  | buckets, entries | directoryBuckets, entries => entries.filterMap id
  | items collection _, entries => entries.map collection.decode

/-- How a chain of pages ends. -/
inductive Ending where
  | last
  /-- The service refuses the request for a page. -/
  | refused (refusal : Refusal)
  /-- The sender refuses it, so it is not asked. -/
  | unsent (refusal : Refusal)

section Services
variable {σ : Type}

/-- What a service answers to the request for a page. -/
def answer (serve : Service Remote σ) :
    (listing : Listing) → Option String → σ → Except Refusal (Page listing.Sent) × σ
  | buckets, token, state => serve (.listBuckets token) state
  | directoryBuckets, token, state => serve (.listDirectoryBuckets token) state
  | items collection bucket, token, state => serve (.listItems collection bucket token) state

/-- The pages that a service gives from a token on, up to the last or to a refusal. -/
inductive Reads (listing : Listing) (sender : Sender) (serve : Service Remote σ) :
    Option String → σ → List (Page listing.Sent) → Ending → σ → Prop where
  | last {token : Option String} {state after : σ} {page : Page listing.Sent}
      (accepted : sender.refusal? (listing.request token) = none)
      (answered : listing.answer serve token state = (.ok page, after))
      (ends : listing.IsLast page) : Reads listing sender serve token state [page] .last after
  | refused {token : Option String} {state after : σ} {refusal : Refusal}
      (accepted : sender.refusal? (listing.request token) = none)
      (answered : listing.answer serve token state = (.error refusal, after)) :
      Reads listing sender serve token state [] (.refused refusal) after
  | unsent {token : Option String} {state : σ} {refusal : Refusal}
      (unsent : sender.refusal? (listing.request token) = some refusal) :
      Reads listing sender serve token state [] (.unsent refusal) state
  | more {token : Option String} {state middle after : σ} {page : Page listing.Sent}
      {pages : List (Page listing.Sent)} {ending : Ending}
      (accepted : sender.refusal? (listing.request token) = none)
      (answered : listing.answer serve token state = (.ok page, middle))
      (goesOn : ¬ listing.IsLast page)
      (rest : Reads listing sender serve page.next middle pages ending after) :
      Reads listing sender serve token state (page :: pages) ending after

/-- A service gives a listing in pages. `left` says which entries are left from a token on; a page has
all of them and is the last, or it has the first of them, at least one, and a token for the others. -/
def Splits (listing : Listing) (serve : Service Remote σ)
    (left : Option String → σ → List listing.Sent → Prop) : Prop :=
  ∀ token state rest, left token state rest →
    ∃ page after, listing.answer serve token state = (.ok page, after) ∧
      ((listing.IsLast page ∧ page.items = rest) ∨
        ¬ listing.IsLast page ∧ page.items ≠ [] ∧
          ∃ others, page.items ++ others = rest ∧ left page.next after others)

/-! ## One page -/

/-- The work of reading one page. -/
def fetch (sender : Sender) : (listing : Listing) → Option String → Work (Page listing.Sent)
  | buckets, token => Client.send sender (.listBuckets token)
  | directoryBuckets, token => Client.send sender (.listDirectoryBuckets token)
  | items collection bucket, token => Client.send sender (.listItems collection bucket token)

/-- The test that ends a loop over the pages. -/
def ends : (listing : Listing) → Page listing.Sent → Bool
  | buckets, page | directoryBuckets, page => Client.endsBuckets page
  | items _ _, page => Client.endsItems page

theorem ends_iff {listing : Listing} {page : Page listing.Sent} :
    listing.ends page = true ↔ listing.IsLast page := by
  cases listing <;> simp [ends, IsLast, Client.endsBuckets, Client.endsItems]

/-- The fault of a call whose request for a page is refused. -/
def fault (listing : Listing) (refusal : Refusal) : ApiError :=
  ⟨listing.call.operation, refusal.code, refusal.message⟩

variable {sender : Sender} {serve : Service Remote σ} {listing : Listing} {token : Option String}
  {state middle after : σ} {page : Page listing.Sent} {pages : List (Page listing.Sent)}
  {refusal : Refusal}

theorem fetch_succeeds (accepted : sender.refusal? (listing.request token) = none)
    (answered : listing.answer serve token state = (.ok page, after)) :
    (listing.fetch sender token).Succeeds serve state [listing.request token] page after := by
  cases listing <;> exact Client.send_succeeds accepted answered

theorem fetch_fails (accepted : sender.refusal? (listing.request token) = none)
    (answered : listing.answer serve token state = (.error refusal, after)) :
    (listing.fetch sender token).Fails serve state [listing.request token] (listing.fault refusal)
      after := by
  cases listing <;> exact Client.send_fails accepted answered

theorem fetch_fails_unsent (unsent : sender.refusal? (listing.request token) = some refusal)
    (serve : Service Remote σ) (state : σ) :
    (listing.fetch sender token).Fails serve state [] (listing.fault refusal) state := by
  cases listing <;> exact Client.send_fails_unsent unsent serve state

/-! ## All pages -/

/-- The entries of the pages from a token on. -/
def entries (sender : Sender) (listing : Listing) (limit : Nat) (token : Option String) :
    Work (List listing.Sent) :=
  Client.readPages listing.call.operation (listing.fetch sender) listing.ends limit token

theorem perform_call (sender : Sender) (listing : Listing) (limit : Nat) :
    Client.perform sender limit listing.call
      = listing.reply <$> listing.entries sender limit none := by
  cases listing <;> rfl

/-- What follows a page: nothing after the last, or else the pages from its token on. -/
theorem entries_succ (limit : Nat) (token : Option String) :
    listing.entries sender (limit + 1) token = (listing.fetch sender token).bind fun page =>
      if listing.ends page then .done (.ok page.items)
      else (page.items ++ ·) <$> listing.entries sender limit page.next := rfl

theorem entries_last (accepted : sender.refusal? (listing.request token) = none)
    (answered : listing.answer serve token state = (.ok page, after)) (last : listing.IsLast page)
    (limit : Nat) :
    (listing.entries sender (limit + 1) token).Succeeds serve state [listing.request token]
      page.items after := by
  rw [entries_succ]
  refine (fetch_succeeds accepted answered).bind ?_
  rw [if_pos (ends_iff.mpr last)]
  exact .done page.items after

/-- After a page that is not the last, what comes from its token on decides. -/
theorem entries_more (accepted : sender.refusal? (listing.request token) = none)
    (answered : listing.answer serve token state = (.ok page, middle))
    (goesOn : ¬ listing.IsLast page) {limit : Nat} {asked : List Request} :
    (∀ rest, (listing.entries sender limit page.next).Succeeds serve middle asked rest after →
      (listing.entries sender (limit + 1) token).Succeeds serve state
        (listing.request token :: asked) (page.items ++ rest) after) ∧
    ∀ e, (listing.entries sender limit page.next).Fails serve middle asked e after →
      (listing.entries sender (limit + 1) token).Fails serve state
        (listing.request token :: asked) e after := by
  have now := fetch_succeeds accepted answered
  have unfinished := mt ends_iff.mp goesOn
  rw [entries_succ]
  constructor <;> intro _ later
  · refine now.bind ?_
    rw [if_neg unfinished]
    exact later.map _
  · refine now.bind_fails ?_
    rw [if_neg unfinished]
    exact later.map _

theorem Reads.ne_nil (reads : listing.Reads sender serve token state pages .last after) :
    pages ≠ [] := by
  cases reads <;> simp

/-- A chain of pages is read to its last page. Every page is asked for once, by the token of the page
before it. -/
theorem Reads.succeeds (reads : listing.Reads sender serve token state pages .last after)
    {limit : Nat} (enough : pages.length ≤ limit) :
    (listing.entries sender limit token).Succeeds serve state
      ((token :: pages.dropLast.map (·.next)).map listing.request)
      (pages.flatMap (·.items)) after := by
  -- Along the chain, every page read takes one from the limit.
  induction pages generalizing token state limit with
  | nil => exact absurd rfl reads.ne_nil
  | cons page pages ih =>
    obtain ⟨limit, rfl⟩ := Nat.exists_eq_add_of_le' (Nat.le_of_add_left_le enough)
    cases reads with
    | last accepted answered last =>
      simpa using entries_last accepted answered last limit
    | more accepted answered goesOn rest =>
      have later := ih rest (Nat.le_of_succ_le_succ enough)
      rw [List.dropLast_cons_of_ne_nil rest.ne_nil]
      exact (entries_more accepted answered goesOn).1 _ later

/-- The refusal that breaks a chain off. -/
def Ending.refusal? : Ending → Option Refusal
  | last => none
  | refused refusal | unsent refusal => some refusal

/-- Of the tokens that a broken chain comes to, those that are asked for: not the last one, if the
sender refuses its request. -/
def Ending.asked : Ending → List (Option String) → List (Option String)
  | unsent _, tokens => tokens.dropLast
  | last, tokens | refused _, tokens => tokens

/-- A chain that is broken off by a refusal fails with it. -/
theorem Reads.fails {ending : Ending}
    (reads : listing.Reads sender serve token state pages ending after)
    (broken : ending.refusal? = some refusal) {limit : Nat} (enough : pages.length < limit) :
    (listing.entries sender limit token).Fails serve state
      ((ending.asked (token :: pages.map (·.next))).map listing.request) (listing.fault refusal)
      after := by
  induction reads generalizing limit with
  | last => cases broken
  | refused accepted answered =>
    obtain ⟨limit, rfl⟩ := Nat.exists_eq_add_of_le' enough
    cases broken
    exact (fetch_fails accepted answered).bind _
  | unsent unsent =>
    obtain ⟨limit, rfl⟩ := Nat.exists_eq_add_of_le' enough
    cases broken
    exact (fetch_fails_unsent unsent serve _).bind _
  | @more token _ _ _ page pages ending accepted answered goesOn _ ih =>
    obtain ⟨limit, rfl⟩ := Nat.exists_eq_add_of_le' (Nat.zero_lt_of_lt enough)
    have later := ih broken (Nat.lt_of_succ_lt_succ enough)
    have first : ending.asked (token :: page.next :: pages.map (·.next))
        = token :: ending.asked (page.next :: pages.map (·.next)) := by
      cases ending <;> rfl
    rw [List.map_cons, first]
    exact (entries_more accepted answered goesOn).2 _ later

section Splitting
variable {left : Option String → σ → List listing.Sent → Prop} {rest : List listing.Sent}
  (accepted : ∀ token, sender.refusal? (listing.request token) = none)
  (splits : listing.Splits serve left)
include accepted splits

/-- A service that splits a listing gives a chain whose pages make up the listing. -/
theorem Splits.reads (start : left token state rest) :
    ∃ pages after, listing.Reads sender serve token state pages .last after ∧
      pages.flatMap (·.items) = rest ∧ pages.length ≤ rest.length + 1 := by
  -- A page that is not the last takes entries away, so fewer are left after it.
  induction hlen : rest.length using Nat.strongRecOn generalizing token state rest with
  | ind length ih =>
    obtain ⟨page, after, answered, ⟨last, rfl⟩ | ⟨goesOn, nonempty, others, rfl, next⟩⟩ :=
      splits token state rest start
    · exact ⟨[page], after, .last (accepted token) answered last, by simp, by simp⟩
    · have some_first := List.length_pos_iff.mpr nonempty
      rw [List.length_append] at hlen
      obtain ⟨pages, final, reads, whole, count⟩ := ih others.length (by omega) next rfl
      refine ⟨page :: pages, final, .more (accepted token) answered goesOn reads, by simp [whole], ?_⟩
      rw [List.length_cons]
      omega

/-- A call answers a listing that is split whole. -/
theorem Splits.succeeds (start : left none state rest) {limit : Nat} (enough : rest.length < limit) :
    ∃ asked after, (Client.perform sender limit listing.call).Succeeds serve state asked
      (listing.reply rest) after := by
  obtain ⟨pages, after, reads, rfl, count⟩ := splits.reads accepted start
  rw [perform_call]
  exact ⟨_, after, (reads.succeeds (by omega)).map _⟩

end Splitting

end Services
end Listing

/-! ## The server in memory -/

namespace Server

/-- The entries of a listing, each under the name that a token can give. -/
def listed (server : Server) : (listing : Listing) → List (String × listing.Sent)
  | .buckets => (server.buckets.entries.filter fun e => !isDirectoryName e.1).map
      fun e => (e.1, some e.1)
  | .directoryBuckets => (server.buckets.entries.filter fun e => isDirectoryName e.1).map
      fun e => (e.1, some e.1)
  | .items collection bucket =>
      ((server.buckets.get? bucket).elim [] fun hosted => (hosted.items collection).entries).map
        fun e => (e.1, collection.completed e.2)

/-- The texts of an entry that a response holds in XML. -/
def texts : (listing : Listing) → listing.Sent → List String
  | .buckets, name | .directoryBuckets, name => name.toList
  | .items collection _, item => (write (collection.decode item)).texts

/-- The requests of a listing are carried out, and every response can be read. -/
structure CarriesOut (server : Server) (listing : Listing) : Prop where
  complete : server.paging = .complete
  nonempty : 0 < server.pageSize
  accepted : server.failures.get? listing.call.operation = none
  spoken : server.silent.contains listing.call.operation = false
  present : ∀ collection bucket, listing = .items collection bucket →
    server.buckets.contains bucket = true
  readable : ∀ e ∈ server.listed listing, (texts listing e.2).all Xml.isText = true

theorem listed_sorted (server : Server) (listing : Listing) :
    (server.listed listing).Pairwise fun a b => a.1 < b.1 := by
  cases listing with
  | buckets => exact List.pairwise_map.mpr (server.buckets.sorted.filter _)
  | directoryBuckets => exact List.pairwise_map.mpr (server.buckets.sorted.filter _)
  | items collection bucket =>
    refine List.pairwise_map.mpr ?_
    cases server.buckets.get? bucket with
    | none => exact .nil
    | some hosted => exact (hosted.items collection).sorted

/-- A page is cut out of the entries alike before and after they are changed. -/
theorem page_map {α β : Type} (server : Server) (token : Option String)
    (entries : List (String × α)) (change : String × α → β) :
    server.page token (entries.map fun e => (e.1, change e))
      = (server.page token entries).map fun e => (e.1, change e) := by
  cases token <;>
    simp [page, Page.map, List.dropWhile_map, Function.comp_def, ← List.map_drop, ← List.map_take]

/-- A token names the first of the entries that are left; none leaves all. -/
def Marks {α : Type} (token : Option String) (entries left : List (String × α)) : Prop :=
  (token = none ∧ left = entries) ∨
    ∃ done first others, token = some first.1 ∧ left = first :: others ∧ entries = done ++ left

/-- What a token marks is where its page begins. -/
theorem page_of_marks {α : Type} {server : Server} {token : Option String}
    {entries left : List (String × α)} (complete : server.paging = .complete)
    (sorted : entries.Pairwise fun a b => a.1 < b.1) (marks : Marks token entries left) :
    server.page token entries =
      { items := left.take server.pageSize
        isTruncated := !(left.drop server.pageSize).isEmpty
        next := (left.drop server.pageSize).head?.map (·.1) } := by
  rcases marks with ⟨rfl, rfl⟩ | ⟨done, first, others, rfl, rfl, rfl⟩
  · simp [page, complete]
  · have before : ∀ e ∈ done, e.1 < first.1 := fun e among =>
      (List.pairwise_append.mp sorted).2.2 e among first List.mem_cons_self
    have start : (done ++ first :: others).dropWhile (fun e => decide (e.1 < first.1))
        = first :: others := by
      rw [List.dropWhile_append_of_pos fun e among => decide_eq_true (before e among),
        List.dropWhile_cons_of_neg (by simp)]
    simp only [page, complete, start]
    rfl

/-- Nothing but the log tells two servers apart. -/
def logging (server : Server) (requests : List Request) : Server :=
  { server with requests }

/-- The page that a request is answered with. -/
def given (server : Server) (listing : Listing) (token : Option String) : Page listing.Sent :=
  (server.page token (server.listed listing)).map (·.2)

theorem mem_of_mem_page {α : Type} {server : Server} {token : Option String}
    {entries : List (String × α)} {e : String × α}
    (among : e ∈ (server.page token entries).items) : e ∈ entries := by
  cases token with
  | none => exact List.mem_of_mem_take among
  | some token => exact List.dropWhile_subset _ (List.mem_of_mem_take among)

theorem readable_given {server : Server} {listing : Listing} (carried : server.CarriesOut listing)
    (token : Option String) :
    ((server.given listing token).items.flatMap (texts listing)).all Xml.isText = true := by
  simp only [given, Page.map, List.flatMap_map, List.all_flatMap, List.all_eq_true]
  exact fun e among => List.all_eq_true.mp (carried.readable e (mem_of_mem_page among))

theorem serve_accepted {server : Server} {request : Request}
    (accepted : server.failures.get? request.operation = none)
    (spoken : server.silent.contains request.operation = false) :
    serve request server
      = (received request ((server.logging (server.requests ++ [request])).perform request).1,
          ((server.logging (server.requests ++ [request])).perform request).2) := by
  simp only [serve, respond, accepted, spoken, Bool.false_eq_true, ↓reduceIte]
  rfl

/-- The page of a listing, read off what is kept. -/
theorem given_eq (server : Server) (token : Option String) :
    server.given .buckets token = server.bucketPage token (!isDirectoryName ·) ∧
      server.given .directoryBuckets token = server.bucketPage token isDirectoryName := by
  constructor <;> rw [given, listed, page_map, Page.map_map] <;> rfl

theorem received_ok {request : Request} {response : request.Response}
    (readable : (request.xmlTexts response).all Xml.isText = true) :
    received request (.ok response) = .ok response :=
  if_pos readable

theorem readable_names {names : List (Option String)}
    (readable : (names.flatMap (·.toList)).all Xml.isText = true) :
    (names.filterMap id).all Xml.isText = true := by
  rw [List.filterMap_eq_flatMap_toList]
  exact readable

/-- A request for a page changes nothing but the log. -/
theorem answer_given {server : Server} {listing : Listing} (carried : server.CarriesOut listing)
    (token : Option String) (requests : List Request) :
    listing.answer serve token (server.logging requests)
      = (.ok (server.given listing token),
          server.logging (requests ++ [listing.request token])) := by
  have readable := readable_given carried token
  have served : serve (listing.request token) (server.logging requests) = _ :=
    serve_accepted (by cases listing <;> exact carried.accepted)
      (by cases listing <;> exact carried.spoken)
  cases listing with
  | buckets =>
    refine served.trans ?_
    rw [(server.given_eq token).1] at readable ⊢
    exact congrArg (·, _) (received_ok (readable_names readable))
  | directoryBuckets =>
    refine served.trans ?_
    rw [(server.given_eq token).2] at readable ⊢
    exact congrArg (·, _) (received_ok (readable_names readable))
  | items collection bucket =>
    obtain ⟨hosted, kept⟩ := Option.isSome_iff_exists.mp (carried.present collection bucket rfl)
    have page : server.given (.items collection bucket) token
        = (server.itemPage token (hosted.items collection)).map collection.completed := by
      rw [given, listed, kept, page_map, Page.map_map, itemPage, Page.map_map]
      rfl
    rw [page] at readable ⊢
    refine served.trans ?_
    simp only [Listing.request, perform, reading, logging, kept]
    exact congrArg (·, _) (received_ok readable)

/-- What the page leaves begins at the entry that its token names. -/
theorem marks_next {α : Type} {server : Server} {token : Option String}
    {entries left : List (String × α)} (marks : Marks token entries left) {first : String × α}
    {others : List (String × α)} (later : left.drop server.pageSize = first :: others) :
    Marks (some first.1) entries (first :: others) := by
  obtain ⟨done, cut⟩ : ∃ done, entries = done ++ left := by
    rcases marks with ⟨-, rfl⟩ | ⟨done, _, _, -, -, cut⟩
    · exact ⟨[], rfl⟩
    · exact ⟨done, cut⟩
  refine .inr ⟨done ++ left.take server.pageSize, first, others, rfl, rfl, ?_⟩
  rw [← later, List.append_assoc, List.take_append_drop]
  exact cut

/-- The server gives every listing in pages, whatever their size. -/
theorem splits {server : Server} {listing : Listing} (carried : server.CarriesOut listing) :
    listing.Splits serve fun token state rest =>
      ∃ requests left, state = server.logging requests ∧
        Marks token (server.listed listing) left ∧ rest = left.map (·.2) := by
  rintro token _ _ ⟨requests, left, rfl, marks, rfl⟩
  refine ⟨_, _, answer_given carried token requests, ?_⟩
  rw [given, page_of_marks carried.complete (server.listed_sorted listing) marks]
  cases later : left.drop server.pageSize with
  | nil =>
    refine .inl ⟨by cases listing <;> simp [Listing.IsLast, Page.map], ?_⟩
    rw [List.drop_eq_nil_iff] at later
    simp [Page.map, List.take_of_length_le later]
  | cons first others =>
    refine .inr ⟨by cases listing <;> simp [Listing.IsLast, Page.map], ?_, ?_⟩
    · have some_left : left ≠ [] := by
        rintro rfl
        simp at later
      have := carried.nonempty
      simp [Page.map, some_left]
      omega
    · refine ⟨(first :: others).map (·.2), ?_, _, first :: others, rfl, ?_, rfl⟩
      · rw [← later, Page.map, ← List.map_append, List.take_append_drop]
      · exact marks_next marks later

theorem marks_none {α : Type} (entries : List (String × α)) : Marks none entries entries :=
  .inl ⟨rfl, rfl⟩

end Server

/-! ## The whole listing -/

namespace Listing

/-- A listing is the entries of a whole chain of pages, of which every page is asked for once and every
one after the first by the token before it. A refusal anywhere in the chain fails the call under its
operation; the request that a sender refuses is not asked. Over a service that splits a listing, the call
answers that listing. -/
theorem read_whole {σ : Type} (sender : Sender) (serve : Service Remote σ) (listing : Listing)
    (limit : Nat) (state : σ) :
    (∀ pages after, listing.Reads sender serve none state pages .last after → pages.length ≤ limit →
      (Client.perform sender limit listing.call).Succeeds serve state
        ((none :: pages.dropLast.map (·.next)).map listing.request)
        (listing.reply (pages.flatMap (·.items))) after) ∧
    (∀ pages refusal after, listing.Reads sender serve none state pages (.refused refusal) after →
      pages.length < limit →
      (Client.perform sender limit listing.call).Fails serve state
        ((none :: pages.map (·.next)).map listing.request)
        ⟨listing.call.operation, refusal.code, refusal.message⟩ after) ∧
    (∀ pages refusal after, listing.Reads sender serve none state pages (.unsent refusal) after →
      pages.length < limit →
      (Client.perform sender limit listing.call).Fails serve state
        ((none :: pages.map (·.next)).dropLast.map listing.request)
        ⟨listing.call.operation, refusal.code, refusal.message⟩ after) ∧
    ((∀ token, sender.refusal? (listing.request token) = none) →
      ∀ left rest, listing.Splits serve left → left none state rest → rest.length < limit →
      ∃ asked after, (Client.perform sender limit listing.call).Succeeds serve state asked
        (listing.reply rest) after) := by
  refine ⟨fun pages after reads enough => ?_, fun pages refusal after reads enough => ?_,
    fun pages refusal after reads enough => ?_,
    fun accepted left rest splits start enough => splits.succeeds accepted start enough⟩ <;>
    rw [perform_call]
  · exact (reads.succeeds enough).map _
  · exact (reads.fails rfl enough).map _
  · exact (reads.fails rfl enough).map _

/-- A service that only lists buckets: a nameless one on its first page, none on its second, and its
third page only if it is not `broken`. -/
def threePages (broken : Bool) : Service Remote Unit
  | .listBuckets none, state => (.ok ⟨[some "a", none], false, some "t"⟩, state)
  | .listBuckets (some "t"), state => (.ok ⟨[], true, some ""⟩, state)
  | .listBuckets _, state =>
      (if broken then .error ⟨some "SlowDown", "later"⟩ else .ok ⟨[some "b"], true, none⟩, state)
  | _, state => (.error Server.unreadable, state)

/-- A sender that needs a name for every bucket that it addresses. -/
def needsNames : Sender where
  refusal? request :=
    if request.bucket? = some "" then some ⟨none, "failed to construct request"⟩ else none

/-- A server with three buckets on two pages. -/
def threeBuckets : Server where
  buckets := .ofList [("a", {}), ("b", {}), ("c", {})]
  pageSize := 2

/-- Three pages, the same pages broken off, a bucket without a name, and three buckets that a server
gives two by two. -/
theorem read_whole_three_pages :
    (Client.perform needsNames 3 .listBuckets).Succeeds (threePages false) ()
      [.listBuckets none, .listBuckets (some "t"), .listBuckets (some "")] ["a", "b"] () ∧
    (Client.perform needsNames 3 .listBuckets).Fails (threePages true) ()
      [.listBuckets none, .listBuckets (some "t"), .listBuckets (some "")]
      ⟨"ListBuckets", some "SlowDown", "later"⟩ () ∧
    (Client.perform needsNames 3 (.listItems .metrics "")).Fails (threePages false) () []
      ⟨"ListBucketMetricsConfigurations", none, "failed to construct request"⟩ () ∧
    ∃ asked after, (Client.perform needsNames 4 .listBuckets).Succeeds Server.serve threeBuckets
      asked ["a", "b", "c"] after := by
  have unfinished {items : List (Option String)} {flag : Bool} {token : String} :
      ¬ IsLast .buckets ⟨items, flag, some token⟩ := by simp [IsLast]
  have carried : threeBuckets.CarriesOut .buckets :=
    ⟨rfl, by decide, rfl, rfl, by simp, by decide +kernel⟩
  refine ⟨(read_whole needsNames (threePages false) .buckets 3 ()).1
      [⟨[some "a", none], false, some "t"⟩, ⟨[], true, some ""⟩, ⟨[some "b"], true, none⟩] ()
      (.more rfl rfl unfinished (.more rfl rfl unfinished (.last rfl rfl rfl))) (by decide),
    (read_whole needsNames (threePages true) .buckets 3 ()).2.1
      [⟨[some "a", none], false, some "t"⟩, ⟨[], true, some ""⟩] ⟨some "SlowDown", "later"⟩ ()
      (.more rfl rfl unfinished (.more rfl rfl unfinished (.refused rfl rfl))) (by decide),
    (read_whole needsNames (threePages false) (.items .metrics "") 3 ()).2.2.1 [] _ ()
      (.unsent rfl) (by decide),
    (read_whole needsNames Server.serve .buckets 4 threeBuckets).2.2.2 (fun _ => rfl) _
      [some "a", some "b", some "c"] (Server.splits carried)
      ⟨[], _, rfl, Server.marks_none _, by decide +kernel⟩ (by decide)⟩

end Listing
end BucketSteward

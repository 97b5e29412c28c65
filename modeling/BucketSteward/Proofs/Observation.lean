import BucketSteward.Proofs.Recovery
import BucketSteward.Proofs.Serving

/-! What a search finds in a store where no call is made to fail: a bucket is found exactly when the
store has one of the name, and what is observed of it says of every part what is stored for it. -/
namespace BucketSteward

/-- What a store keeps for a bucket: the bucket itself, and the tags under its resource name. -/
structure Holding where
  bucket : StoredBucket
  tags : List Tag := []

/-- A bucket and its tags in a store where no call is made to fail. -/
structure Store.Holds (store : Store) (name arn : String) (holding : Holding) : Prop where
  calm : store.failures = {}
  found : store.buckets.get? name = some holding.bucket
  tags : store.tagsOf arn = holding.tags

/-- The names of a kind that a map has include one of that kind when it has an entry. -/
theorem Keyed.contains_names {α : Type} (map : Keyed α) {isOfKind : String → Bool} {name : String}
    (own : isOfKind name = true) :
    (map.names.filter isOfKind).contains name = (map.get? name).isSome := by
  rw [Bool.eq_iff_iff, List.contains_iff_mem, List.mem_filter, Option.isSome_iff_exists]
  simp only [own, and_true, names, List.mem_map, get?_eq_some_iff]
  constructor
  · rintro ⟨⟨_, stored⟩, inside, rfl⟩
    exact ⟨stored, inside⟩
  · rintro ⟨stored, inside⟩
    exact ⟨_, inside, rfl⟩

namespace Store

variable {store : Store} {name arn : String} {holding : Holding} {call : Call}

/-- Where no call is made to fail, every call does its work. -/
theorem serve_calm (calm : store.failures = {}) (call : Call) :
    serve call store = (store.log call).perform call :=
  serve_spared call (by rw [calm]; rfl)

/-- A bucket is there, and each of its documents is observed as it is stored, or as missing where the
reading of it is made to fail with the code of one that was never configured. -/
def Shows (store : Store) (name : String) (stored : StoredBucket)
    (observed : BucketSpec) : Prop :=
  store.buckets.get? name = some stored ∧
    ∀ d, observed.document d = stored.document d ∨ observed.document d = none ∧
      store.failures.get? (Call.operation (.getDocument d name)) = some d.absentCode

end Store

namespace Pass

open Program

/-- What is observed of a general purpose bucket. -/
def generalObservation (desired : BucketSpec) (stored : StoredBucket) : BucketSpec :=
  { ({ name := desired.name
       createBucketConfiguration := desired.createBucketConfiguration } : BucketSpec).withObservedAcl
      stored.acl with
    accelerate := some (stored.settingValue .accelerate)
    analytics := some stored.analytics.values
    cors := stored.cors
    encryption := stored.encryption
    intelligentTiering := some stored.intelligentTiering.values
    inventory := some stored.inventory.values
    lifecycle := stored.lifecycle
    logging := some (stored.settingValue .logging)
    metrics := some stored.metrics.values
    notification := some (stored.settingValue .notification)
    ownershipControls := stored.ownershipControls
    policy := stored.policy
    publicAccessBlock := stored.publicAccessBlock
    replication := stored.replication
    requestPayment := some (stored.settingValue .requestPayment)
    tagging := stored.tagging
    versioning := some (stored.settingValue .versioning)
    website := stored.website
    objectLockEnabledForBucket := some stored.objectLock }

/-- What is observed of a directory bucket, whose tags are kept under its resource name. -/
def directoryObservation (desired : BucketSpec) (holding : Holding) : BucketSpec where
  name := desired.name
  createBucketConfiguration := desired.createBucketConfiguration
  encryption := holding.bucket.encryption
  lifecycle := holding.bucket.lifecycle
  policy := holding.bucket.policy
  tagging := some { tagSet := if holding.tags.isEmpty then none else some holding.tags }

variable {label : CallLabel}

section Answers
variable {answers : (call : Call) → Except ApiError call.Reply} {call : Call}

theorem resolve_call {reply : call.Reply} (answered : answers call = .ok reply) :
    (Pass.call label call).resolve answers = .ok reply := by
  rw [call_eq, resolve, run, answered]
  rfl

theorem resolve_callUnless_eq (codes : List String) :
    (callUnless codes label call).resolve answers = match answers call with
      | .ok reply => .ok (some reply)
      | .error e => if e.hasCode codes then .ok none else .error (.api e) := by
  rw [resolve, callUnless_run]
  rfl

theorem resolve_callUnless {codes : List String} {reply : call.Reply}
    (answered : answers call = .ok reply) :
    (callUnless codes label call).resolve answers = .ok (some reply) := by
  rw [resolve_callUnless_eq, answered]

theorem resolve_callUnless_absent {codes : List String} {e : ApiError}
    (answered : answers call = .error e) (known : e.hasCode codes = true) :
    (callUnless codes label call).resolve answers = .ok none := by
  rw [resolve_callUnless_eq, answered]
  exact if_pos known

/-- What was configured is read, and the code of what never was is recovered from. -/
theorem resolve_callUnless_configured {α : Type} {operation code : String} {held : Option α}
    (wrap : α → call.Reply)
    (answered : answers call = (Store.configured operation code held).map wrap) :
    (callUnless [code] label call).resolve answers = .ok (held.map wrap) := by
  cases held with
  | some value => exact resolve_callUnless answered
  | none => exact resolve_callUnless_absent answered (by simp [ApiError.hasCode, Store.notFound])

end Answers

/-- The answers to single calls on a store. -/
abbrev answersOf (store : Store) (call : Call) : Except ApiError call.Reply :=
  (Store.serve call store).1

section Failing
variable {store : Store} {name : String} {stored : StoredBucket}
  (found : store.buckets.get? name = some stored)
include found

/-- A call that does its work by reading from a bucket is answered with what is read. -/
theorem answersOf_reading (call : Call) {read : StoredBucket → Except ApiError call.Reply}
    (served : Store.serve call store = (store.log call).perform call)
    (reads : (store.log call).perform call = (store.log call).reading call.operation name read) :
    answersOf store call = read stored := by
  have there : (store.log call).buckets.get? name = some stored := found
  rw [answersOf, served, reads, Store.reading, there]

theorem readDocument_spared {document : Document} (spared : Store.serve (.getDocument document name) store
      = (store.log (.getDocument document name)).perform (.getDocument document name)) :
    (readDocument label document name).resolve (answersOf store) = .ok (stored.document document) := by
  have answered : answersOf store (.getDocument document name)
      = (Store.configured (Call.operation (.getDocument document name)) document.absentCode
          (stored.document document)).map some := answersOf_reading found _ spared rfl
  rw [readDocument, bind_eq, resolve_bind, resolve_callUnless_configured some answered]
  cases stored.document document <;> rfl

/-- A document is seen as it is stored, or as missing where the reading of it was made to fail with
the code of one that was never configured. -/
theorem readDocument_sees {document : Document} {seen : Option document.Content}
    (read : (readDocument label document name).resolve (answersOf store) = .ok seen) :
    seen = stored.document document ∨ seen = none ∧
      store.failures.get? (Call.operation (.getDocument document name)) = some document.absentCode := by
  rcases Store.serve_cases store (.getDocument document name) with ⟨code, injected, served⟩ | ⟨-, spared⟩
  · rw [readDocument, bind_eq, resolve_bind, resolve_callUnless_eq, answersOf, served] at read
    by_cases absent : code = document.absentCode
    · subst absent
      simp only [ApiError.hasCode, List.contains_cons, BEq.rfl, Bool.true_or, if_true] at read
      exact .inr ⟨(Except.ok.inj read).symm, injected⟩
    · simp [ApiError.hasCode, absent, Except.bind] at read
  · rw [readDocument_spared found spared] at read
    exact .inl (Except.ok.inj read).symm

end Failing

section Calm
variable {store : Store} {name arn : String} {stored : StoredBucket} (calm : store.failures = {})
  (found : store.buckets.get? name = some stored)
include calm found

theorem readSetting_resolve (setting : Setting) :
    (readSetting label setting name).resolve (answersOf store) = .ok (stored.settingValue setting) :=
  resolve_call (answersOf_reading found (.getSetting setting name) (Store.serve_calm calm _) rfl)

theorem readAccelerate_resolve :
    (readAccelerate label name).resolve (answersOf store) = .ok (stored.settingValue .accelerate) := by
  have answered : answersOf store (.getSetting .accelerate name)
      = .ok (stored.settingValue .accelerate) :=
    answersOf_reading found (.getSetting .accelerate name) (Store.serve_calm calm _) rfl
  rw [readAccelerate, bind_eq, resolve_bind, resolve_callUnless answered]
  rfl

theorem readDocument_resolve (document : Document) :
    (readDocument label document name).resolve (answersOf store) = .ok (stored.document document) :=
  readDocument_spared found (Store.serve_calm calm _)

theorem readPolicy_resolve :
    (readPolicy label name).resolve (answersOf store) = .ok stored.policy := by
  have answered : answersOf store (.getPolicy name)
      = (Store.configured "GetBucketPolicy" policyAbsentCode stored.policy).map some :=
    answersOf_reading found (.getPolicy name) (Store.serve_calm calm _) rfl
  rw [readPolicy, bind_eq, resolve_bind, resolve_callUnless_configured some answered]
  cases stored.policy <;> rfl

theorem readObjectLock_resolve :
    (readObjectLock label name).resolve (answersOf store) = .ok stored.objectLock := by
  have answered : answersOf store (.getObjectLock name)
      = if stored.objectLock then .ok true
        else .error (Store.notFound "GetObjectLockConfiguration" objectLockAbsentCode) :=
    answersOf_reading found (.getObjectLock name) (Store.serve_calm calm _) rfl
  rw [readObjectLock, bind_eq, resolve_bind]
  cases there : stored.objectLock with
  | true =>
    rw [there] at answered
    rw [resolve_callUnless answered]
    rfl
  | false =>
    rw [there] at answered
    rw [resolve_callUnless_absent answered (by simp [ApiError.hasCode, Store.notFound])]
    rfl

theorem readItems_resolve (collection : Collection) :
    (readItems collection name).resolve (answersOf store) = .ok (stored.items collection).values := by
  have answered : answersOf store (.listItems collection name)
      = .ok (stored.items collection).values :=
    answersOf_reading found (.listItems collection name) (Store.serve_calm calm _) rfl
  exact resolve_call answered

theorem readAcl_resolve :
    (readAcl name).resolve (answersOf store) = .ok stored.acl :=
  resolve_call (answersOf_reading found (.getAcl name) (Store.serve_calm calm _) rfl)

theorem readGeneralBucket_resolve (desired : BucketSpec) (named : desired.name = name) :
    (readGeneralBucket {
        name := desired.name
        createBucketConfiguration := desired.createBucketConfiguration }).resolve (answersOf store)
      = .ok (generalObservation desired stored) := by
  subst named
  simp only [readGeneralBucket, bind_eq, resolve_bind, readSetting_resolve calm found,
    readAccelerate_resolve calm found, readDocument_resolve calm found,
    readPolicy_resolve calm found, readObjectLock_resolve calm found, readItems_resolve calm found,
    readAcl_resolve calm found, Except.bind, pure_eq, resolve_done]
  rfl

omit found in
theorem getResourceTags_resolve (account arn : String) :
    (getResourceTags account arn).resolve (answersOf store) = .ok (some {
      tagSet := if (store.tagsOf arn).isEmpty then none else some (store.tagsOf arn) }) := by
  have answered : answersOf store (.listTags account arn) = .ok (store.tagsOf arn) := by
    simp [answersOf, Store.serve_calm calm, Store.perform, Store.log, Store.tagsOf]
  rw [getResourceTags, bind_eq, resolve_bind, resolve_callUnless answered]
  rfl

omit found in
/-- The listing of the kind that a name belongs to has the name when the bucket is there. -/
theorem listBeside_resolve (bucket : String) :
    ∃ names, (listBeside bucket).resolve (answersOf store) = .ok names ∧
      names.contains bucket = (store.buckets.get? bucket).isSome := by
  unfold listBeside
  split
  case isTrue directory =>
    have answered : answersOf store .listDirectoryBuckets
        = .ok (store.buckets.names.filter isDirectoryName) := by
      simp [answersOf, Store.serve_calm calm, Store.perform, Store.log]
    rw [bind_eq, resolve_bind, resolve_callUnless answered]
    exact ⟨_, rfl, store.buckets.contains_names directory⟩
  case isFalse general =>
    have answered : answersOf store .listBuckets
        = .ok (store.buckets.names.filter (!isDirectoryName ·)) := by
      simp [answersOf, Store.serve_calm calm, Store.perform, Store.log]
    rw [bind_eq, resolve_bind, resolve_callUnless answered]
    exact ⟨_, rfl, store.buckets.contains_names (by simpa using general)⟩

end Calm

/-- What is observed of a bucket, by the kind that its name belongs to. -/
def observation (desired : BucketSpec) (holding : Holding) : BucketSpec :=
  if isDirectoryName desired.name then directoryObservation desired holding
  else generalObservation desired holding.bucket

theorem tagTarget_of_arn {location : Location} {name arn : String}
    (directory : isDirectoryName name = true)
    (addressed : bucketArn name location.region location.account = .ok arn) :
    ∃ account, location.tagTarget name = .ok (account, arn) := by
  unfold Location.tagTarget
  cases owner : location.account with
  | none => simp [bucketArn, directory, owner] at addressed
  | some account =>
    rw [owner] at addressed
    exact ⟨account, by simp only [addressed]; rfl⟩

theorem arn_of_tagTarget {location : Location} {name account arn : String}
    (target : location.tagTarget name = .ok (account, arn)) :
    bucketArn name location.region location.account = .ok arn := by
  unfold Location.tagTarget at target
  cases owner : location.account with
  | none =>
    rw [owner] at target
    cases target
  | some own =>
    rw [owner] at target
    cases named : bucketArn name location.region (some own) with
    | error fault =>
      simp only [named] at target
      cases target
    | ok found =>
      simp only [named] at target
      cases target
      rfl

section Found
variable {store : Store} {location : Location} {desired : BucketSpec} {arn : String}
  {holding : Holding}

theorem readObserved_resolve (holds : store.Holds desired.name arn holding)
    (addressed : bucketArn desired.name location.region location.account = .ok arn) :
    (readObserved location desired).resolve (answersOf store) = .ok (observation desired holding) := by
  unfold readObserved observation
  by_cases directory : isDirectoryName desired.name = true
  · obtain ⟨account, target⟩ := tagTarget_of_arn directory addressed
    simp only [if_pos directory, readDirectoryBucket, bind_eq, resolve_bind,
      readDocument_resolve holds.calm holds.found, readPolicy_resolve holds.calm holds.found,
      getResourceTags_resolve holds.calm, ofExcept, target, resolve_done, Except.bind, pure_eq,
      holds.tags]
    rfl
  · simp only [if_neg directory]
    exact readGeneralBucket_resolve holds.calm holds.found desired rfl

/-- A search finds the bucket that the store has, as it is observed. -/
theorem find_run (holds : store.Holds desired.name arn holding)
    (addressed : bucketArn desired.name location.region location.account = .ok arn) :
    ∃ calls, (∀ call ∈ calls, call.mutates = false) ∧
      (find location desired).run Store.serve store = (.ok (some (observation desired holding)),
        { store with calls := store.calls ++ calls }) := by
  obtain ⟨calls, reads, ran⟩ := Store.run_of_reads (find_reads location desired) store
  refine ⟨calls, reads, ran.trans (Prod.ext ?_ rfl)⟩
  obtain ⟨names, listed, has⟩ := listBeside_resolve holds.calm desired.name
  rw [holds.found] at has
  rw [find_eq, resolve_bind, listed]
  simp only [Except.bind, has, Option.isSome_some, if_true, resolve_handle, map_eq, resolve_bind,
    readObserved_resolve holds addressed, resolve_done]

/-- A search finds nothing where the store has no bucket of the name. -/
theorem find_run_missing (calm : store.failures = {})
    (missing : store.buckets.get? desired.name = none) (location : Location) :
    ∃ calls, (find location desired).run Store.serve store
      = (.ok none, { store with calls := store.calls ++ calls }) := by
  obtain ⟨calls, -, ran⟩ := Store.run_of_reads (find_reads location desired) store
  refine ⟨calls, ran.trans (Prod.ext ?_ rfl)⟩
  obtain ⟨names, listed, has⟩ := listBeside_resolve calm desired.name
  rw [missing] at has
  rw [find_eq, resolve_bind, listed]
  simp only [Except.bind, has, Option.isSome_none, Bool.false_eq_true, if_false, resolve_done]

end Found

section Seen
variable {store : Store} {location : Location} {desired spec observed : BucketSpec}

/-- A general purpose bucket that is read is there, and its documents are read one by one. -/
theorem readGeneralBucket_sees
    (read : (readGeneralBucket spec).resolve (answersOf store) = .ok observed) :
    (∃ stored, store.buckets.get? spec.name = some stored) ∧
      ∀ d, ∃ label, (readDocument label d spec.name).resolve (answersOf store)
        = .ok (observed.document d) := by
  simp only [readGeneralBucket, bind_eq, resolve_bind_eq_ok, pure_eq, resolve_done,
    Except.ok.injEq] at read
  obtain ⟨_, -, _, -, acl, granted, cors, corsRead, encryption, encryptionRead, _, -, _, -, lifecycle,
    lifecycleRead, _, -, _, -, _, -, ownership, ownershipRead, _, -, block, blockRead, replication,
    replicationRead, _, -, tagging, taggingRead, _, -, website, websiteRead, _, -, rfl⟩ := read
  constructor
  · by_contra missing
    have refused : ∃ e, answersOf store (.getAcl spec.name) = .error e := by
      rcases Store.serve_cases store (.getAcl spec.name) with ⟨code, -, served⟩ | ⟨-, served⟩
      · exact ⟨_, by rw [answersOf, served]⟩
      · have absent : store.buckets.get? spec.name = none :=
          Option.eq_none_iff_forall_ne_some.mpr fun stored found => missing ⟨stored, found⟩
        rw [answersOf, served]
        simp [Store.perform, Store.reading, Store.log, absent]
    obtain ⟨e, answered⟩ := refused
    rw [readAcl, call_eq, resolve, run, answered] at granted
    cases granted
  · intro d
    cases d with
    | cors => exact ⟨_, corsRead⟩
    | encryption => exact ⟨_, encryptionRead⟩
    | lifecycle => exact ⟨_, lifecycleRead⟩
    | ownershipControls => exact ⟨_, ownershipRead⟩
    | publicAccessBlock => exact ⟨_, blockRead⟩
    | replication => exact ⟨_, replicationRead⟩
    | tagging => exact ⟨_, taggingRead⟩
    | website => exact ⟨_, websiteRead⟩

/-- The ACL of a general purpose bucket is read once, into all of its texts. -/
theorem readGeneralBucket_acl
    (read : (readGeneralBucket spec).resolve (answersOf store) = .ok observed) :
    ∃ policy, observed.aclTexts = (spec.withObservedAcl policy).aclTexts := by
  simp only [readGeneralBucket, bind_eq, resolve_bind_eq_ok, pure_eq, resolve_done,
    Except.ok.injEq] at read
  obtain ⟨_, -, _, -, policy, -, _, -, _, -, _, -, _, -, _, -, _, -, _, -, _, -, _, -, _, -, _, -, _, -,
    _, -, _, -, _, -, _, -, _, -, rfl⟩ := read
  exact ⟨policy, rfl⟩

/-- What is found was read. -/
theorem find_reads_observed
    (found : (find location desired).resolve (answersOf store) = .ok (some observed)) :
    (readObserved location desired).resolve (answersOf store) = .ok observed := by
  rw [find_eq] at found
  obtain ⟨names, -, found⟩ := resolve_bind_eq_ok.mp found
  split at found
  · rw [resolve_handle, map_eq, resolve_bind] at found
    cases read : (readObserved location desired).resolve (answersOf store) with
    | error fault =>
      have gone : unlessGone fault = .ok (some observed) := by simpa [read, Except.bind] using found
      cases fault with
      | api e =>
        simp only [unlessGone] at gone
        split at gone <;> cases gone
      | _ => cases gone
    | ok seen =>
      have same : seen = observed := by simpa [read, Except.bind] using found
      rw [same]
  · cases found

section General
variable (general : isDirectoryName desired.name = false)
  (found : (find location desired).resolve (answersOf store) = .ok (some observed))
include general found

/-- A general purpose bucket that is found is there, and it is observed as the store shows it. -/
theorem find_sees : ∃ stored, store.Shows desired.name stored observed := by
  have read := find_reads_observed found
  rw [readObserved, if_neg (by simp [general])] at read
  obtain ⟨⟨stored, there⟩, documents⟩ := readGeneralBucket_sees read
  refine ⟨stored, there, fun d => ?_⟩
  obtain ⟨label, seen⟩ := documents d
  exact readDocument_sees there seen

/-- The texts of the ACL are observed from one policy. -/
theorem find_sees_acl : ∃ policy,
    observed.aclTexts = (({ name := desired.name } : BucketSpec).withObservedAcl policy).aclTexts := by
  have read := find_reads_observed found
  rw [readObserved, if_neg (by simp [general])] at read
  obtain ⟨policy, texts⟩ := readGeneralBucket_acl read
  exact ⟨policy, texts⟩

end General

end Seen

end Pass

end BucketSteward

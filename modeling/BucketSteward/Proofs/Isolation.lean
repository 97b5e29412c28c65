import BucketSteward.Proofs.Scope

/-! A pass depends on its own bucket and changes nothing else. Two stores that agree on a bucket, on the
tags under its resource name and on the calls that fail are one to a pass over that bucket, whatever else
they hold: it makes the same calls, ends alike and leaves the two in agreement again. And every other
bucket and all other tags are left as they were, however the pass ends. -/
namespace BucketSteward

open Program

variable {location : Location} {name arn : String} {call : Call}

namespace Store

variable {store other : Store}

/-! ## Stores that agree on a bucket -/

/-- Two stores agree on a bucket, on the tags under its resource name, and on which calls fail. -/
structure AgreesOn (location : Location) (name : String) (store other : Store) : Prop where
  failures : store.failures = other.failures
  bucket : store.buckets.get? name = other.buckets.get? name
  tags : ∀ arn, bucketArn name location.region location.account = .ok arn →
    store.tagsOf arn = other.tagsOf arn

namespace AgreesOn

theorem setBucket (agree : AgreesOn location name store other) (bucket : StoredBucket) :
    AgreesOn location name (store.setBucket name bucket) (other.setBucket name bucket) where
  failures := agree.failures
  bucket := by simp [Store.setBucket]
  tags := agree.tags

/-- Reading from the bucket is answered alike. -/
theorem reading {α : Type} (agree : AgreesOn location name store other) (operation : String)
    (read : StoredBucket → Except ApiError α) :
    (store.reading operation name read).1 = (other.reading operation name read).1 ∧
      AgreesOn location name (store.reading operation name read).2
        (other.reading operation name read).2 := by
  unfold Store.reading
  rw [agree.bucket]
  split <;> exact ⟨rfl, agree⟩

/-- Writing to the bucket is answered alike and does the same. -/
theorem writing (agree : AgreesOn location name store other) (operation : String)
    (write : StoredBucket → StoredBucket) :
    (store.writing operation name write).1 = (other.writing operation name write).1 ∧
      AgreesOn location name (store.writing operation name write).2
        (other.writing operation name write).2 := by
  unfold Store.writing
  rw [agree.bucket]
  split
  · exact ⟨rfl, agree.setBucket _⟩
  · exact ⟨rfl, agree⟩

/-- A call on the bucket is answered alike and does the same. -/
theorem perform (agree : AgreesOn location name store other) (on : call.IsOn location name) :
    (store.perform call).1 = (other.perform call).1 ∧
      AgreesOn location name (store.perform call).2 (other.perform call).2 := by
  cases call with
  | createBucket _ | deleteBucket _ | listBuckets | listDirectoryBuckets => exact on.elim
  | getPolicy bucket =>
    obtain rfl : bucket = name := on
    exact agree.reading _ _
  | deletePolicy bucket =>
    obtain rfl : bucket = name := on
    exact agree.writing _ _
  | getSetting _ _ | getDocument _ _ | getObjectLock _ | getAcl _ | listItems _ _ =>
    obtain ⟨rfl, -⟩ := on
    exact agree.reading _ _
  | putSetting _ _ _ | putDocument _ _ _ | deleteDocument _ _ | putPolicy _ _ _ | putObjectLock _ _
  | putAcl _ _ | putItem _ _ _ | deleteItem _ _ _ =>
    obtain ⟨rfl, -⟩ := on
    exact agree.writing _ _
  | listTags account own =>
    have same := agree.tags own (Pass.arn_of_tagTarget on.2)
    exact ⟨congrArg Except.ok same, agree⟩
  | tag account own tags =>
    have same := agree.tags own (Pass.arn_of_tagTarget on.2)
    refine ⟨rfl, agree.failures, agree.bucket, fun arn addressed => ?_⟩
    simp only [Store.perform, tagsOf_setTags, same, agree.tags arn addressed]
  | untag account own keys =>
    have same := agree.tags own (Pass.arn_of_tagTarget on.2)
    obtain ⟨after, done, left⟩ := perform_untag store account own keys
    obtain ⟨afterToo, doneToo, leftToo⟩ := perform_untag other account own keys
    rw [done, doneToo]
    refine ⟨rfl, ?_, ?_, fun arn addressed => ?_⟩
    · rw [left.failures, leftToo.failures, agree.failures]
    · rw [left.buckets, leftToo.buckets, agree.bucket]
    · rw [left.tagsOf, leftToo.tagsOf, same, agree.tags arn addressed]

/-- A creation of the bucket is answered alike and does the same. -/
theorem create {creation : BucketCreation} (agree : AgreesOn location name store other)
    (named : creation.bucket = name) :
    (store.perform (.createBucket creation)).1 = (other.perform (.createBucket creation)).1 ∧
      AgreesOn location name (store.perform (.createBucket creation)).2
        (other.perform (.createBucket creation)).2 := by
  subst named
  have same : store.buckets.contains creation.bucket = other.buckets.contains creation.bucket := by
    simp only [Keyed.contains, agree.bucket]
  simp only [Store.perform, same]
  cases other.buckets.contains creation.bucket with
  | true => exact ⟨rfl, agree⟩
  | false => exact ⟨rfl, agree.setBucket _⟩

theorem log (agree : AgreesOn location name store other) (call : Call) :
    AgreesOn location name (store.log call) (other.log call) :=
  ⟨agree.failures, agree.bucket, agree.tags⟩

/-- Which calls fail is agreed on, so a call is answered as what it does when it does not fail. -/
theorem serve (agree : AgreesOn location name store other)
    {related : Except ApiError call.Reply → Except ApiError call.Reply → Prop}
    (failing : ∀ e, related (.error e) (.error e))
    (performed : ∀ {store other : Store}, AgreesOn location name store other →
      related (store.perform call).1 (other.perform call).1 ∧
        AgreesOn location name (store.perform call).2 (other.perform call).2) :
    related (Store.serve call store).1 (Store.serve call other).1 ∧
      AgreesOn location name (Store.serve call store).2 (Store.serve call other).2 := by
  rcases serve_cases store call with ⟨code, injected, served⟩ | ⟨spared, served⟩ <;>
    rcases serve_cases other call with ⟨codeToo, injectedToo, servedToo⟩ | ⟨sparedToo, servedToo⟩
  · rw [agree.failures, injectedToo] at injected
    obtain rfl := Option.some.inj injected
    rw [served, servedToo]
    exact ⟨failing _, agree.log call⟩
  · rw [agree.failures, sparedToo] at injected
    cases injected
  · rw [agree.failures, injectedToo] at spared
    cases spared
  · rw [served, servedToo]
    exact performed (agree.log call)

/-- All calls that follow the listing are answered alike and do the same. -/
theorem serve_of_owns {desired : BucketSpec} {adoption : AdoptionPolicy}
    (agree : AgreesOn location desired.name store other) (owns : desired.Owns location adoption call) :
    (Store.serve call store).1 = (Store.serve call other).1 ∧
      AgreesOn location desired.name (Store.serve call store).2 (Store.serve call other).2 := by
  refine agree.serve (fun _ => rfl) fun agree => ?_
  rcases owns with ⟨-, rfl⟩ | on
  · exact agree.create rfl
  · exact agree.perform on

end AgreesOn

/-! ## What is left as it is -/

/-- Every other bucket and the tags of every other resource are as they were. -/
structure SameBeside (location : Location) (name : String) (store after : Store) : Prop where
  buckets : ∀ bucket, bucket ≠ name → after.buckets.get? bucket = store.buckets.get? bucket
  tags : ∀ arn, bucketArn name location.region location.account ≠ .ok arn →
    after.tags.get? arn = store.tags.get? arn

theorem SameBeside.trans {middle after : Store} (first : SameBeside location name store middle)
    (second : SameBeside location name middle after) : SameBeside location name store after where
  buckets bucket apart := (second.buckets bucket apart).trans (first.buckets bucket apart)
  tags arn apart := (second.tags arn apart).trans (first.tags arn apart)

/-- Only setting and removing tags changes tags, and only those of the resource. -/
theorem serve_tags (store : Store) (call : Call) :
    (serve call store).2.tags = store.tags ∨
      ∃ account own, ((∃ tags, call = .tag account own tags) ∨ ∃ keys, call = .untag account own keys) ∧
        ∀ arn, arn ≠ own → (serve call store).2.tags.get? arn = store.tags.get? arn := by
  have set (own : String) (tags : List Tag) (arn : String) (apart : arn ≠ own) :
      ((store.log call).setTags own tags).tags.get? arn = store.tags.get? arn :=
    (Keyed.get?_insert _ _ _ _).trans (if_neg apart)
  rcases serve_cases store call with ⟨code, -, served⟩ | ⟨-, served⟩
  · exact .inl (by rw [served]; rfl)
  rw [served]
  cases effects : call.effect? with
  | some write =>
    rcases perform_of_effect (store.log call) effects with ⟨stored, reply, -, done⟩ | ⟨-, e, done⟩
    · exact .inl (by rw [done]; rfl)
    · exact .inl (by rw [done]; rfl)
  | none =>
    cases call with
    | tag account own tags => exact .inr ⟨account, own, .inl ⟨tags, rfl⟩, set own _⟩
    | untag account own keys =>
      refine .inr ⟨account, own, .inr ⟨keys, rfl⟩, ?_⟩
      simp only [perform]
      split
      · exact set own _
      · exact fun _ _ => rfl
    | createBucket _ | deleteBucket _ =>
      simp only [perform]
      split <;> exact .inl rfl
    | listBuckets | listDirectoryBuckets | getSetting _ _ | getDocument _ _ | getPolicy _
    | getObjectLock _ | getAcl _ | listItems _ _ | listTags _ _ =>
      exact .inl (by rw [perform_of_reads rfl]; rfl)
    | _ => cases effects

/-- A call of a pass leaves all other buckets and tags as they are. -/
theorem serve_sameBeside {desired : BucketSpec} {adoption : AdoptionPolicy}
    (asks : desired.Asks location adoption call) (store : Store) :
    SameBeside location desired.name store (serve call store).2 := by
  constructor
  · intro bucket apart
    rcases serve_buckets store call with same | ⟨written, effect, stored, writes, -, same⟩ |
      ⟨creation, rfl, -, same⟩ | ⟨deleted, rfl, -⟩
    · rw [same]
    · rw [same, Keyed.get?_insert, if_neg (asks.written writes ▸ apart)]
    · rw [same, Keyed.get?_insert, if_neg (asks.created.2 ▸ apart)]
    · exact asks.not_deleted.elim
  · intro arn apart
    rcases serve_tags store call with same | ⟨account, own, about, same⟩
    · rw [same]
    · refine same arn fun equal => apart ?_
      subst equal
      rcases about with ⟨tags, rfl⟩ | ⟨keys, rfl⟩
      · exact Pass.arn_of_tagTarget (asks.isOn rfl).2
      · exact Pass.arn_of_tagTarget (asks.isOn rfl).2

end Store

/-! ## A whole pass -/

namespace Pass

open Store

variable {store other : Store}

/-- A call that may fail runs alike when what is made of its answers is the same. -/
theorem callUnless_runsAlike {σ β : Type} {serve : Service Storage σ} {alike : σ → σ → Prop}
    {state other : σ} {codes : List String} {label : CallLabel} {f : Option call.Reply → β}
    (answered : (serve call state).1.map (f ∘ some) = (serve call other).1.map (f ∘ some))
    (after : alike (serve call state).2 (serve call other).2) :
    (f <$> callUnless codes label call).RunsAlike serve alike state other := by
  refine ⟨?_, ?_, ?_⟩
  · simp only [trace_map, callUnless_trace, List.map_cons, List.map_nil]
  · simp only [run_map, callUnless_run]
    generalize (serve call state).1 = one at answered ⊢
    generalize (serve call other).1 = two at answered ⊢
    cases one <;> cases two
    case error.error =>
      cases answered
      rfl
    case ok.ok => exact congrArg Except.ok (Except.ok.inj answered)
    all_goals cases answered
  · simp only [run_map, callUnless_run]
    exact after

/-- Listings differ in all other buckets, but not in whether they have the name of the bucket. -/
theorem listed_runsAlike (agree : AgreesOn location name store other) :
    ((·.contains name) <$> listBeside name).RunsAlike serve (AgreesOn location name) store other := by
  have listed {isOfKind : String → Bool} (own : isOfKind name = true) {store other : Store}
      (agree : AgreesOn location name store other) :
      (store.buckets.names.filter isOfKind).contains name
        = (other.buckets.names.filter isOfKind).contains name := by
    rw [Keyed.contains_names _ own, Keyed.contains_names _ own, agree.bucket]
  let related (a b : Except ApiError (List String)) : Prop :=
    a.map (·.contains name) = b.map (·.contains name)
  have failing (e : ApiError) : related (.error e) (.error e) := rfl
  unfold listBeside
  split
  case isTrue directory =>
    have answered : related (Store.serve .listDirectoryBuckets store).1
        (Store.serve .listDirectoryBuckets other).1 ∧ _ :=
      agree.serve failing fun agree => ⟨congrArg Except.ok (listed directory agree), agree⟩
    exact (map_map _ _ _).symm ▸ callUnless_runsAlike answered.1 answered.2
  case isFalse general =>
    have own : (!isDirectoryName name) = true := by simpa using general
    have answered : related (Store.serve .listBuckets store).1 (Store.serve .listBuckets other).1 ∧ _ :=
      agree.serve failing fun agree => ⟨congrArg Except.ok (listed own agree), agree⟩
    exact (map_map _ _ _).symm ▸ callUnless_runsAlike answered.1 answered.2

/-- Two stores that agree on a bucket, on the tags under its resource name and on which calls fail can
not be told apart by a pass over that bucket: the same calls are made, the result is the same, and the
stores agree again. Whatever the result, every other bucket and the tags of every other resource are as
they were. No bucket is ever deleted, and none is created where it has to exist. -/
theorem sync_isolated (location : Location) (desired : BucketSpec) (adoption : AdoptionPolicy)
    (agree : AgreesOn location desired.name store other) :
    let pass := sync location desired adoption
    (pass.trace serve store).map (·.1) = (pass.trace serve other).map (·.1) ∧
    (pass.run serve store).1 = (pass.run serve other).1 ∧
    AgreesOn location desired.name (pass.run serve store).2 (pass.run serve other).2 ∧
    SameBeside location desired.name store (pass.run serve store).2 ∧
    SameBeside location desired.name other (pass.run serve other).2 ∧
    ∀ call ∈ (pass.trace serve store).map (·.1), (∀ bucket, call ≠ .deleteBucket bucket) ∧
      (adoption = .adopt → ∀ creation, call ≠ .createBucket creation) := by
  intro pass
  have asks := sync_uses location desired adoption
  have beside (store : Store) : SameBeside location desired.name store (pass.run serve store).2 := by
    refine (asks.invariant serve (SameBeside location desired.name store) ?_ ⟨fun _ _ => rfl, fun _ _ => rfl⟩).2
    exact fun call middle asked before => before.trans (serve_sameBeside asked middle)
  have alike : pass.RunsAlike serve (AgreesOn location desired.name) store other := by
    have rest (arn : String) (listed : Bool) (a b : Store) (agree : AgreesOn location desired.name a b) :
        (workOn location desired adoption arn listed).RunsAlike serve
          (AgreesOn location desired.name) a b :=
      (workOn_uses location desired adoption arn listed).runsAlike
        (fun call a b owns agree => agree.serve_of_owns owns) agree
    show (sync location desired adoption).RunsAlike _ _ _ _
    rw [sync_eq_workOn]
    refine RunsAlike.bind ⟨rfl, rfl, agree⟩ fun arn a b agree => ?_
    exact (listed_runsAlike agree).bind fun listed a b agree => rest arn listed a b agree
  refine ⟨alike.asked, alike.result, alike.after, beside store, beside other, fun call among => ?_⟩
  obtain ⟨step, taken, rfl⟩ := List.mem_map.mp among
  have asked : desired.Asks location adoption step.1 := asks.steps serve store step taken
  refine ⟨fun bucket deletion => ?_, fun never creation created => ?_⟩
  · rw [deletion] at asked
    exact asked.not_deleted
  · rw [created] at asked
    exact asked.created.1 never

/-- A directory bucket is tagged by a pass that fails halfway, once alone and once beside another. -/
theorem refused_tags_leave_the_neighbour :
    let location : Location := ⟨some "1", "us-west-2"⟩
    let desired : BucketSpec := {
      name := "logs--x-s3"
      tagging := some { tagSet := some [{ key := some "team", value := some "red" }] } }
    let arn := "arn:aws:s3express:us-west-2:1:bucket/logs--x-s3"
    let neighbour := "arn:aws:s3express:us-west-2:1:bucket/rows--x-s3"
    let old : Tag := { key := some "owner", value := some "blue" }
    let alone : Store := {
      buckets := Keyed.ofList [(desired.name, {})]
      tags := Keyed.ofList [(arn, [old])]
      failures := Keyed.ofList [("TagResource", "AccessDenied")] }
    let beside : Store := {
      buckets := Keyed.ofList [(desired.name, {}), ("rows--x-s3", { policy := some "words" })]
      tags := Keyed.ofList [(arn, [old]), (neighbour, [old])]
      failures := Keyed.ofList [("TagResource", "AccessDenied")]
      calls := [.listDirectoryBuckets] }
    let pass := sync location desired .adopt
    let refusal : ApiError := ⟨"TagResource", some "AccessDenied", "injected failure"⟩
    AgreesOn location desired.name alone beside ∧
      (pass.run serve beside).1 = .error (.property "Tagging" (.api refusal)) ∧
      (pass.run serve beside).2.tagsOf arn = [] ∧
      (pass.run serve beside).2.tags.get? neighbour = some [old] ∧
      (pass.run serve beside).2.buckets.get? "rows--x-s3"
        = some { policy := some "words" } := by
  intro location desired arn neighbour old alone beside pass refusal
  have addressed : bucketArn desired.name location.region location.account = .ok arn := by
    decide +kernel
  have agree : AgreesOn location desired.name alone beside := by
    refine ⟨rfl, by decide +kernel, fun other own => ?_⟩
    obtain rfl := Except.ok.inj (addressed.symm.trans own)
    decide +kernel
  have failed : (pass.run serve alone).1 = .error (.property "Tagging" (.api refusal)) ∧
      (pass.run serve alone).2.tagsOf arn = [] := by decide +kernel
  obtain ⟨-, result, after, -, untouched, -⟩ := sync_isolated location desired .adopt agree
  refine ⟨agree, result.symm.trans failed.1, (after.tags arn addressed).symm.trans failed.2, ?_, ?_⟩
  · rw [untouched.tags neighbour (by rw [addressed]; decide +kernel)]
    decide +kernel
  · rw [untouched.buckets "rows--x-s3" (by decide +kernel)]
    decide +kernel

end Pass

end BucketSteward

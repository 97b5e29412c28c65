import BucketSteward.Proofs.Discipline
import BucketSteward.Store

/-! What a call does to the store. Every call is logged and none changes which calls fail. A call on
a bucket changes that bucket alone, and of it the part that the call is about; a call that only
reads changes nothing. What is said about one call holds for every pass, being a sequence of
calls. -/
namespace BucketSteward

/-! ## Parts of a stored bucket -/

namespace StoredBucket

/-- Two buckets store the same for a part. -/
def SamePart (a b : StoredBucket) : Part → Prop
  | .setting s => a.setting s = b.setting s
  | .document d => a.document d = b.document d
  | .collection c => a.items c = b.items c
  | .policy => a.policy = b.policy
  | .objectLock => a.objectLock = b.objectLock
  | .acl => a.acl = b.acl

variable (bucket : StoredBucket)

@[simp] theorem setting_withSetting (s : Setting) (value : s.Value) :
    (bucket.withSetting s value).setting s = some value := by
  cases s <;> rfl

@[simp] theorem document_withDocument (d : Document) (content : Option d.Content) :
    (bucket.withDocument d content).document d = content := by
  cases d <;> rfl

@[simp] theorem items_withItems (c : Collection) (items : Keyed c.Item) :
    (bucket.withItems c items).items c = items := by
  cases c <;> rfl

theorem SamePart.refl (part : Part) : SamePart bucket bucket part := by
  cases part <;> rfl

theorem SamePart.symm {a b : StoredBucket} {part : Part} (same : a.SamePart b part) :
    b.SamePart a part := by
  cases part <;> exact Eq.symm same

theorem SamePart.trans {a b c : StoredBucket} {part : Part} (first : a.SamePart b part)
    (second : b.SamePart c part) : a.SamePart c part := by
  cases part <;> exact Eq.trans first second

theorem samePart_withSetting {s : Setting} (value : s.Value) {part : Part}
    (other : part ≠ .setting s) : (bucket.withSetting s value).SamePart bucket part := by
  cases part with
  | setting t =>
    have apart : t ≠ s := fun same => other (same ▸ rfl)
    cases s <;> cases t <;> first | rfl | exact absurd rfl apart
  | document d => cases s <;> cases d <;> rfl
  | collection c => cases s <;> cases c <;> rfl
  | policy | objectLock | acl => cases s <;> rfl

theorem samePart_withDocument {d : Document} (content : Option d.Content) {part : Part}
    (other : part ≠ .document d) : (bucket.withDocument d content).SamePart bucket part := by
  cases part with
  | document e =>
    have apart : e ≠ d := fun same => other (same ▸ rfl)
    cases d <;> cases e <;> first | rfl | exact absurd rfl apart
  | setting s => cases d <;> cases s <;> rfl
  | collection c => cases d <;> cases c <;> rfl
  | policy | objectLock | acl => cases d <;> rfl

theorem samePart_withItems {c : Collection} (items : Keyed c.Item) {part : Part}
    (other : part ≠ .collection c) : (bucket.withItems c items).SamePart bucket part := by
  cases part with
  | collection k =>
    have apart : k ≠ c := fun same => other (same ▸ rfl)
    cases c <;> cases k <;> first | rfl | exact absurd rfl apart
  | setting s => cases c <;> cases s <;> rfl
  | document d => cases c <;> cases d <;> rfl
  | policy | objectLock | acl => cases c <;> rfl

/-- Every item is kept under its own id. -/
def IsKeyed : Prop :=
  ∀ (collection : Collection) id item, (bucket.items collection).get? id = some item →
    collection.id item = id

end StoredBucket

/-! ## One call -/

namespace Call

/-- The bucket that a call writes to, and what it makes of it. -/
def effect? : Call → Option (String × (StoredBucket → StoredBucket))
  | putSetting s bucket value => some (bucket, (·.withSetting s value))
  | putDocument d bucket content => some (bucket, (·.withDocument d (some content)))
  | deleteDocument d bucket => some (bucket, (·.withDocument d none))
  | putPolicy bucket policy confirm => some (bucket, fun stored =>
      { stored with policy := some policy, policyConfirm := confirm })
  | deletePolicy bucket => some (bucket, fun stored => { stored with policy := none })
  | putObjectLock bucket enabled => some (bucket, fun stored =>
      { stored with objectLock := enabled })
  | putAcl bucket grants => some (bucket, fun stored => { stored with lastAclPut := some grants })
  | putItem c bucket item => some (bucket, fun stored =>
      stored.withItems c ((stored.items c).insert (c.id item) item))
  | deleteItem c bucket id => some (bucket, fun stored =>
      stored.withItems c ((stored.items c).erase id))
  | _ => none

variable {call : Call} {name : String} {effect : StoredBucket → StoredBucket}

/-- A call leaves the parts that it is not about as they are. -/
theorem effect_samePart (writes : call.effect? = some (name, effect)) {part : Part}
    (other : call.part? ≠ some part) (stored : StoredBucket) :
    (effect stored).SamePart stored part := by
  cases call with
  | putSetting s bucket value =>
    cases writes
    exact stored.samePart_withSetting value fun same => other (same ▸ rfl)
  | putDocument d bucket content =>
    cases writes
    exact stored.samePart_withDocument _ fun same => other (same ▸ rfl)
  | deleteDocument d bucket =>
    cases writes
    exact stored.samePart_withDocument _ fun same => other (same ▸ rfl)
  | putItem c bucket item =>
    cases writes
    exact stored.samePart_withItems _ fun same => other (same ▸ rfl)
  | deleteItem c bucket id =>
    cases writes
    exact stored.samePart_withItems _ fun same => other (same ▸ rfl)
  | putPolicy _ _ _ | deletePolicy _ | putObjectLock _ _ | putAcl _ _ =>
    cases writes
    cases part with
    | setting s => cases s <;> rfl
    | document d => cases d <;> rfl
    | collection c => cases c <;> rfl
    | policy | objectLock | acl => first | rfl | exact absurd rfl other
  | _ => cases writes

/-- What a call puts into a collection is put under its own id. -/
theorem effect_isKeyed (writes : call.effect? = some (name, effect)) {stored : StoredBucket}
    (keyed : stored.IsKeyed) : (effect stored).IsKeyed := by
  intro collection id item found
  by_cases own : call.part? = some (.collection collection)
  · cases call with
    | putItem c bucket put =>
      cases own
      cases writes
      simp only [StoredBucket.items_withItems, Keyed.get?_insert] at found
      split at found
      case isTrue same =>
        cases found
        exact same.symm
      case isFalse => exact keyed collection id item found
    | deleteItem c bucket deleted =>
      cases own
      cases writes
      simp only [StoredBucket.items_withItems, Keyed.get?_erase] at found
      split at found
      · cases found
      · exact keyed collection id item found
    | listItems _ _ => cases writes
    | _ => cases own
  · have same : (effect stored).items collection = stored.items collection :=
      effect_samePart writes own stored
    exact keyed collection id item (same ▸ found)

end Call
namespace Store

open Call

variable {store : Store} {call : Call} {name : String}

/-- The store after a call was logged. -/
def log (store : Store) (call : Call) : Store :=
  { store with calls := store.calls ++ [call] }

/-- A call fails without doing anything, or it does its work in a store where it is logged. -/
theorem serve_cases (store : Store) (call : Call) :
    (∃ code, store.failures.get? call.operation = some code ∧
      serve call store = (.error ⟨call.operation, some code, "injected failure"⟩, store.log call)) ∨
    (store.failures.get? call.operation = none ∧ serve call store = (store.log call).perform call) := by
  unfold serve
  cases injected : store.failures.get? call.operation with
  | some code => exact .inl ⟨code, rfl, by simp [injected, log]⟩
  | none => exact .inr ⟨rfl, by simp [injected, log]⟩

/-- A call whose operation is not made to fail does its work. -/
theorem serve_spared (call : Call) (spared : store.failures.get? call.operation = none) :
    serve call store = (store.log call).perform call := by
  rcases serve_cases store call with ⟨code, injected, -⟩ | ⟨-, served⟩
  · rw [spared] at injected
    cases injected
  · exact served

/-- None of some operations is made to fail. -/
def Spares (store : Store) (operations : List String) : Prop :=
  ∀ operation ∈ operations, store.failures.get? operation = none

theorem reading_snd {α : Type} (operation bucket : String) (read : StoredBucket → Except ApiError α) :
    (store.reading operation bucket read).2 = store := by
  unfold reading
  split <;> rfl

theorem tagsOf_setTags (store : Store) (tags : List Tag) (arn other : String) :
    (store.setTags arn tags).tagsOf other = if other = arn then tags else store.tagsOf other := by
  unfold tagsOf setTags
  rw [Keyed.get?_insert]
  split <;> rfl

/-- What is left when only the tags of one resource were written, and what these have become. -/
structure Retagged (before : Store) (arn : String) (tags : List Tag) (after : Store) : Prop where
  failures : after.failures = before.failures
  buckets : after.buckets = before.buckets
  own : after.tagsOf arn = tags
  others : ∀ other, other ≠ arn → after.tags.get? other = before.tags.get? other

namespace Retagged

variable {before middle after : Store} {arn : String} {first tags : List Tag}

theorem refl (store : Store) (arn : String) : store.Retagged arn (store.tagsOf arn) store :=
  ⟨rfl, rfl, rfl, fun _ _ => rfl⟩

theorem trans (earlier : before.Retagged arn first middle) (later : middle.Retagged arn tags after) :
    before.Retagged arn tags after where
  failures := later.failures.trans earlier.failures
  buckets := later.buckets.trans earlier.buckets
  own := later.own
  others other apart := (later.others other apart).trans (earlier.others other apart)

theorem spares {operations : List String} (written : before.Retagged arn tags after)
    (spared : before.Spares operations) : after.Spares operations := by
  intro operation among
  rw [written.failures, spared operation among]

theorem tagsOf (written : before.Retagged arn tags after) (other : String) :
    after.tagsOf other = if other = arn then tags else before.tagsOf other := by
  split
  case isTrue same => rw [same, written.own]
  case isFalse apart => rw [Store.tagsOf, Store.tagsOf, written.others other apart]

end Retagged

theorem setTags_retagged (store : Store) (arn : String) (tags : List Tag) :
    store.Retagged arn tags (store.setTags arn tags) where
  failures := rfl
  buckets := rfl
  own := (tagsOf_setTags store tags arn arn).trans (if_pos rfl)
  others _ apart := (Keyed.get?_insert _ _ _ _).trans (if_neg apart)

theorem log_retagged (store : Store) (call : Call) (arn : String) :
    store.Retagged arn (store.tagsOf arn) (store.log call) :=
  ⟨rfl, rfl, rfl, fun _ _ => rfl⟩

/-- Removing keys succeeds, also where nothing is tagged. -/
theorem perform_untag (store : Store) (account arn : String) (keys : List String) :
    ∃ after, store.perform (.untag account arn keys) = (.ok (), after) ∧
      store.Retagged arn (removeKeys (store.tagsOf arn) keys) after := by
  simp only [perform]
  cases tagged : store.tags.get? arn with
  | some tags =>
    have current : store.tagsOf arn = tags := by rw [tagsOf, tagged, Option.getD_some]
    rw [current]
    exact ⟨_, rfl, setTags_retagged store arn _⟩
  | none =>
    have none : removeKeys (store.tagsOf arn) keys = store.tagsOf arn := by
      rw [tagsOf, tagged]
      rfl
    rw [none]
    exact ⟨_, rfl, .refl store arn⟩

/-- A call that only reads leaves the store as it is. -/
theorem perform_of_reads (reads : call.mutates = false) (store : Store) :
    (store.perform call).2 = store := by
  cases call with
  | getSetting _ _ | getDocument _ _ | getPolicy _ | getObjectLock _ | getAcl _ | listItems _ _ =>
    exact reading_snd _ _ _
  | listBuckets | listDirectoryBuckets | listTags _ _ => rfl
  | _ => cases reads

theorem serve_of_reads (reads : call.mutates = false) (store : Store) :
    (serve call store).2 = store.log call := by
  rcases serve_cases store call with ⟨code, -, served⟩ | ⟨-, served⟩
  · rw [served]
  · rw [served, perform_of_reads reads]

theorem writing_eq (store : Store) (name operation : String) (effect : StoredBucket → StoredBucket) :
    (∃ stored, store.buckets.get? name = some stored ∧
      store.writing operation name effect = (.ok (), store.setBucket name (effect stored))) ∨
    (store.buckets.get? name = none ∧ ∃ e, store.writing operation name effect = (.error e, store)) := by
  unfold writing
  cases store.buckets.get? name with
  | some stored => exact .inl ⟨stored, rfl, rfl⟩
  | none => exact .inr ⟨rfl, _, rfl⟩

/-- A call that writes to a bucket changes what is stored there, if anything is. -/
theorem perform_of_effect (store : Store) {effect : StoredBucket → StoredBucket}
    (writes : call.effect? = some (name, effect)) :
    (∃ stored reply, store.buckets.get? name = some stored ∧
      store.perform call = (.ok reply, store.setBucket name (effect stored))) ∨
    (store.buckets.get? name = none ∧ ∃ e, store.perform call = (.error e, store)) := by
  cases call with
  | putSetting _ _ _ | putDocument _ _ _ | deleteDocument _ _ | putPolicy _ _ _ | deletePolicy _
  | putObjectLock _ _ | putAcl _ _ | putItem _ _ _ | deleteItem _ _ _ =>
    obtain ⟨rfl, rfl⟩ := Prod.mk.inj (Option.some.inj writes)
    rcases writing_eq store _ _ _ with ⟨stored, found, done⟩ | missing
    · exact .inl ⟨stored, (), found, done⟩
    · exact .inr missing
  | _ => cases writes

/-- What a call can do to the buckets. -/
theorem serve_buckets (store : Store) (call : Call) :
    (serve call store).2.buckets = store.buckets ∨
    (∃ name effect stored, call.effect? = some (name, effect) ∧
      store.buckets.get? name = some stored ∧
      (serve call store).2.buckets = store.buckets.insert name (effect stored)) ∨
    (∃ creation, call = .createBucket creation ∧ store.buckets.get? creation.bucket = none ∧
      (serve call store).2.buckets = store.buckets.insert creation.bucket (newBucket creation)) ∨
    ∃ name, call = .deleteBucket name ∧ (serve call store).2.buckets = store.buckets.erase name := by
  rcases serve_cases store call with ⟨code, -, served⟩ | ⟨-, served⟩
  · exact .inl (by rw [served]; rfl)
  · rw [served]
    cases effects : call.effect? with
    | some write =>
      obtain ⟨name, effect⟩ := write
      rcases perform_of_effect (store.log call) effects with
        ⟨stored, reply, found, done⟩ | ⟨-, e, done⟩
      · exact .inr (.inl ⟨name, effect, stored, rfl, found, by rw [done]; rfl⟩)
      · exact .inl (by rw [done]; rfl)
    | none =>
      cases call with
      | createBucket creation =>
        simp only [perform]
        split
        case isTrue => exact .inl rfl
        case isFalse absent =>
          exact .inr (.inr (.inl ⟨creation, rfl, by simpa [Keyed.contains, log] using absent, rfl⟩))
      | deleteBucket name =>
        simp only [perform]
        split
        · exact .inr (.inr (.inr ⟨name, rfl, rfl⟩))
        · exact .inl rfl
      | tag _ _ _ => exact .inl rfl
      | untag _ arn _ =>
        simp only [perform]
        split <;> exact .inl rfl
      | listBuckets | listDirectoryBuckets | getSetting _ _ | getDocument _ _ | getPolicy _
      | getObjectLock _ | getAcl _ | listItems _ _ | listTags _ _ =>
        exact .inl (by rw [perform_of_reads rfl]; rfl)
      | _ => cases effects

/-- What a call does leaves the log as it is. -/
theorem perform_calls (store : Store) (call : Call) : (store.perform call).2.calls = store.calls := by
  cases effects : call.effect? with
  | some write =>
    rcases perform_of_effect store effects with ⟨stored, reply, -, done⟩ | ⟨-, e, done⟩
    · rw [done]
      rfl
    · rw [done]
  | none =>
    cases call with
    | createBucket _ | deleteBucket _ | untag _ _ _ =>
      simp only [perform]
      split <;> rfl
    | tag _ _ _ => rfl
    | listBuckets | listDirectoryBuckets | getSetting _ _ | getDocument _ _ | getPolicy _
    | getObjectLock _ | getAcl _ | listItems _ _ | listTags _ _ => rw [perform_of_reads rfl]
    | _ => cases effects

/-- Every call is logged. -/
theorem serve_calls (store : Store) (call : Call) :
    (serve call store).2.calls = store.calls ++ [call] := by
  rcases serve_cases store call with ⟨code, -, served⟩ | ⟨-, served⟩
  · rw [served]
    rfl
  · rw [served]
    exact perform_calls (store.log call) call

/-- A call on a part leaves a bucket as it is or has its effect on it. -/
theorem serve_get? (own : call.part? ≠ none) (store : Store) (name : String) :
    (serve call store).2.buckets.get? name = store.buckets.get? name ∨
    ∃ effect stored, call.effect? = some (name, effect) ∧ store.buckets.get? name = some stored ∧
      (serve call store).2.buckets.get? name = some (effect stored) := by
  rcases serve_buckets store call with same | ⟨written, effect, stored, writes, here, same⟩ |
    ⟨creation, rfl, -⟩ | ⟨deleted, rfl, -⟩
  · exact .inl (by rw [same])
  · rw [same, Keyed.get?_insert]
    by_cases target : name = written
    · subst target
      exact .inr ⟨effect, stored, writes, here, if_pos rfl⟩
    · exact .inl (if_neg target)
  · exact absurd rfl own
  · exact absurd rfl own

/-- A write that succeeds had its effect. -/
theorem serve_of_ok {effect : StoredBucket → StoredBucket} {reply : call.Reply}
    (writes : call.effect? = some (name, effect)) (done : (serve call store).1 = .ok reply) :
    ∃ stored, store.buckets.get? name = some stored ∧
      (serve call store).2.buckets.get? name = some (effect stored) := by
  rcases serve_cases store call with ⟨code, -, served⟩ | ⟨-, served⟩
  · rw [served] at done
    cases done
  · rcases perform_of_effect (store.log call) writes with
      ⟨stored, answer, found, performed⟩ | ⟨-, e, performed⟩
    · refine ⟨stored, found, ?_⟩
      rw [served, performed]
      exact (Keyed.get?_insert _ _ _ _).trans (if_pos rfl)
    · rw [served, performed] at done
      cases done

/-- A creation that succeeds makes a new bucket. -/
theorem serve_created {creation : BucketCreation} {reply : Call.Reply (.createBucket creation)}
    (done : (serve (.createBucket creation) store).1 = .ok reply) :
    (serve (.createBucket creation) store).2.buckets.get? creation.bucket
      = some (newBucket creation) := by
  rcases serve_cases store (.createBucket creation) with ⟨code, -, served⟩ | ⟨-, served⟩
  · rw [served] at done
    cases done
  · rw [served] at done ⊢
    simp only [perform] at done ⊢
    split at done
    · cases done
    case isFalse absent =>
      rw [if_neg absent]
      exact (Keyed.get?_insert _ _ _ _).trans (if_pos rfl)

/-- A bucket is stored under a name and has a property. -/
def Has (store : Store) (name : String) (property : StoredBucket → Prop) : Prop :=
  ∃ stored, store.buckets.get? name = some stored ∧ property stored

/-- A call on a part keeps a property of what is stored that its effect keeps. -/
theorem serve_has_of {property : StoredBucket → Prop} (own : call.part? ≠ none)
    (keeps : ∀ effect stored, call.effect? = some (name, effect) → property stored →
      property (effect stored)) (has : store.Has name property) :
    (serve call store).2.Has name property := by
  obtain ⟨stored, found, holds⟩ := has
  rcases serve_get? own store name with same | ⟨effect, there, writes, here, after⟩
  · exact ⟨stored, same.trans found, holds⟩
  · obtain rfl := Option.some.inj (found.symm.trans here)
    exact ⟨_, after, keeps effect stored writes holds⟩

/-- A call on another part keeps what depends on a part alone. -/
theorem serve_has {part : Part} {property : StoredBucket → Prop}
    (alone : ∀ a b, a.SamePart b part → property b → property a) (own : call.part? ≠ none)
    (other : call.part? ≠ some part) (has : store.Has name property) :
    (serve call store).2.Has name property :=
  serve_has_of own
    (fun _ stored writes => alone _ _ (Call.effect_samePart writes other stored)) has

/-- What is left when only one bucket was written to, and what that bucket has become. -/
structure Rewritten (before : Store) (name : String) (bucket : StoredBucket) (after : Store) :
    Prop where
  failures : after.failures = before.failures
  tags : after.tags = before.tags
  here : after.buckets.get? name = some bucket
  others : ∀ other, other ≠ name → after.buckets.get? other = before.buckets.get? other

namespace Rewritten

variable {before middle after : Store} {bucket first : StoredBucket}

theorem refl (found : store.buckets.get? name = some bucket) : store.Rewritten name bucket store :=
  ⟨rfl, rfl, found, fun _ _ => rfl⟩

theorem trans (earlier : before.Rewritten name first middle)
    (later : middle.Rewritten name bucket after) : before.Rewritten name bucket after where
  failures := later.failures.trans earlier.failures
  tags := later.tags.trans earlier.tags
  here := later.here
  others other apart := (later.others other apart).trans (earlier.others other apart)

theorem spares {operations : List String} (written : before.Rewritten name bucket after)
    (spared : before.Spares operations) : after.Spares operations := by
  intro operation among
  rw [written.failures, spared operation among]

end Rewritten

/-- A write that is not made to fail, to a bucket that is there, has its effect on that bucket and on
nothing else. -/
theorem write_succeeds {label : CallLabel} {effect : StoredBucket → StoredBucket}
    {stored : StoredBucket} (writes : call.effect? = some (name, effect))
    (spared : store.failures.get? call.operation = none)
    (found : store.buckets.get? name = some stored) :
    ∃ reply after, (Pass.call label call).Succeeds serve store [call] reply after ∧
      store.Rewritten name (effect stored) after := by
  have served := serve_spared call spared
  rcases perform_of_effect (store.log call) writes with ⟨there, reply, here, done⟩ | ⟨missing, -⟩
  · obtain rfl : stored = there := Option.some.inj (found.symm.trans here)
    refine ⟨reply, _, Pass.call_succeeds (served.trans done), rfl, rfl, ?_, fun other apart => ?_⟩
    · exact (Keyed.get?_insert _ _ _ _).trans (if_pos rfl)
    · exact (Keyed.get?_insert _ _ _ _).trans (if_neg apart)
  · exact absurd (found.symm.trans missing) (by simp)

/-! ## Items under their own ids -/

/-- In every bucket every item is kept under its own id. -/
def IsKeyed (store : Store) : Prop :=
  ∀ name stored, store.buckets.get? name = some stored → stored.IsKeyed

theorem newBucket_isKeyed (creation : BucketCreation) : (newBucket creation).IsKeyed := by
  intro collection id item found
  cases collection <;> cases found

theorem serve_isKeyed (keyed : store.IsKeyed) (call : Call) : (serve call store).2.IsKeyed := by
  intro name after found
  rcases serve_buckets store call with same | ⟨written, effect, stored, writes, here, same⟩ |
    ⟨creation, rfl, -, same⟩ | ⟨deleted, rfl, same⟩
  · exact keyed name after (same ▸ found)
  · rw [same, Keyed.get?_insert] at found
    split at found
    · obtain rfl := Option.some.inj found
      exact effect_isKeyed writes (keyed written stored here)
    · exact keyed name after found
  · rw [same, Keyed.get?_insert] at found
    split at found
    · obtain rfl := Option.some.inj found
      exact newBucket_isKeyed creation
    · exact keyed name after found
  · rw [same, Keyed.get?_erase] at found
    split at found
    · cases found
    · exact keyed name after found

/-! ## Passes -/

section Passes
variable {α : Type}

/-- The calls of a pass are logged in the order in which they are made. -/
theorem run_calls (pass : Pass α) (store : Store) :
    (pass.run serve store).2.calls = store.calls ++ (pass.trace serve store).map (·.1) := by
  induction pass generalizing store with
  | done result => simp [Program.run, Program.trace]
  | ask call rest ih =>
    simp only [Program.run, Program.trace, List.map_cons]
    rw [ih, serve_calls, List.append_assoc, List.singleton_append]
  | note entry rest ih => exact ih store

/-- What every call keeps, every pass keeps. -/
theorem run_invariant (inv : Store → Prop) (keeps : ∀ call store, inv store → inv (serve call store).2)
    (pass : Pass α) {store : Store} (start : inv store) : inv (pass.run serve store).2 := by
  induction pass generalizing store with
  | done result => exact start
  | ask call rest ih => exact ih _ (keeps call store start)
  | note entry rest ih => exact ih start

/-- What a call that only reads is answered does not depend on what was asked before. -/
theorem answer_of_reads (reads : call.mutates = false) (store : Store) (calls : List Call) :
    (serve call { store with calls := calls }).1 = (serve call store).1 := by
  have performed (a b : Store) (buckets : a.buckets = b.buckets) (tags : a.tags = b.tags) :
      (a.perform call).1 = (b.perform call).1 := by
    cases call with
    | getSetting _ _ | getDocument _ _ | getPolicy _ | getObjectLock _ | getAcl _ | listItems _ _ =>
      simp only [perform, reading, buckets]
      split <;> rfl
    | listBuckets | listDirectoryBuckets => simp only [perform, buckets]
    | listTags _ _ => simp only [perform, tagsOf, tags]
    | _ => cases reads
  unfold serve
  simp only
  split
  · rfl
  · exact performed _ _ rfl rfl

/-- A pass that only reads leaves everything but the log as it is, and its result is that of the
answers to single calls. -/
theorem run_of_reads {pass : Pass α} (reads : pass.Uses fun call : Call => call.mutates = false)
    (store : Store) : ∃ calls, (∀ call ∈ calls, call.mutates = false) ∧
      pass.run serve store = (pass.resolve fun call : Call => (serve call store).1,
        { store with calls := store.calls ++ calls }) := by
  let inv (other : Store) : Prop := ∃ calls : List Call, (∀ call ∈ calls, call.mutates = false) ∧
    other = { store with calls := store.calls ++ calls }
  have start : inv store := ⟨[], by simp, by rw [List.append_nil]⟩
  have fixed (call : Call) (other : Store) (read : call.mutates = false) (same : inv other) :
      (serve call other).1 = (serve call store).1 ∧ inv (serve call other).2 := by
    obtain ⟨calls, all, rfl⟩ := same
    refine ⟨answer_of_reads read store _, calls ++ [call], ?_, ?_⟩
    · intro other among
      rcases List.mem_append.mp among with among | own
      · exact all other among
      · rw [List.mem_singleton.mp own]
        exact read
    · rw [serve_of_reads read, log, List.append_assoc]
  have result := reads.run_eq_resolve (fun call : Call => (serve call store).1) serve inv fixed start
  have final := (reads.invariant serve inv
    (fun call other read same => (fixed call other read same).2) start).2
  obtain ⟨calls, all, final⟩ := final
  exact ⟨calls, all, Prod.ext result final⟩

end Passes

/-! ## Reachable stores -/

/-- The stores that are reached from one that keeps every item under its own id, by calls and by
whole passes, while operations are made to fail and let succeed again. -/
inductive Reached : Store → Prop where
  | start {store : Store} (keyed : store.IsKeyed) : Reached store
  | call {store : Store} (before : Reached store) (call : Call) : Reached (serve call store).2
  | pass {α : Type} {store : Store} (before : Reached store) (pass : Pass α) :
      Reached (pass.run serve store).2
  | failing {store : Store} (before : Reached store) (failures : Keyed String) :
      Reached { store with failures := failures }

theorem Reached.isKeyed {store : Store} (reached : Reached store) : store.IsKeyed := by
  induction reached with
  | start keyed => exact keyed
  | call _ call ih => exact serve_isKeyed ih call
  | pass _ pass ih =>
    exact run_invariant IsKeyed (fun call _ keyed => serve_isKeyed keyed call) pass ih
  | failing _ _ ih => exact ih

end Store

end BucketSteward

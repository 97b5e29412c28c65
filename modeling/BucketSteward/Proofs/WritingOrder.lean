import BucketSteward.Proofs.Settling

/-! The order in which a specification writes its items and its tags carries no meaning: items are known
by their ids and tags by their keys, and both are sorted before anything is made of them. So two
specifications that differ only in that order are normalized to one and the same, whatever was observed,
and a pass over a bucket that exists is the same for both, call by call, while any calls are made to
fail. -/
namespace BucketSteward

open Store Program

/-! ## Rearranged specifications -/

namespace BucketSpec

/-- Two specifications differ at most in the order of their items and of their tags. -/
structure Rearranged (a b : BucketSpec) : Prop where
  others : b = { a with
    analytics := b.analytics
    intelligentTiering := b.intelligentTiering
    inventory := b.inventory
    metrics := b.metrics
    tagging := b.tagging }
  items (c : Collection) : Option.Rel List.Perm (a.collection c) (b.collection c)
  tags : Option.Rel (fun x y : Tagging => Option.Rel List.Perm x.tagSet y.tagSet) a.tagging b.tagging

/-- No two items of a list have one id, and no two tags have one key. -/
structure HasDistinctNames (spec : BucketSpec) : Prop where
  ids (c : Collection) (items : List c.Item) : spec.collection c = some items → (items.map c.id).Nodup
  keys (tagging : Tagging) (tags : List Tag) :
    spec.tagging = some tagging → tagging.tagSet = some tags → (tags.map (·.key)).Nodup

/-- What becomes of an observed document does not depend on the arrangement of the desired one. -/
theorem keptDocument_arranged (desired observed : BucketSpec) (d : Document) :
    (desired.keptDocument observed d).map d.arrange = unlessDeleted d.isConfigured
      ((desired.filledDocument observed d).map d.arrange) ((observed.document d).map d.arrange) := by
  rw [keptDocument, unlessDeleted, unlessDeleted]
  cases observed.document d with
  | some content => rfl
  | none =>
    cases desired.filledDocument observed d with
    | none => rfl
    | some content =>
      simp only [Option.map_none, Option.orElse_none, Option.map_some, Option.filter_some,
        d.isConfigured_arrange]
      split <;> rfl

namespace Rearranged

variable {a b observed : BucketSpec} (rearranged : a.Rearranged b) (distinct : a.HasDistinctNames)
include rearranged

theorem name : a.name = b.name := by
  rw [rearranged.others]

theorem placement : a.createBucketConfiguration = b.createBucketConfiguration := by
  rw [rearranged.others]

/-- The same is said about every part that is neither a collection nor the tags. -/
theorem saysSame (part : Part) (single : ∀ c, part ≠ .collection c)
    (untagged : part ≠ .document .tagging) : a.SaysSame b part := by
  rw [rearranged.others]
  cases part with
  | setting s => cases s <;> rfl
  | document d =>
    cases d with
    | tagging => exact absurd rfl untagged
    | _ => rfl
  | collection c => exact absurd rfl (single c)
  | policy | objectLock | acl => rfl

theorem isSome_collection (c : Collection) :
    (a.collection c).isSome = (b.collection c).isSome := by
  have same := rearranged.items c
  generalize a.collection c = items at same ⊢
  generalize b.collection c = others at same ⊢
  cases same <;> rfl

/-- What a directory bucket can not carry is in both specifications or in neither. -/
theorem validate : a.validate = b.validate := by
  have analytics : a.analytics.isSome = b.analytics.isSome := rearranged.isSome_collection .analytics
  have tiering : a.intelligentTiering.isSome = b.intelligentTiering.isSome :=
    rearranged.isSome_collection .intelligentTiering
  have inventory : a.inventory.isSome = b.inventory.isSome := rearranged.isSome_collection .inventory
  have metrics : a.metrics.isSome = b.metrics.isSome := rearranged.isSome_collection .metrics
  have parts : a.unsupported = b.unsupported := by
    rw [rearranged.others]
    simp only [unsupported, generalParts, analytics, tiering, inventory, metrics]
  rw [BucketSpec.validate, BucketSpec.validate, parts, rearranged.name]

include distinct

/-- Items come out in one order, whichever they are written in. -/
theorem filledItems (observed : BucketSpec) (c : Collection) :
    a.filledItems observed c = b.filledItems observed c := by
  have same := rearranged.items c
  have ids := distinct.ids c
  rw [BucketSpec.filledItems, BucketSpec.filledItems]
  generalize a.collection c = items at same ids ⊢
  generalize b.collection c = others at same ⊢
  cases same with
  | none => rfl
  | some perm => exact congrArg some (Collection.byId_of_perm (ids _ rfl) perm)

/-- Tags come out in one order, whichever they are written in. -/
theorem filledTagging (observed : BucketSpec) :
    (a.filledDocument observed .tagging).map Tagging.inOrder
      = (b.filledDocument observed .tagging).map Tagging.inOrder := by
  have same := rearranged.tags
  have keys := distinct.keys
  show (filled _ a.tagging observed.tagging).map Tagging.inOrder
    = (filled _ b.tagging observed.tagging).map Tagging.inOrder
  generalize a.tagging = tagging at same keys ⊢
  generalize b.tagging = others at same ⊢
  cases same with
  | none => rfl
  | @some left right same =>
    have sorted : left.tagSet.map Tag.inOrder = right.tagSet.map Tag.inOrder := by
      have keys := keys left
      generalize left.tagSet = tags at same keys ⊢
      generalize right.tagSet = others at same ⊢
      cases same with
      | none => rfl
      | some perm => exact congrArg some (Tag.inOrder_of_perm (keys _ rfl rfl) perm)
    exact congrArg some (congrArg Tagging.mk sorted)

/-- Documents are compared in one arrangement, whichever they are written in. -/
theorem arranged (observed : BucketSpec) (d : Document) :
    (a.filledDocument observed d).map d.arrange = (b.filledDocument observed d).map d.arrange := by
  by_cases tags : d = .tagging
  · subst tags
    exact rearranged.filledTagging distinct observed
  · have same : a.document d = b.document d :=
      rearranged.saysSame (.document d) (by simp) (by simpa using tags)
    rw [filledDocument, filledDocument, same]

theorem normalizedDesired (observed : BucketSpec) :
    a.normalizedDesired observed = b.normalizedDesired observed := by
  refine eq_iff_says_same.mpr ⟨rearranged.name, rearranged.placement, fun part => ?_⟩
  cases part with
  | setting s =>
    have same : a.setting s = b.setting s := rearranged.saysSame (.setting s) (by simp) (by simp)
    rw [SaysSame, normalizedDesired_setting, normalizedDesired_setting, filledSetting, filledSetting, same]
  | document d =>
    rw [SaysSame, normalizedDesired_document, normalizedDesired_document,
      rearranged.arranged distinct observed d]
  | collection c =>
    rw [SaysSame, normalizedDesired_collection, normalizedDesired_collection,
      rearranged.filledItems distinct observed c]
  | policy => exact rearranged.saysSame .policy (by simp) (by simp)
  | objectLock => exact rearranged.saysSame .objectLock (by simp) (by simp)
  | acl =>
    have same : a.aclTexts = b.aclTexts := rearranged.saysSame .acl (by simp) (by simp)
    rw [SaysSame, (normalized_aclTexts _ _).1, (normalized_aclTexts _ _).1, same]

theorem normalizedObserved (observed : BucketSpec) :
    a.normalizedObserved observed = b.normalizedObserved observed := by
  refine eq_iff_says_same.mpr ⟨rfl, rfl, fun part => ?_⟩
  cases part with
  | setting s => rw [SaysSame, normalizedObserved_setting, normalizedObserved_setting]
  | document d =>
    rw [SaysSame, normalizedObserved_document, normalizedObserved_document, keptDocument_arranged,
      keptDocument_arranged, rearranged.arranged distinct observed d]
  | collection c => rw [SaysSame, normalizedObserved_collection, normalizedObserved_collection]
  | policy => rfl
  | objectLock =>
    have same : a.objectLockEnabledForBucket = b.objectLockEnabledForBucket :=
      rearranged.saysSame .objectLock (by simp) (by simp)
    show a.objectLockEnabledForBucket.bind _ = b.objectLockEnabledForBucket.bind _
    rw [same]
  | acl =>
    have same : a.aclTexts = b.aclTexts := rearranged.saysSame .acl (by simp) (by simp)
    rw [SaysSame, (normalized_aclTexts _ _).2, (normalized_aclTexts _ _).2, same]

end Rearranged

end BucketSpec

/-! ## Passes -/

namespace Pass

variable {α : Type} {location : Location} {adoption : AdoptionPolicy} {store : Store} {a b : BucketSpec}

/-- Two passes make the same calls from a store, in the same states, end alike and leave the same. -/
structure SameFrom (store : Store) (first second : Pass α) : Prop where
  trace : first.trace serve store = second.trace serve store
  run : first.run serve store = second.run serve store

theorem SameFrom.bind {β : Type} {first : Pass α} {next other : α → Pass β}
    (same : ∀ value after, first.run serve store = (.ok value, after) → SameFrom after (next value) (other value)) :
    SameFrom store (first.bind next) (first.bind other) := by
  constructor
  · rw [trace_bind, trace_bind]
    rcases ran : first.run serve store with ⟨fault | value, after⟩
    · rfl
    · simp only [(same value after ran).trace]
  · rw [run_bind, run_bind]
    rcases ran : first.run serve store with ⟨fault | value, after⟩
    · rfl
    · exact (same value after ran).run

/-- A bucket that exists can not be created. -/
theorem createBucket_fails {label : CallLabel} (creation : BucketCreation) {stored : StoredBucket}
    (there : store.buckets.get? creation.bucket = some stored) (reply : (Call.createBucket creation).Reply)
    (after : Store) : (Pass.call label (.createBucket creation)).run serve store ≠ (.ok reply, after) := by
  intro ran
  have served := run_call ran
  have taken : (store.log (.createBucket creation)).buckets.contains creation.bucket = true := by
    rw [Keyed.contains, Store.log, there]
    rfl
  rcases serve_cases store (.createBucket creation) with ⟨code, -, failed⟩ | ⟨-, performed⟩
  · rw [failed] at served
    cases served
  · simp only [performed, perform, taken, if_true] at served
    cases served

theorem create_eq (location : Location) {desired : BucketSpec} {creation : BucketCreation}
    (same : desired.creation = creation) :
    create location desired =
      (Pass.call ⟨.create, "CreateBucket"⟩ (.createBucket creation)).bind fun created =>
      (writeStated location desired).bind fun _ => .done (.ok created) := by
  subst same
  rfl

section Rearranged
variable (rearranged : a.Rearranged b)
include rearranged

/-- A search looks at the name and the placement alone. -/
theorem find_rearranged (location : Location) : find location a = find location b := by
  unfold find readObserved
  rw [rearranged.name, rearranged.placement]

/-- A creation sends neither items nor tags. -/
theorem creation_rearranged : b.creation = a.creation := by
  rw [rearranged.others]
  rfl

theorem settle_rearranged (distinct : a.HasDistinctNames) (location : Location) (observed : BucketSpec) :
    settle location a observed = settle location b observed := by
  rw [settle_eq, settle_eq, rearranged.normalizedDesired distinct observed,
    rearranged.normalizedObserved distinct observed]

/-- What follows the search is the same where the bucket exists: it is settled alike, or its creation
fails before anything else is sent. -/
theorem conclude_rearranged (distinct : a.HasDistinctNames) {stored : StoredBucket}
    (there : store.buckets.get? a.name = some stored) (arn : String) (found : Option BucketSpec) :
    SameFrom store (conclude location a adoption arn found) (conclude location b adoption arn found) := by
  cases found with
  | some observed =>
    simp only [conclude, settle_rearranged rearranged distinct]
    exact ⟨rfl, rfl⟩
  | none =>
    have first := create_eq location (rfl : a.creation = a.creation)
    have second := create_eq location (creation_rearranged rearranged)
    simp only [conclude, ← rearranged.name, first, second, bind_eq, bind_assoc]
    split
    · exact ⟨rfl, rfl⟩
    · refine SameFrom.bind fun created after ran => absurd ran ?_
      exact createBucket_fails a.creation there created after

end Rearranged

/-- **The order of writing has no influence on a bucket that exists.** Two specifications that differ only
in the order of their items, known by different ids, and of their tags, with different keys, are one to a
pass over a bucket that exists, while any calls are made to fail: it makes the same calls in the same
states, ends alike and leaves the same. -/
theorem sync_rearranged (rearranged : a.Rearranged b) (distinct : a.HasDistinctNames) {stored : StoredBucket}
    (there : store.buckets.get? a.name = some stored) :
    (sync location a adoption).trace serve store = (sync location b adoption).trace serve store ∧
      (sync location a adoption).run serve store = (sync location b adoption).run serve store := by
  have same : SameFrom store (sync location a adoption) (sync location b adoption) := by
    rw [sync_eq, sync_eq, ← rearranged.validate, ← rearranged.name, ← find_rearranged rearranged]
    refine SameFrom.bind fun arn accepted valid => SameFrom.bind fun found after searched => ?_
    obtain ⟨-, rfl⟩ := Prod.mk.inj valid
    obtain ⟨calls, -, ran⟩ := run_of_reads (find_reads location a) store
    obtain ⟨-, rfl⟩ := Prod.mk.inj (ran.symm.trans searched)
    have still : ({ store with calls := store.calls ++ calls } : Store).buckets.get? a.name = some stored :=
      there
    exact conclude_rearranged rearranged distinct still arn found
  exact ⟨same.trace, same.run⟩

/-- Two metrics and two tags are written alike in either order, up to the call that is made to fail. -/
theorem reordered_metrics_written_alike :
    let tag (key : String) : Tag := ⟨some key, some "x"⟩
    let spec (metrics : List String) (tags : List Tag) : BucketSpec := {
      name := "ledger"
      metrics := some (metrics.map fun id => { id := some id })
      tagging := some ⟨some tags⟩ }
    let first := spec ["reads", "all"] [tag "stage", tag "owner"]
    let second := spec ["all", "reads"] [tag "owner", tag "stage"]
    let store : Store := ({ buckets := Keyed.ofList [("ledger", {})] } : Store).fail
      "PutBucketTagging" "InternalError"
    let ran (desired : BucketSpec) := (sync ⟨none, "eu-west-1"⟩ desired .adopt).run serve store
    first.Rearranged second ∧ first.HasDistinctNames ∧
      store.buckets.get? first.name = some {} ∧
      ((ran first).2.calls.filter (·.mutates)).map (·.listing) = ["PutBucketMetricsConfiguration:all",
        "PutBucketMetricsConfiguration:reads", "PutBucketRequestPayment", "PutBucketTagging"] ∧
      ran first = ran second := by
  intro tag spec first second store ran
  have rearranged : first.Rearranged second := by
    refine ⟨rfl, fun c => ?_, .some (.some (.swap _ _ _))⟩
    cases c with
    | metrics => exact .some (.swap _ _ _)
    | _ => exact .none
  have distinct : first.HasDistinctNames := by
    constructor
    · intro c items written
      cases c with
      | metrics =>
        cases written
        decide
      | _ => cases written
    · intro tagging tags written set
      cases written
      cases set
      decide
  have there : store.buckets.get? first.name = some {} := by decide
  have sent : ((ran first).2.calls.filter (·.mutates)).map (·.listing) = [
      "PutBucketMetricsConfiguration:all", "PutBucketMetricsConfiguration:reads",
      "PutBucketRequestPayment", "PutBucketTagging"] := by decide +kernel
  exact ⟨rearranged, distinct, there, sent, (sync_rearranged rearranged distinct there).2⟩

end Pass

end BucketSteward

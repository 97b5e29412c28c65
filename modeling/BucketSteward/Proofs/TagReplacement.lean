import BucketSteward.Proofs.Serving
import BucketSteward.Proofs.TagSets
import BucketSteward.Sync.Tags

/-! Replacing the tags of a resource. The tag service adds tags and removes keys; taking away the
keys that are not desired and then setting the desired tags leaves just these, in their order, if
every tag has a key and the desired keys are different. Between the two every tag still has a key, so
a replacement that is cut off can be repeated. -/
namespace BucketSteward

namespace Store

/-- The operations on the tags of a resource. -/
def tagOperations : List String := ["ListTagsForResource", "TagResource", "UntagResource"]

variable {tags : List Tag}

theorem removeKeys_nil (tags : List Tag) : removeKeys tags [] = tags := by
  rw [removeKeys, List.filter_eq_self]
  intro tag _
  cases tag.key <;> rfl

theorem foldl_setTag_keyed {current : List Tag} (keyed : ∀ tag ∈ current, tag.key ≠ none)
    (present : ∀ tag ∈ tags, tag.key ≠ none) : ∀ tag ∈ tags.foldl setTag current, tag.key ≠ none := by
  induction tags generalizing current with
  | nil => exact keyed
  | cons first rest ih =>
    refine ih (fun tag among => ?_) fun tag later => present tag (List.mem_cons_of_mem _ later)
    rcases List.mem_append.mp among with old | new
    · exact keyed tag (List.mem_filter.mp old).1
    · exact List.mem_singleton.mp new ▸ present first List.mem_cons_self

end Store

/-- The keys of some tags that no desired tag has. -/
def staleKeys (current desired : List Tag) : List String :=
  (current.filterMap (·.key)).filter (!(desired.filterMap (·.key)).contains ·)

theorem mem_staleKeys {current desired : List Tag} {key : String} :
    key ∈ staleKeys current desired ↔
      some key ∈ current.map (·.key) ∧ some key ∉ desired.map (·.key) := by
  simp only [staleKeys, List.mem_filter, List.mem_filterMap, List.mem_map, Bool.not_eq_true',
    List.contains_eq_mem, decide_eq_false_iff_not]

namespace Pass

open Program Store

variable {store : Store} {account arn : String}

/-! ## Single calls -/

theorem currentTags_succeeds (account arn : String) (spared : store.Spares tagOperations) :
    (currentTags account arn).Succeeds serve store [.listTags account arn] (store.tagsOf arn)
      (store.log (.listTags account arn)) := by
  have served := serve_spared (.listTags account arn)
    (spared _ (by simp [tagOperations, Call.operation]))
  exact (callUnless_succeeds served).map (·.getD [])

/-- No call is made where there is no key to remove. -/
theorem untag_succeeds (account arn : String) (spared : store.Spares tagOperations)
    (keys : List String) :
    ∃ after, (untag account arn keys).Succeeds serve store
        (if keys = [] then [] else [.untag account arn keys]) () after ∧
      store.Retagged arn (removeKeys (store.tagsOf arn) keys) after := by
  unfold untag
  by_cases none : keys = []
  · rw [if_pos none, none, removeKeys_nil]
    exact ⟨store, .done () store, .refl store arn⟩
  · have served := serve_spared (.untag account arn keys)
      (spared _ (by simp [tagOperations, Call.operation]))
    obtain ⟨after, done, left⟩ :=
      perform_untag (store.log (.untag account arn keys)) account arn keys
    rw [if_neg none, if_neg (by simpa using none)]
    exact ⟨after, call_succeeds (served.trans done), (log_retagged store _ arn).trans left⟩

/-- No call is made where there is no tag to set. -/
theorem tag_succeeds (account arn : String) (spared : store.Spares tagOperations) (tags : List Tag) :
    ∃ after, (if tags.isEmpty then pure ()
        else Pass.call ⟨.update, "TagResource"⟩ (.tag account arn tags) : Pass Unit).Succeeds
        serve store (if tags = [] then [] else [.tag account arn tags]) () after ∧
      store.Retagged arn (tags.foldl setTag (store.tagsOf arn)) after := by
  by_cases none : tags = []
  · rw [if_pos none, none]
    exact ⟨store, .done () store, .refl store arn⟩
  · have served := serve_spared (.tag account arn tags)
      (spared _ (by simp [tagOperations, Call.operation]))
    rw [if_neg none, if_neg (by simpa using none)]
    exact ⟨_, call_succeeds served, (log_retagged store _ arn).trans (setTags_retagged _ arn _)⟩

/-! ## Replacing and removing -/

/-- The keys that are not desired are removed, where there are any, and then the desired tags are set,
where there are any. -/
def replacementCalls (account arn : String) (stale : List String) (desired : List Tag) : List Call :=
  .listTags account arn :: ((if stale = [] then [] else [.untag account arn stale])
    ++ if desired = [] then [] else [.tag account arn desired])

theorem putResourceTags_succeeds (account arn : String) (spared : store.Spares tagOperations)
    (desired : List Tag) :
    ∃ after, (putResourceTags account arn desired).Succeeds serve store
        (replacementCalls account arn (staleKeys (store.tagsOf arn) desired) desired) () after ∧
      store.Retagged arn
        (desired.foldl setTag (removeKeys (store.tagsOf arn) (staleKeys (store.tagsOf arn) desired)))
        after := by
  have logged := log_retagged store (.listTags account arn) arn
  obtain ⟨middle, untagged, cleared⟩ := untag_succeeds account arn
    (logged.spares spared) (staleKeys (store.tagsOf arn) desired)
  obtain ⟨after, tagged, set⟩ := tag_succeeds account arn ((logged.trans cleared).spares spared) desired
  rw [cleared.own] at set
  exact ⟨after, (currentTags_succeeds account arn spared).bind (untagged.bind tagged),
    logged.trans (cleared.trans set)⟩

theorem deleteResourceTags_succeeds (account arn : String) (spared : store.Spares tagOperations) :
    ∃ calls after, (deleteResourceTags account arn).Succeeds serve store calls () after ∧
      store.Retagged arn
        (removeKeys (store.tagsOf arn) ((store.tagsOf arn).filterMap (·.key))) after := by
  have logged := log_retagged store (.listTags account arn) arn
  obtain ⟨after, untagged, cleared⟩ := untag_succeeds account arn
    (logged.spares spared) ((store.tagsOf arn).filterMap (·.key))
  exact ⟨_, after, (currentTags_succeeds account arn spared).bind untagged, logged.trans cleared⟩

/-- Of tags with keys and desired tags with different ones the desired are left. -/
theorem foldl_setTag_removeKeys_stale {current desired : List Tag}
    (keyed : ∀ tag ∈ current, tag.key ≠ none) (distinct : (desired.map (·.key)).Nodup) :
    desired.foldl setTag (removeKeys current (staleKeys current desired)) = desired :=
  foldl_setTag_removeKeys distinct keyed fun _ => mem_staleKeys

/-- Once they all have keys, tags are replaced by desired ones with different keys. -/
theorem putResourceTags_replaces (account : String) {desired : List Tag}
    (spared : store.Spares tagOperations) (keyed : ∀ tag ∈ store.tagsOf arn, tag.key ≠ none)
    (distinct : (desired.map (·.key)).Nodup) :
    ∃ after, (putResourceTags account arn desired).Succeeds serve store
        (replacementCalls account arn (staleKeys (store.tagsOf arn) desired) desired) () after ∧
      store.Retagged arn desired after := by
  obtain ⟨after, ran, left⟩ := putResourceTags_succeeds account arn spared desired
  rw [foldl_setTag_removeKeys_stale keyed distinct] at left
  exact ⟨after, ran, left⟩

theorem deleteResourceTags_clears (account : String) (spared : store.Spares tagOperations)
    (keyed : ∀ tag ∈ store.tagsOf arn, tag.key ≠ none) :
    ∃ calls after, (deleteResourceTags account arn).Succeeds serve store calls () after ∧
      store.Retagged arn [] after := by
  obtain ⟨calls, after, ran, left⟩ := deleteResourceTags_succeeds account arn spared
  rw [removeKeys_all keyed] at left
  exact ⟨calls, after, ran, left⟩

theorem syncResourceTags_succeeds (account arn : String) (spared : store.Spares tagOperations)
    (desired : Option Tagging) :
    ∃ calls tags after, (syncResourceTags account arn desired).Succeeds serve store calls () after ∧
      store.Retagged arn tags after ∧
      ((∀ tag ∈ store.tagsOf arn, tag.key ≠ none) →
        (((desired.bind (·.tagSet)).getD []).map (·.key)).Nodup →
        tags = (desired.bind (·.tagSet)).getD []) := by
  unfold syncResourceTags
  cases desired.bind (·.tagSet) with
  | none =>
    obtain ⟨calls, after, ran, left⟩ := deleteResourceTags_succeeds account arn spared
    exact ⟨calls, _, after, ran, left, fun keyed _ => removeKeys_all keyed⟩
  | some wanted =>
    obtain ⟨after, ran, left⟩ := putResourceTags_succeeds account arn spared wanted
    exact ⟨_, _, after, ran, left, foldl_setTag_removeKeys_stale⟩

/-! ## Cut short -/

/-- The calls on the tags of a resource; tags are only set to the desired ones. -/
def CallsOnTags (account arn : String) (desired : List Tag) (call : Call) : Prop :=
  call = .listTags account arn ∨ (∃ keys, call = .untag account arn keys) ∨
    call = .tag account arn desired

theorem currentTags_uses (desired : List Tag) :
    (currentTags account arn).Uses (CallsOnTags account arn desired) :=
  (callUnless_uses (.inl rfl)).bind fun _ => .done _

theorem untag_uses (desired : List Tag) (keys : List String) :
    (untag account arn keys).Uses (CallsOnTags account arn desired) := by
  unfold untag
  split
  · exact .done _
  · exact call_uses (.inr (.inl ⟨keys, rfl⟩))

theorem putResourceTags_uses (desired : List Tag) :
    (putResourceTags account arn desired).Uses (CallsOnTags account arn desired) := by
  refine (currentTags_uses desired).bind fun current => (untag_uses desired _).bind fun _ => ?_
  split
  · exact .done _
  · exact call_uses (.inr (.inr rfl))

theorem deleteResourceTags_uses (desired : List Tag) :
    (deleteResourceTags account arn).Uses (CallsOnTags account arn desired) :=
  (currentTags_uses desired).bind fun _ => untag_uses desired _

/-- A call on the tags of a resource, answered or refused, leaves everything else alone and every tag
with a key. -/
theorem serve_keeps_keys {desired : List Tag} (present : ∀ tag ∈ desired, tag.key ≠ none)
    {call : Call} (asked : CallsOnTags account arn desired call)
    (keyed : ∀ tag ∈ store.tagsOf arn, tag.key ≠ none) :
    ∃ tags, store.Retagged arn tags (serve call store).2 ∧ ∀ tag ∈ tags, tag.key ≠ none := by
  have logged := log_retagged store call arn
  rcases serve_cases store call with ⟨code, -, served⟩ | ⟨-, served⟩
  · rw [served]
    exact ⟨_, logged, keyed⟩
  rw [served]
  rcases asked with rfl | ⟨keys, rfl⟩ | rfl
  · exact ⟨_, logged, keyed⟩
  · obtain ⟨after, done, left⟩ := perform_untag (store.log (.untag account arn keys)) account arn keys
    rw [done]
    exact ⟨_, logged.trans left, fun tag among => keyed tag (List.mem_filter.mp among).1⟩
  · exact ⟨_, logged.trans (setTags_retagged _ arn _), foldl_setTag_keyed keyed present⟩

theorem keys_throughout {pass : Pass Unit} {desired : List Tag}
    (uses : pass.Uses (CallsOnTags account arn desired))
    (keyed : ∀ tag ∈ store.tagsOf arn, tag.key ≠ none)
    (present : ∀ tag ∈ desired, tag.key ≠ none) :
    ∀ cut ∈ pass.states serve store,
      ∃ tags, store.Retagged arn tags cut ∧ ∀ tag ∈ tags, tag.key ≠ none := by
  refine uses.holds_throughout serve _ ?_ ⟨_, .refl store arn, keyed⟩
  rintro call there asked ⟨tags, left, keyed⟩
  obtain ⟨next, later, stillKeyed⟩ := serve_keeps_keys present asked (left.own.symm ▸ keyed)
  exact ⟨next, left.trans later, stillKeyed⟩

/-- The tags of a resource are replaced, not merged: those that are desired are left, in their order,
and those of every other resource are as they were. A key is removed where no desired tag has it, and
tags are set, after that, where any is desired. Removing the tags leaves none. Wherever a run is cut
off, with whatever failures, running again ends the same once the operations are spared. -/
theorem resourceTags_replaced (account : String) {store : Store} {arn : String} {desired : List Tag}
    (keyed : ∀ tag ∈ store.tagsOf arn, tag.key ≠ none)
    (present : ∀ tag ∈ desired, tag.key ≠ none) (distinct : (desired.map (·.key)).Nodup) :
    (store.Spares tagOperations →
      (∃ (stale : List String) (after : Store),
        (putResourceTags account arn desired).Succeeds serve store
          (.listTags account arn :: ((if stale = [] then [] else [.untag account arn stale])
            ++ if desired = [] then [] else [.tag account arn desired])) () after ∧
        store.Retagged arn desired after ∧
        ∀ key, key ∈ stale ↔
          some key ∈ (store.tagsOf arn).map (·.key) ∧ some key ∉ desired.map (·.key)) ∧
      ∃ calls after, (deleteResourceTags account arn).Succeeds serve store calls () after ∧
        store.Retagged arn [] after) ∧
    ∀ failures, (∀ operation ∈ tagOperations, failures.get? operation = none) →
      (∀ cut ∈ (putResourceTags account arn desired).states serve store,
        ∃ calls after, (putResourceTags account arn desired).Succeeds serve
            { cut with failures := failures } calls () after ∧
          after.tagsOf arn = desired ∧
          ∀ other, other ≠ arn → after.tags.get? other = store.tags.get? other) ∧
      ∀ cut ∈ (deleteResourceTags account arn).states serve store,
        ∃ calls after, (deleteResourceTags account arn).Succeeds serve
            { cut with failures := failures } calls () after ∧
          after.tagsOf arn = [] ∧
          ∀ other, other ≠ arn → after.tags.get? other = store.tags.get? other := by
  refine ⟨fun spared => ⟨?put, ?delete⟩, fun failures spared =>
    ⟨fun cut among => ?putAgain, fun cut among => ?deleteAgain⟩⟩
  case put =>
    obtain ⟨after, ran, left⟩ := putResourceTags_replaces account spared keyed distinct
    exact ⟨_, after, ran, left, fun key => mem_staleKeys⟩
  case delete => exact deleteResourceTags_clears account spared keyed
  case putAgain =>
    obtain ⟨tags, here, own⟩ := keys_throughout (putResourceTags_uses desired) keyed present cut among
    have spares : ({ cut with failures := failures } : Store).Spares tagOperations := spared
    obtain ⟨after, ran, left⟩ :=
      putResourceTags_replaces account spares (here.own.symm ▸ own) distinct
    exact ⟨_, after, ran, left.own, fun other apart =>
      (left.others other apart).trans (here.others other apart)⟩
  case deleteAgain =>
    obtain ⟨tags, here, own⟩ := keys_throughout (deleteResourceTags_uses desired) keyed present cut among
    have spares : ({ cut with failures := failures } : Store).Spares tagOperations := spared
    obtain ⟨calls, after, ran, left⟩ :=
      deleteResourceTags_clears account spares (here.own.symm ▸ own)
    exact ⟨calls, after, ran, left.own, fun other apart =>
      (left.others other apart).trans (here.others other apart)⟩

/-- Where tagging is refused the keys that are not desired are gone already, and replacing the tags
again leaves those that are desired. -/
theorem refused_tagging_made_up :
    let arn := "arn:aws:s3express:eu-west-1:111122223333:bucket/ledger--use1-az4--x-s3"
    let store : Store := {
      tags := Keyed.ofList [(arn, [⟨some "team", some "books"⟩, ⟨some "old", none⟩, ⟨some "old", some ""⟩])]
      failures := Keyed.ofList [("TagResource", "SlowDown")] }
    let desired : List Tag := [⟨some "stage", some "test"⟩, ⟨some "team", some "audit"⟩]
    let halfway : Store :=
      { ((putResourceTags "111122223333" arn desired).run serve store).2 with failures := {} }
    halfway.tagsOf arn = [⟨some "team", some "books"⟩] ∧
      ∃ calls after, (putResourceTags "111122223333" arn desired).Succeeds serve halfway calls () after ∧
        after.tagsOf arn = desired ∧
        ∀ other, other ≠ arn → after.tags.get? other = store.tags.get? other := by
  intro arn store desired halfway
  have keyed : ∀ tag ∈ store.tagsOf arn, tag.key ≠ none := by decide +kernel
  have present : ∀ tag ∈ desired, tag.key ≠ none := by decide +kernel
  have distinct : (desired.map (·.key)).Nodup := by decide +kernel
  have cleared : halfway.tagsOf arn = [⟨some "team", some "books"⟩] := by decide +kernel
  exact ⟨cleared, ((resourceTags_replaced "111122223333" keyed present distinct).2 {}
    fun _ _ => rfl).1 _ (run_mem_states serve _ store)⟩

end Pass

end BucketSteward

import BucketSteward.Proofs.Matching
import BucketSteward.Proofs.PlannedItems
import BucketSteward.Proofs.TagReplacement

/-! What writing parts leaves in a store where no call is made to fail. Every part is written
successfully and changes nothing but itself; what is stored for it afterwards is told by the
specification that it is written from (`Part.Written`). Writing a list of parts does this for each of
them, and one whose name it does not report is a collection that it did not change. -/
namespace BucketSteward

open Store

namespace Holding

/-- Two buckets are kept alike in a part; the tags of a resource belong to tagging. -/
def SamePart (a b : Holding) (part : Part) : Prop :=
  a.bucket.SamePart b.bucket part ∧ (part = .document .tagging → a.tags = b.tags)

theorem SamePart.refl (a : Holding) (part : Part) : a.SamePart a part :=
  ⟨.refl _ _, fun _ => rfl⟩

theorem SamePart.symm {a b : Holding} {part : Part} (same : a.SamePart b part) :
    b.SamePart a part :=
  ⟨same.1.symm, fun tagging => (same.2 tagging).symm⟩

theorem SamePart.trans {a b c : Holding} {part : Part} (first : a.SamePart b part)
    (second : b.SamePart c part) : a.SamePart c part :=
  ⟨first.1.trans second.1, fun tagging => (first.2 tagging).trans (second.2 tagging)⟩

end Holding

namespace Store.Holds

variable {store after : Store} {name arn : String} {holding : Holding}

theorem spared (holds : store.Holds name arn holding) (operation : String) :
    store.failures.get? operation = none := by
  rw [holds.calm]
  rfl

theorem rewritten {bucket : StoredBucket} (holds : store.Holds name arn holding)
    (left : store.Rewritten name bucket after) :
    after.Holds name arn { holding with bucket := bucket } where
  calm := left.failures.trans holds.calm
  found := left.here
  tags := by rw [tagsOf, left.tags, ← tagsOf, holds.tags]

theorem retagged {tags : List Tag} (holds : store.Holds name arn holding)
    (left : store.Retagged arn tags after) : after.Holds name arn { holding with tags := tags } where
  calm := left.failures.trans holds.calm
  found := by rw [left.buckets, holds.found]
  tags := left.own

end Store.Holds

namespace Pass

open Program

variable {store : Store} {name arn : String} {holding : Holding}

/-! ## Single calls -/

/-- A call that writes to a bucket has its effect on what is kept. -/
theorem call_run {label : CallLabel} (call : Call) {effect : StoredBucket → StoredBucket}
    (holds : store.Holds name arn holding) (writes : call.effect? = some (name, effect)) :
    ∃ reply after, (Pass.call label call).run serve store = (.ok reply, after) ∧
      after.Holds name arn { holding with bucket := effect holding.bucket } := by
  obtain ⟨reply, after, called, left⟩ := write_succeeds writes (holds.spared _) holds.found
  exact ⟨reply, after, called.run, holds.rewritten left⟩

/-! ## Parts -/

theorem syncResourceTags_run (holds : store.Holds name arn holding) (account : String)
    (desired : Option Tagging) :
    ∃ tags after, (syncResourceTags account arn desired).run serve store = (.ok (), after) ∧
      after.Holds name arn { holding with tags := tags } ∧
      ((∀ t ∈ holding.tags, t.key ≠ none) → (((desired.bind (·.tagSet)).getD []).map (·.key)).Nodup →
        tags = (desired.bind (·.tagSet)).getD []) := by
  obtain ⟨calls, tags, after, synced, left, replaced⟩ :=
    syncResourceTags_succeeds account arn (fun operation _ => holds.spared operation) desired
  rw [holds.tags] at replaced
  exact ⟨tags, after, synced.run, holds.retagged left, replaced⟩

end Pass

/-- What is kept for a part after it was written from a specification. -/
def Part.Written (desired : BucketSpec) (holding : Holding) : Part → Prop
  | .setting s => holding.bucket.setting s = some (s.toPut (desired.setting s))
  | .document .tagging =>
      if isDirectoryName desired.name then
        holding.tags = (desired.tagging.bind (·.tagSet)).getD []
      else holding.bucket.tagging = desired.tagging.filter Document.tagging.isConfigured
  | .document d => holding.bucket.document d = (desired.document d).filter d.isConfigured
  | .collection c =>
      ∀ id, (holding.bucket.items c).get? id = c.find? id ((desired.collection c).getD [])
  | .policy => holding.bucket.policy = desired.policy
  | .objectLock => holding.bucket.objectLock = desired.objectLockEnabledForBucket.getD false
  | .acl => True

/-- What has to hold for a part to be written as it is desired: the latest items are those that are
kept, and tags have keys, the desired ones different keys. -/
def Part.Ready (desired observed : BucketSpec) (holding : Holding) : Part → Prop
  | .collection c =>
      ∀ id, c.find? id ((observed.collection c).getD []) = (holding.bucket.items c).get? id
  | .document .tagging => isDirectoryName desired.name = true →
      (∀ t ∈ holding.tags, t.key ≠ none) ∧
        (((desired.tagging.bind (·.tagSet)).getD []).map (·.key)).Nodup
  | _ => True

namespace Part

variable {desired observed : BucketSpec} {a b : Holding} {part : Part}

theorem written_congr (same : a.SamePart b part) (written : part.Written desired b) :
    part.Written desired a := by
  obtain ⟨kept, tags⟩ := same
  cases part with
  | setting s => exact Eq.trans kept written
  | document d =>
    cases d with
    | tagging =>
      simp only [Written] at written ⊢
      split
      case isTrue directory =>
        rw [if_pos directory] at written
        exact (tags rfl).trans written
      case isFalse general =>
        rw [if_neg general] at written
        exact Eq.trans kept written
    | _ => exact Eq.trans kept written
  | collection c =>
    intro id
    rw [show a.bucket.items c = b.bucket.items c from kept]
    exact written id
  | policy => exact Eq.trans kept written
  | objectLock => exact Eq.trans kept written
  | acl => exact trivial

theorem ready_congr (same : a.SamePart b part) (ready : part.Ready desired observed b) :
    part.Ready desired observed a := by
  obtain ⟨kept, tags⟩ := same
  cases part with
  | document d =>
    cases d with
    | tagging =>
      simp only [Ready] at ready ⊢
      rw [tags rfl]
      exact ready
    | _ => exact trivial
  | collection c =>
    intro id
    rw [show a.bucket.items c = b.bucket.items c from kept]
    exact ready id
  | _ => exact trivial

theorem matches_congr (same : a.SamePart b part) (matched : part.Matches desired b) :
    part.Matches desired a := by
  obtain ⟨kept, tags⟩ := same
  cases part with
  | setting s =>
    have value : a.bucket.settingValue s = b.bucket.settingValue s := by
      rw [StoredBucket.settingValue, show a.bucket.setting s = b.bucket.setting s from kept]
      rfl
    simp only [Matches] at matched ⊢
    rwa [value]
  | document d =>
    cases d with
    | tagging =>
      have stored : a.bucket.tagging = b.bucket.tagging := kept
      simp only [Matches] at matched ⊢
      rwa [tags rfl, stored]
    | _ =>
      simp only [Matches] at matched ⊢
      rwa [show a.bucket.document _ = b.bucket.document _ from kept]
  | collection c =>
    simp only [Matches] at matched ⊢
    rwa [show a.bucket.items c = b.bucket.items c from kept]
  | policy => exact Eq.trans kept matched
  | objectLock => exact fun enabled wanted => Eq.trans kept (matched enabled wanted)
  | acl =>
    simp only [Matches] at matched ⊢
    rwa [show a.bucket.acl = b.bucket.acl from kept]

end Part

/-- What writing a part did: nothing to the others, what is desired to the part itself if it was
ready, and nothing at all if nothing was reported as written. -/
structure Part.WrittenOver (desired observed : BucketSpec) (before after : Holding) (written : Bool)
    (part : Part) : Prop where
  others : ∀ other, other ≠ part → after.SamePart before other
  done : part.Ready desired observed before → part.Written desired after
  silent : written = false → after.SamePart before part ∧ ∃ c, part = .collection c

namespace Pass

open Program

variable {store : Store} {name arn : String} {holding : Holding} {desired observed : BucketSpec}
  {location : Location}

/-- A part that is written by one call. -/
theorem single_run {label : CallLabel} (call : Call) {effect : StoredBucket → StoredBucket} {part : Part}
    (holds : store.Holds desired.name arn holding)
    (writes : call.effect? = some (desired.name, effect)) (own : call.part? = some part)
    (done : part.Written desired { holding with bucket := effect holding.bucket }) :
    ∃ after kept, ((Pass.call label call).bind fun _ => .done (.ok true)).run serve store
        = (.ok true, after) ∧ after.Holds desired.name arn kept ∧
      part.WrittenOver desired observed holding kept true := by
  obtain ⟨reply, after, ran, left⟩ := call_run _ holds writes
  refine ⟨after, _, ?_, left, fun other apart => ⟨?_, fun _ => rfl⟩, fun _ => done, nofun⟩
  · rw [run_bind, ran]
    rfl
  · exact Call.effect_samePart writes (by simpa [own] using apart.symm) holding.bucket

/-- Carrying out a plan makes of the items what its steps make of them. -/
theorem carryOut_run (holds : store.Holds name arn holding) (collection : Collection)
    (plan : List (ItemAction × collection.Item)) :
    ∃ after bucket, (carryOut collection name plan).run serve store
        = (.ok (plan.any (·.1 != .keep)), after) ∧
      after.Holds name arn { holding with bucket := bucket } ∧
      bucket.items collection = plan.foldl collection.carry (holding.bucket.items collection) ∧
      ∀ other, other ≠ .collection collection → bucket.SamePart holding.bucket other := by
  obtain ⟨after, bucket, carriedOut, left, carried, others⟩ :=
    carryOut_succeeds (fun operation _ => holds.spared operation) holds.found plan
  exact ⟨after, bucket, carriedOut.run, holds.rewritten left, carried, others⟩

theorem syncDocument_run (holds : store.Holds desired.name arn holding) (d : Document) :
    ∃ after bucket, ((syncDocument d desired.name (desired.document d)).bind fun _ =>
          .done (.ok true)).run serve store = (.ok true, after) ∧
      after.Holds desired.name arn { holding with bucket := bucket } ∧
      bucket.document d = (desired.document d).filter d.isConfigured ∧
      ∀ other, other ≠ .document d → bucket.SamePart holding.bucket other := by
  unfold syncDocument
  cases (desired.document d).filter d.isConfigured with
  | some content =>
    obtain ⟨reply, after, ran, left⟩ := call_run (.putDocument d desired.name content) holds rfl
    refine ⟨after, _, ?_, left, holding.bucket.document_withDocument d _, fun other apart =>
      holding.bucket.samePart_withDocument _ apart⟩
    simp only
    rw [run_bind, ran]
    rfl
  | none =>
    obtain ⟨reply, after, ran, left⟩ := call_run (.deleteDocument d desired.name) holds rfl
    refine ⟨after, _, ?_, left, holding.bucket.document_withDocument d _, fun other apart =>
      holding.bucket.samePart_withDocument _ apart⟩
    simp only
    rw [run_bind, ran]
    rfl

theorem writeDocument_run (holds : store.Holds desired.name arn holding)
    (addressed : bucketArn desired.name location.region location.account = .ok arn) (d : Document) :
    ∃ after kept, (Part.write location desired observed (.document d)).run serve store
        = (.ok true, after) ∧ after.Holds desired.name arn kept ∧
      Part.WrittenOver desired observed holding kept true (.document d) := by
  obtain ⟨after, bucket, ran, left, stored, others⟩ := syncDocument_run holds d
  have unlike : d ≠ .tagging ∨ isDirectoryName desired.name = false →
      (Part.document d).WrittenOver desired observed holding { holding with bucket := bucket } true := by
    intro kind
    refine ⟨fun other apart => ⟨others other apart, fun _ => rfl⟩, fun _ => ?_, nofun⟩
    cases d with
    | tagging =>
      rcases kind with other | general
      · exact absurd rfl other
      · simp only [Part.Written, general, Bool.false_eq_true, if_false]
        exact stored
    | _ => exact stored
  cases d with
  | tagging =>
    by_cases directory : isDirectoryName desired.name = true
    · obtain ⟨account, target⟩ := tagTarget_of_arn directory addressed
      obtain ⟨tags, after, ran, left, result⟩ := syncResourceTags_run holds account desired.tagging
      refine ⟨after, { holding with tags := tags }, ?_, left, fun other apart => ⟨.refl _ _, ?_⟩,
        fun ready => ?_, nofun⟩
      · simp only [Part.write, if_pos directory, target, ofExcept, bind_eq, Program.bind]
        rw [run_bind, ran]
        rfl
      · exact fun same => absurd same apart
      · obtain ⟨keyed, distinct⟩ := ready directory
        simp only [Part.Written, if_pos directory]
        exact result keyed distinct
    · refine ⟨after, _, ?_, left, unlike (.inr (by simpa using directory))⟩
      simp only [Part.write, if_neg directory]
      exact ran
  | _ => exact ⟨after, _, ran, left, unlike (.inl (by simp))⟩

theorem writeItems_run (holds : store.Holds desired.name arn holding) (c : Collection) :
    ∃ written after kept, (Part.write location desired observed (.collection c)).run serve store
        = (.ok written, after) ∧ after.Holds desired.name arn kept ∧
      Part.WrittenOver desired observed holding kept written (.collection c) := by
  let plan := c.plan ((desired.collection c).getD []) ((observed.collection c).getD [])
  obtain ⟨after, bucket, ran, left, carried, others⟩ := carryOut_run holds c plan
  refine ⟨_, after, _, ran, left, fun other apart => ⟨others other apart, fun _ => rfl⟩,
    fun ready id => ?_, fun kept => ⟨⟨?_, fun _ => rfl⟩, c, rfl⟩⟩
  · show (bucket.items c).get? id = _
    rw [carried]
    exact Collection.get?_carry_plan ready id
  · exact carried.trans (Collection.foldl_carry_of_keeps kept)

/-- Where no call is made to fail, every part of a bucket that is there can be written. -/
theorem write_run (observed : BucketSpec) (holds : store.Holds desired.name arn holding)
    (addressed : bucketArn desired.name location.region location.account = .ok arn) (part : Part) :
    ∃ written after kept, (part.write location desired observed).run serve store
        = (.ok written, after) ∧ after.Holds desired.name arn kept ∧
      part.WrittenOver desired observed holding kept written := by
  cases part with
  | setting s =>
    refine ⟨true, single_run (.putSetting s desired.name (s.toPut (desired.setting s)))
      holds rfl rfl ?_⟩
    exact holding.bucket.setting_withSetting s _
  | document d => exact ⟨true, writeDocument_run holds addressed d⟩
  | collection c => exact writeItems_run holds c
  | policy =>
    refine ⟨true, ?_⟩
    simp only [Part.write, syncPolicy]
    cases wanted : desired.policy with
    | some policy =>
      exact single_run (.putPolicy desired.name policy _) holds rfl rfl wanted.symm
    | none => exact single_run (.deletePolicy desired.name) holds rfl rfl wanted.symm
  | objectLock =>
    exact ⟨true, single_run (.putObjectLock desired.name _) holds rfl rfl rfl⟩
  | acl => exact ⟨true, single_run (.putAcl desired.name _) holds rfl rfl trivial⟩

/-- Writing different parts one after the other writes each of them and leaves the rest alone. The
names of those where something was written are reported; the others are collections and are left
alone, too. -/
theorem writeParts_run (desired observed : BucketSpec) (holds : store.Holds desired.name arn holding)
    (addressed : bucketArn desired.name location.region location.account = .ok arn)
    {parts : List Part} (distinct : parts.Nodup) :
    ∃ (wrote : Part → Bool) (after : Store) (kept : Holding),
      (writeParts location desired observed parts).run serve store
        = (.ok ((parts.filter wrote).map Part.property), after) ∧
      after.Holds desired.name arn kept ∧
      (∀ part, part ∉ parts → kept.SamePart holding part) ∧
      (∀ part ∈ parts, part.Ready desired observed holding → part.Written desired kept) ∧
      ∀ part ∈ parts, wrote part = false → kept.SamePart holding part ∧ ∃ c, part = .collection c := by
  induction parts generalizing store holding with
  | nil => exact ⟨fun _ => true, store, holding, rfl, holds, fun _ _ => .refl _ _, nofun, nofun⟩
  | cons part rest ih =>
    obtain ⟨fresh, distinct⟩ := List.nodup_cons.mp distinct
    obtain ⟨written, middle, first, ranFirst, left, effect⟩ := write_run observed holds addressed part
    obtain ⟨wrote, after, kept, ranRest, final, same, done, silent⟩ := ih left distinct
    have apart {other : Part} (among : other ∈ rest) : other ≠ part := fun equal =>
      fresh (equal ▸ among)
    have later : rest.filter (Function.update wrote part written) = rest.filter wrote :=
      List.filter_congr fun other among => Function.update_of_ne (apart among) _ _
    refine ⟨Function.update wrote part written, after, kept, ?_, final, ?_, ?_, ?_⟩
    · rw [writeParts, bind_eq, run_bind, under, run_mapFault, ranFirst]
      simp only [Except.mapError]
      rw [bind_eq, run_bind, ranRest, List.filter_cons, later, Function.update_self]
      cases written <;> rfl
    · intro other absent
      obtain ⟨unlike, absent⟩ := not_or.mp (mt List.mem_cons.mpr absent)
      exact (same other absent).trans (effect.others other unlike)
    · intro other among ready
      rcases List.mem_cons.mp among with rfl | among
      · exact Part.written_congr (same other fresh) (effect.done ready)
      · exact done other among (Part.ready_congr (effect.others other (apart among)) ready)
    · intro other among unwritten
      rcases List.mem_cons.mp among with rfl | among
      · rw [Function.update_self] at unwritten
        obtain ⟨unchanged, items⟩ := effect.silent unwritten
        exact ⟨(same other fresh).trans unchanged, items⟩
      · rw [Function.update_of_ne (apart among)] at unwritten
        obtain ⟨unchanged, items⟩ := silent other among unwritten
        exact ⟨unchanged.trans (effect.others other (apart among)), items⟩

end Pass

end BucketSteward

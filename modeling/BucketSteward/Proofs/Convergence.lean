import BucketSteward.Proofs.Settling

/-! Passes that find nothing to do. A pass over a bucket reports it in sync exactly when the bucket
matches its specification; and from every store that can be reached, once nothing is made to fail,
one pass makes the bucket match, so that the next one finds it in sync and only reads. -/
namespace BucketSteward

open Store BucketSpec

/-- The ACL that is stored for a bucket, or the one that a new bucket gets. -/
def Store.aclOf (store : Store) (name : String) : AccessControlPolicy :=
  match store.buckets.get? name with
  | some stored => stored.acl
  | none => privateAcl

/-- The tags of a directory bucket can be brought to the desired ones: a desired set has a tag and
different keys, every tag that is set has a key, and none is set for a bucket that is not there. -/
structure BucketSpec.TagsManageable (desired : BucketSpec) (store : Store) (arn : String) : Prop where
  wanted : ∀ tags, desired.tagging.bind (·.tagSet) = some tags →
    tags ≠ [] ∧ (tags.map (·.key)).Nodup
  keyed : ∀ tag ∈ store.tagsOf arn, tag.key ≠ none
  untagged : store.buckets.get? desired.name = none → store.tagsOf arn = []

theorem BucketSpec.TagsManageable.distinct {desired : BucketSpec} {store : Store} {arn : String}
    (manageable : desired.TagsManageable store arn) :
    (((desired.tagging.bind (·.tagSet)).getD []).map (·.key)).Nodup := by
  cases wanted : desired.tagging.bind (·.tagSet) with
  | none => exact .nil
  | some tags => exact (manageable.wanted tags wanted).2

/-- A bucket can be brought in line: its items are kept under their own ids, its ACL is as desired, and
if its tags have to be written, they have keys and the desired ones different keys. -/
structure Holding.Fit (holding : Holding) (desired : BucketSpec) : Prop where
  keyed : isDirectoryName desired.name = false → holding.bucket.IsKeyed
  acl : isDirectoryName desired.name = false → desired.MatchesAcl holding.bucket.acl
  tags : isDirectoryName desired.name = true → (Part.document .tagging).IsDue desired holding →
    (∀ tag ∈ holding.tags, tag.key ≠ none) ∧
      (((desired.tagging.bind (·.tagSet)).getD []).map (·.key)).Nodup

/-- The outcome of a pass that found the bucket and wrote parts of it. -/
def Outcome.reporting (properties : List String) : Outcome :=
  if properties.isEmpty then .inSync else .updated properties

namespace Pass

open Program

variable {store : Store} {location : Location} {desired : BucketSpec} {adoption : AdoptionPolicy}
  {arn : String} {holding : Holding}

/-- A pass over a bucket that is there reads it and then settles it. -/
theorem sync_run_found (adoption : AdoptionPolicy) (holds : store.Holds desired.name arn holding)
    (addressed : bucketArn desired.name location.region location.account = .ok arn)
    (valid : desired.validate = .ok ()) :
    ∃ calls, (∀ call ∈ calls, call.mutates = false) ∧
      (sync location desired adoption).run serve store
        = ((settle location desired (observation desired holding)).bind fun outcome =>
            .done (.ok ⟨outcome, arn, none⟩)).run serve
              { store with calls := store.calls ++ calls } := by
  obtain ⟨calls, reads, found⟩ := find_run holds addressed
  refine ⟨calls, reads, ?_⟩
  rw [sync_eq, valid, addressed]
  show ((find location desired).bind _).run serve store = _
  rw [run_bind, found]
  rfl

/-- Nothing is left to settle in a bucket that matches. -/
theorem settle_of_matches (location : Location) (valid : desired.validate = .ok ())
    (keyed : isDirectoryName desired.name = false → holding.bucket.IsKeyed)
    (matched : holding.Matches desired) :
    settle location desired (observation desired holding) = .done (.ok .inSync) := by
  have same := Delta.isEmpty_between.mpr ((normalized_eq_iff_matches valid keyed).mpr matched)
  rw [settle_eq, if_pos same]

/-- A pass over a bucket that is there reports what it wrote, and nothing exactly when the bucket
matches. A part that is not due is kept; a part that is due is written as it is desired. -/
theorem sync_run (adoption : AdoptionPolicy) (holds : store.Holds desired.name arn holding)
    (addressed : bucketArn desired.name location.region location.account = .ok arn)
    (valid : desired.validate = .ok ())
    (keyed : isDirectoryName desired.name = false → holding.bucket.IsKeyed) :
    let wanted := desired.normalizedDesired (observation desired holding)
    let found := desired.normalizedObserved (observation desired holding)
    ∃ wrote after kept, holding.Reported desired wrote ∧
      (((Part.orderFor desired).filter wrote).map Part.property = [] ↔ holding.Matches desired) ∧
      (sync location desired adoption).run serve store = (.ok ⟨.reporting
        (((Part.orderFor desired).filter wrote).map Part.property), arn, none⟩, after) ∧
      after.Holds desired.name arn kept ∧
      ∀ part : Part, part.existsOn desired.name = true →
        (¬ part.IsDue desired holding ∧ kept.SamePart holding part) ∨
        (part.IsDue desired holding ∧
          (part.Ready wanted found holding → part.Written wanted kept)) := by
  intro wanted found
  obtain ⟨calls, -, ran⟩ := sync_run_found adoption holds addressed valid
  have reading : ({ store with calls := store.calls ++ calls } : Store).Holds desired.name arn holding :=
    ⟨holds.calm, holds.found, holds.tags⟩
  by_cases matched : holding.Matches desired
  · have settled {part : Part} (there : part.existsOn desired.name = true) :
        ¬ part.IsDue desired holding := matched.not_isDue there
    have nothing : (Part.orderFor desired).filter (fun _ => false) = [] := List.filter_false _
    refine ⟨fun _ => false, _, holding, ⟨nofun, fun part there due => absurd due (settled there)⟩,
      ?_, ran.trans ?_, reading, fun part there => .inl ⟨settled there, .refl _ _⟩⟩
    · rw [nothing]
      exact iff_of_true rfl matched
    · rw [settle_of_matches location valid keyed matched, nothing]
      rfl
  · obtain ⟨wrote, after, kept, reported, some, updated, left, parts⟩ :=
      update_run reading addressed valid keyed matched
    refine ⟨wrote, after, kept, reported, iff_of_false some matched, ran.trans ?_, left, parts⟩
    have unlike : ¬ (deltaFor desired holding).isEmpty = true := fun same =>
      matched ((normalized_eq_iff_matches valid keyed).mp (Delta.isEmpty_between.mp same))
    rw [settle_eq, if_neg unlike, run_bind, run_bind, updated]
    rfl

/-- A pass over a bucket that is missing creates it, if it may, and writes what is stated of it. -/
theorem sync_run_missing (calm : store.failures = {})
    (missing : store.buckets.get? desired.name = none)
    (addressed : bucketArn desired.name location.region location.account = .ok arn)
    (valid : desired.validate = .ok ()) :
    ∃ place after kept,
      (sync location desired .adoptOrCreate).run serve store = (.ok ⟨.created, arn, place⟩, after) ∧
      after.Holds desired.name arn kept ∧
      ∀ part : Part, part.existsOn desired.name = true →
        (part.isStated desired = false ∧
          kept.SamePart ⟨newBucket desired.creation, store.tagsOf arn⟩ part) ∨
        (part.isStated desired = true ∧
          (part.Ready desired { name := desired.name }
              ⟨newBucket desired.creation, store.tagsOf arn⟩ →
            part.Written desired kept)) := by
  obtain ⟨calls, searched⟩ := find_run_missing calm missing location
  let reading : Store := { store with calls := store.calls ++ calls }
  have quiet : reading.failures = {} := calm
  obtain ⟨place, after, kept, made, left, parts⟩ := create_run quiet missing addressed
  refine ⟨place, after, kept, ?_, left, parts⟩
  rw [sync_eq, valid, addressed]
  show ((find location desired).bind _).run serve store = _
  rw [run_bind, searched]
  simp only [conclude, if_neg (show ¬ AdoptionPolicy.adoptOrCreate = .adopt by decide)]
  rw [bind_eq, run_bind, made]
  rfl

/-- A bucket that matches is left alone by a pass that only reads it. -/
theorem sync_run_of_matches (adoption : AdoptionPolicy) (holds : store.Holds desired.name arn holding)
    (addressed : bucketArn desired.name location.region location.account = .ok arn)
    (valid : desired.validate = .ok ()) (keyed : holding.bucket.IsKeyed)
    (matched : holding.Matches desired) :
    ∃ calls, (∀ call ∈ calls, call.mutates = false) ∧
      (sync location desired adoption).run serve store
        = (.ok ⟨.inSync, arn, none⟩, { store with calls := store.calls ++ calls }) := by
  obtain ⟨calls, reads, ran⟩ := sync_run_found adoption holds addressed valid
  refine ⟨calls, reads, ran.trans ?_⟩
  rw [settle_of_matches location valid (fun _ => keyed) matched]
  rfl

/-- A bucket that does not match is updated. -/
theorem sync_run_of_differs (adoption : AdoptionPolicy) (holds : store.Holds desired.name arn holding)
    (addressed : bucketArn desired.name location.region location.account = .ok arn)
    (valid : desired.validate = .ok ()) (keyed : holding.bucket.IsKeyed)
    (differs : ¬ holding.Matches desired) :
    ∃ names after kept, names ≠ [] ∧
      (sync location desired adoption).run serve store = (.ok ⟨.updated names, arn, none⟩, after) ∧
      after.Holds desired.name arn kept ∧ ∃ wrote, holding.Reported desired wrote ∧
        names = ((Part.orderFor desired).filter wrote).map Part.property := by
  obtain ⟨wrote, after, kept, reported, none_iff, ran, left, -⟩ :=
    sync_run adoption holds addressed valid fun _ => keyed
  have some := mt none_iff.mp differs
  have present : (((Part.orderFor desired).filter wrote).map Part.property).isEmpty = false := by
    simpa using some
  refine ⟨_, after, kept, some, ?_, left, wrote, reported, rfl⟩
  rw [ran, Outcome.reporting, present]
  rfl

/-- Where no call is made to fail, a pass over a bucket that is there reports it in sync exactly when
the bucket matches its specification. -/
theorem sync_inSync_iff_matches {stored : StoredBucket} (calm : store.failures = {})
    (keyed : store.IsKeyed) (found : store.buckets.get? desired.name = some stored)
    (valid : desired.validate = .ok ())
    (addressed : bucketArn desired.name location.region location.account = .ok arn) :
    ((sync location desired adoption).run serve store).1.map (·.outcome) = .ok .inSync ↔
      Holding.Matches ⟨stored, store.tagsOf arn⟩ desired := by
  have holds : store.Holds desired.name arn ⟨stored, store.tagsOf arn⟩ := ⟨calm, found, rfl⟩
  have owned : stored.IsKeyed := keyed desired.name stored found
  constructor
  · intro inSync
    by_contra differs
    obtain ⟨names, after, kept, -, ran, -, -⟩ :=
      sync_run_of_differs adoption holds addressed valid owned differs
    rw [ran] at inSync
    cases inSync
  · intro matched
    obtain ⟨calls, -, ran⟩ :=
      sync_run_of_matches adoption holds addressed valid owned matched
    rw [ran]
    rfl

/-- Tags may be stored in another order than they are desired in. -/
theorem reordered_tags_inSync :
    let stored : StoredBucket := {
      acl := privateAcl
      requestPayment := some { payer := some "BucketOwner" }
      versioning := some { status := some "Enabled" }
      tagging := some ⟨some [⟨some "team", some "storage"⟩, ⟨some "stage", some "live"⟩]⟩ }
    let store : Store := { buckets := Keyed.ofList [("ledger", stored)] }
    let desired : BucketSpec := {
      name := "ledger"
      versioning := some { status := some "Enabled" }
      tagging := some ⟨some [⟨some "stage", some "live"⟩, ⟨some "team", some "storage"⟩]⟩ }
    ((sync ⟨none, "eu-west-1"⟩ desired .adopt).run serve store).1.map (·.outcome) = .ok .inSync ∧
      Holding.Matches ⟨stored, []⟩ desired := by
  intro stored store desired
  have inSync : ((sync ⟨none, "eu-west-1"⟩ desired .adopt).run serve store).1.map (·.outcome)
      = .ok .inSync := by decide +kernel
  have keyed : store.IsKeyed := by
    intro name bucket found collection id item kept
    have only : store.buckets.get? name = if name = "ledger" then some stored else none :=
      Keyed.get?_insert _ _ _ _
    rw [only] at found
    split at found
    · obtain rfl := Option.some.inj found
      cases collection <;> cases kept
    · cases found
  have addressed : bucketArn desired.name "eu-west-1" none = .ok "arn:aws:s3:::ledger" := by
    decide +kernel
  have found : store.buckets.get? desired.name = some stored := rfl
  have valid : desired.validate = .ok () := by decide +kernel
  exact ⟨inSync, (sync_inSync_iff_matches rfl keyed found valid addressed).mp inSync⟩

/-! ## Convergence -/

/-- Normalizing keeps the keys of desired tags different. -/
theorem normalized_tags_distinct (observed : BucketSpec)
    (distinct : (((desired.tagging.bind (·.tagSet)).getD []).map (·.key)).Nodup) :
    ((((desired.normalizedDesired observed).tagging.bind (·.tagSet)).getD []).map (·.key)).Nodup := by
  have same : (desired.normalizedDesired observed).tagging
      = (filled (fun _ => Document.tagging.assumed) desired.tagging observed.tagging).map
          Tagging.inOrder := rfl
  rw [same]
  cases wanted : desired.tagging with
  | none => cases observed.tagging <;> exact .nil
  | some tagging =>
    rw [wanted] at distinct
    obtain ⟨tags⟩ := tagging
    cases tags with
    | none => exact .nil
    | some tags => exact (((Tag.inOrder_perm tags).map (·.key)).nodup_iff).mpr distinct

/-- What is due in a bucket that can be brought in line is written as it is desired. -/
theorem ready_of_fit (fit : holding.Fit desired) {part : Part}
    (there : part.existsOn desired.name = true) (due : part.IsDue desired holding) :
    part.Ready (desired.normalizedDesired (observation desired holding))
      (desired.normalizedObserved (observation desired holding)) holding := by
  cases part with
  | collection c => exact observed_items fit.keyed there
  | document d =>
    cases d with
    | tagging =>
      intro directory
      obtain ⟨keys, distinct⟩ := fit.tags directory due
      exact ⟨keys, normalized_tags_distinct _ distinct⟩
    | _ => exact trivial
  | _ => exact trivial

/-- What a pass wrote of a bucket matches, unless it never settles; and what it did not write was not
due. -/
theorem kept_matches_iff {kept : Holding} (fit : holding.Fit desired)
    (parts : ∀ part : Part, part.existsOn desired.name = true →
      (¬ part.IsDue desired holding ∧ kept.SamePart holding part) ∨
      (part.IsDue desired holding ∧
        (part.Ready (desired.normalizedDesired (observation desired holding))
            (desired.normalizedObserved (observation desired holding)) holding →
          part.Written (desired.normalizedDesired (observation desired holding)) kept)))
    {part : Part} (there : part.existsOn desired.name = true) :
    part.Matches desired kept ↔ ¬ (part.NeverSettles desired ∧ part.IsDue desired holding) := by
  rcases parts part there with ⟨settled, same⟩ | ⟨due, written⟩
  · have matched := Part.matches_congr same (Part.matches_of_not_isDue settled)
    exact iff_of_true matched fun both => settled both.2
  · have other : part ≠ .acl := by
      rintro rfl
      exact due (fit.acl (Part.general_of_existsOn rfl there))
    rw [and_iff_left due]
    refine Part.matches_of_written_iff (asksFor_normalized desired _)
      (written (ready_of_fit fit there due)) ?_ other
    rintro s rfl
    rw [normalizedDesired_setting, filledSetting, observation,
      if_neg (by simp [Part.general_of_existsOn rfl there]), generalObservation_setting]
    cases desired.setting s <;> simp [filled]

/-- What was written of a new bucket matches, unless it never settles, and the rest matches anyway. -/
theorem created_matches_iff {tags : List Tag} {kept : Holding}
    (acl : isDirectoryName desired.name = false → desired.MatchesAcl privateAcl)
    (untagged : isDirectoryName desired.name = true → tags = [] ∧
      (((desired.tagging.bind (·.tagSet)).getD []).map (·.key)).Nodup)
    (parts : ∀ part : Part, part.existsOn desired.name = true →
      (part.isStated desired = false ∧ kept.SamePart ⟨newBucket desired.creation, tags⟩ part) ∨
      (part.isStated desired = true ∧
        (part.Ready desired { name := desired.name } ⟨newBucket desired.creation, tags⟩ →
          part.Written desired kept)))
    {part : Part} (there : part.existsOn desired.name = true) :
    part.Matches desired kept ↔ ¬ part.NeverSettles desired := by
  rcases parts part there with ⟨unstated, same⟩ | ⟨stated, written⟩
  · refine iff_of_true (Part.matches_congr same ?_) (mt Part.NeverSettles.isStated (by simp [unstated]))
    by_cases other : part = .acl
    · subst other
      exact acl (Part.general_of_existsOn rfl there)
    · exact newBucket_matches unstated other fun directory => (untagged directory).1
  · have ready : part.Ready desired { name := desired.name } ⟨newBucket desired.creation, tags⟩ := by
      cases part with
      | collection c => cases c <;> exact fun _ => rfl
      | document d =>
        cases d with
        | tagging =>
          intro directory
          rw [(untagged directory).1]
          exact ⟨nofun, (untagged directory).2⟩
        | _ => exact trivial
      | _ => exact trivial
    refine Part.matches_of_written_iff (asksFor_self desired) (written ready) ?_ ?_
    · rintro s rfl
      simpa [Part.isStated, Option.isSome_iff_ne_none] using stated
    · rintro rfl
      cases stated

section Converging
variable (calm : store.failures = {}) (keyed : store.IsKeyed) (valid : desired.validate = .ok ())
  (addressed : bucketArn desired.name location.region location.account = .ok arn)
  (complete : desired.IsComplete)
  (acl : isDirectoryName desired.name = false → desired.MatchesAcl (store.aclOf desired.name))
  (tags : isDirectoryName desired.name = true → desired.TagsManageable store arn)
include calm keyed valid addressed complete acl tags

/-- A pass that may create the bucket succeeds and makes it match. -/
theorem sync_makes_match : ∃ synced after kept,
    (sync location desired .adoptOrCreate).run serve store = (.ok synced, after) ∧
      after.Holds desired.name arn kept ∧ kept.Matches desired := by
  have settles (part : Part) : ¬ part.NeverSettles desired :=
    complete.settles fun directory empty => ((tags directory).wanted [] empty).1 rfl
  cases found : store.buckets.get? desired.name with
  | some stored =>
    have holds : store.Holds desired.name arn ⟨stored, store.tagsOf arn⟩ := ⟨calm, found, rfl⟩
    have fit : Holding.Fit ⟨stored, store.tagsOf arn⟩ desired := by
      refine ⟨fun _ => keyed desired.name stored found, fun general => ?_, fun directory _ =>
        ⟨(tags directory).keyed, (tags directory).distinct⟩⟩
      have same := acl general
      rwa [aclOf, found] at same
    obtain ⟨wrote, after, kept, -, -, ran, left, parts⟩ :=
      sync_run .adoptOrCreate holds addressed valid fit.keyed
    exact ⟨_, after, kept, ran, left, fun part there =>
      (kept_matches_iff fit parts there).mpr fun both => settles part both.1⟩
  | none =>
    obtain ⟨place, after, kept, ran, left, parts⟩ := sync_run_missing calm found addressed valid
    refine ⟨_, after, kept, ran, left, fun part there => (created_matches_iff (fun general => ?_)
      (fun directory => ⟨(tags directory).untagged found, (tags directory).distinct⟩) parts there).mpr
      (settles part)⟩
    have fresh := acl general
    rwa [aclOf, found] at fresh

end Converging

/-- From every store that can be reached, once no call is made to fail, a pass that may create the
bucket succeeds and leaves one that matches, and every next pass finds it in sync and only reads. -/
theorem sync_then_inSync (reached : Reached store) (calm : store.failures = {})
    (valid : desired.validate = .ok ())
    (addressed : bucketArn desired.name location.region location.account = .ok arn)
    (complete : desired.IsComplete)
    (acl : isDirectoryName desired.name = false → desired.MatchesAcl (store.aclOf desired.name))
    (tags : isDirectoryName desired.name = true → desired.TagsManageable store arn)
    (next : AdoptionPolicy) :
    ∃ synced after kept,
      (sync location desired .adoptOrCreate).run serve store = (.ok synced, after) ∧
      after.Holds desired.name arn kept ∧ kept.Matches desired ∧
      ∃ calls, (∀ call ∈ calls, call.mutates = false) ∧
        (sync location desired next).run serve after
          = (.ok ⟨.inSync, arn, none⟩, { after with calls := after.calls ++ calls }) := by
  obtain ⟨synced, after, kept, first, left, matched⟩ :=
    sync_makes_match calm reached.isKeyed valid addressed complete acl tags
  refine ⟨synced, after, kept, first, left, matched, ?_⟩
  have keyed : after.IsKeyed := by
    have ran := (reached.pass (sync location desired .adoptOrCreate)).isKeyed
    rwa [first] at ran
  exact sync_run_of_matches next left addressed valid (keyed desired.name kept.bucket left.found) matched

/-- A bucket whose creation was cut short is brought in line by the next pass, and then left alone. -/
theorem half_created_converges :
    let location : Location := ⟨none, "eu-west-1"⟩
    let desired : BucketSpec := {
      name := "ledger"
      versioning := some { status := some "Enabled" }
      policy := some "words" }
    let refusing : Store := { failures := Keyed.ofList [("PutBucketPolicy", "MalformedPolicy")] }
    let halfway : Store :=
      { ((sync location desired .adoptOrCreate).run serve refusing).2 with failures := {} }
    (halfway.buckets.get? "ledger").map (·.policy) = some none ∧
      ∃ synced after kept,
        (sync location desired .adoptOrCreate).run serve halfway = (.ok synced, after) ∧
        after.Holds "ledger" "arn:aws:s3:::ledger" kept ∧ kept.Matches desired ∧
        ∃ calls, (∀ call ∈ calls, call.mutates = false) ∧
          (sync location desired .adopt).run serve after
            = (.ok ⟨.inSync, "arn:aws:s3:::ledger", none⟩,
                { after with calls := after.calls ++ calls }) := by
  intro location desired refusing halfway
  have nothing : refusing.IsKeyed := fun name stored found => by cases found
  have cutShort := (Reached.start nothing).pass (sync location desired .adoptOrCreate)
  have reached : Reached halfway := cutShort.failing {}
  have complete : desired.IsComplete := by simp [BucketSpec.IsComplete, desired]
  have acl : desired.MatchesAcl (halfway.aclOf desired.name) := by
    have same : halfway.aclOf desired.name = privateAcl := by decide +kernel
    rw [same]
    unfold MatchesAcl
    decide +kernel
  have addressed : bucketArn desired.name location.region location.account
      = .ok "arn:aws:s3:::ledger" := by decide +kernel
  have valid : desired.validate = .ok () := by decide +kernel
  have general : isDirectoryName desired.name = false := by decide +kernel
  have unwritten : (halfway.buckets.get? "ledger").map (·.policy) = some none := by decide +kernel
  exact ⟨unwritten, sync_then_inSync reached rfl valid addressed complete (fun _ => acl)
    (fun directory => absurd (general.symm.trans directory) (by simp)) .adopt⟩

end Pass

end BucketSteward

import BucketSteward.Proofs.Convergence

/-! Passes that find the same to do again and again. A pass leaves a bucket steady: those parts of it do
not match that never settle and that had to be written, and no others (`Holding.Steady`). Every further
pass writes just these, reports them, and leaves the bucket steady, however many follow. So a setting
that is desired without its word is reported forever once it was due, and so is an empty tag set of a
directory bucket; where no part is like that, every further pass only reads. -/
namespace BucketSteward

open Store BucketSpec

/-- A part that never settles, and that has to be written if the bucket is there already. -/
def Part.Recurs (desired : BucketSpec) (store : Store) (arn : String) (part : Part) : Prop :=
  part.NeverSettles desired ∧ ∀ stored, store.buckets.get? desired.name = some stored →
    part.IsDue desired ⟨stored, store.tagsOf arn⟩

/-- Where some parts recur, those are written, and replication is with versioning. -/
def Part.isRewritten (recurs : Part → Bool) (part : Part) : Bool :=
  recurs part || (part == .document .replication && recurs (.setting .versioning))

/-- What is reported where some parts recur, in the order of writing. -/
def BucketSpec.rewritten (desired : BucketSpec) (recurs : Part → Bool) : List String :=
  ((Part.orderFor desired).filter (Part.isRewritten recurs)).map Part.property

/-- The parts of a bucket that recur are those that do not match, and none of them settles; where the
tags recur, there are none. -/
structure Holding.Steady (holding : Holding) (desired : BucketSpec) (recurs : Part → Bool) : Prop where
  recurring : ∀ part, recurs part = true →
    part.existsOn desired.name = true ∧ part.NeverSettles desired
  matches_iff : ∀ part, part.existsOn desired.name = true →
    (part.Matches desired holding ↔ recurs part = false)
  untagged : recurs (.document .tagging) = true → holding.tags = []

/-- The tags of a bucket; those of a directory bucket are kept under its resource name. -/
def Holding.storedTags (holding : Holding) (name : String) : List Tag :=
  if isDirectoryName name then holding.tags else (holding.bucket.tagging.bind (·.tagSet)).getD []

/-- Items that are as desired are kept under their own ids. -/
theorem StoredBucket.isKeyed_of_matches {bucket : StoredBucket} {desired : BucketSpec}
    (matched : ∀ c : Collection, c.Matches (desired.collection c) (bucket.items c)) :
    bucket.IsKeyed := by
  intro c id item kept
  have listed : c.find? id ((desired.collection c).getD []) = some item :=
    (matched c id).symm.trans kept
  exact Collection.id_of_find? listed

namespace Holding.Steady

variable {holding : Holding} {desired : BucketSpec} {recurs : Part → Bool} {part : Part}

/-- A part that always settles matches. -/
theorem settled (steady : holding.Steady desired recurs) (there : part.existsOn desired.name = true)
    (settles : ¬ part.NeverSettles desired) : part.Matches desired holding := by
  apply (steady.matches_iff part there).mpr
  rw [Bool.eq_false_iff]
  exact fun recurring => settles (steady.recurring part recurring).2

/-- What is due in a steady bucket is what is written again. -/
theorem isDue_iff (steady : holding.Steady desired recurs) (there : part.existsOn desired.name = true) :
    part.IsDue desired holding ↔ part.isRewritten recurs = true := by
  have replicated (there : (Part.document .replication).existsOn desired.name = true) :
      recurs (.document .replication) = false :=
    (steady.matches_iff _ there).mp (steady.settled there id)
  unfold Part.IsDue Part.isRewritten
  split
  -- replication and versioning are due together, and replication always settles
  case isTrue pair =>
    have general : isDirectoryName desired.name = false := by
      rcases pair with rfl | rfl <;> exact Part.general_of_existsOn rfl there
    have all (part : Part) : part.existsOn desired.name = true := by simp [Part.existsOn, general]
    rw [steady.matches_iff _ (all _), steady.matches_iff _ (all _), replicated (all _)]
    rcases pair with rfl | rfl
    · simp
    · simp [replicated (all _)]
  case isFalse other =>
    have unlike : part ≠ .document .replication := fun same => other (.inr same)
    rw [steady.matches_iff part there]
    simp [unlike]

/-- Every further pass can bring a steady bucket in line. -/
theorem fit (steady : holding.Steady desired recurs) : holding.Fit desired where
  keyed general := by
    apply StoredBucket.isKeyed_of_matches
    intro c
    have there : (Part.collection c).existsOn desired.name = true := by simp [Part.existsOn, general]
    exact steady.settled there id
  acl general := by
    have there : Part.acl.existsOn desired.name = true := by simp [Part.existsOn, general]
    exact steady.settled there id
  tags directory due := by
    have there : (Part.document .tagging).existsOn desired.name = true := by
      simp [Part.existsOn, Part.isDirectoryPart]
    have recurring : recurs (.document .tagging) = true := by
      simpa [Part.isRewritten] using (steady.isDue_iff there).mp due
    obtain ⟨-, -, empty⟩ := steady.recurring _ recurring
    rw [steady.untagged recurring, empty]
    exact ⟨List.forall_mem_nil _, .nil⟩

/-- A part recurs exactly when it never settles and is due. -/
theorem recurs_iff (steady : holding.Steady desired recurs) :
    recurs part = true ↔ part.existsOn desired.name = true ∧ part.NeverSettles desired ∧
      part.IsDue desired holding := by
  constructor
  · intro recurring
    obtain ⟨there, never⟩ := steady.recurring part recurring
    have rewritten : part.isRewritten recurs = true := by simp [Part.isRewritten, recurring]
    exact ⟨there, never, (steady.isDue_iff there).mpr rewritten⟩
  · rintro ⟨there, never, due⟩
    have rewritten := (steady.isDue_iff there).mp due
    have other : part ≠ .document .replication := by
      rintro rfl
      exact never
    simpa [Part.isRewritten, other] using rewritten

/-- What is written again is a part of the bucket, and no collection. -/
theorem rewritten_exists (steady : holding.Steady desired recurs)
    (rewritten : part.isRewritten recurs = true) :
    part.existsOn desired.name = true ∧ ∀ c, part ≠ .collection c := by
  simp only [Part.isRewritten, Bool.or_eq_true, Bool.and_eq_true, beq_iff_eq] at rewritten
  rcases rewritten with recurring | ⟨rfl, recurring⟩
  · obtain ⟨there, never⟩ := steady.recurring part recurring
    refine ⟨there, ?_⟩
    rintro c rfl
    exact never
  · obtain ⟨there, -⟩ := steady.recurring _ recurring
    have general := Part.general_of_existsOn rfl there
    exact ⟨by simp [Part.existsOn, general], nofun⟩

end Holding.Steady

namespace Pass

open Program

variable {store : Store} {location : Location} {desired : BucketSpec} {arn : String}
  {holding : Holding} {recurs : Part → Bool}

/-- Passes over one bucket, one after the other; the outcome of each. -/
def syncs (location : Location) (desired : BucketSpec) : List AdoptionPolicy → Pass (List Outcome)
  | [] => pure []
  | adoption :: rest => do
      let synced ← sync location desired adoption
      let outcomes ← syncs location desired rest
      pure (synced.outcome :: outcomes)

theorem syncs_run_cons {adoption : AdoptionPolicy} {rest : List AdoptionPolicy} {synced : Synced}
    {middle after : Store} {outcomes : List Outcome}
    (first : (sync location desired adoption).run serve store = (.ok synced, middle))
    (others : (syncs location desired rest).run serve middle = (.ok outcomes, after)) :
    (syncs location desired (adoption :: rest)).run serve store
      = (.ok (synced.outcome :: outcomes), after) := by
  rw [syncs, bind_eq, run_bind, first]
  simp only
  rw [bind_eq, run_bind, others]
  rfl

/-- Passes over a bucket that matches only read it. -/
theorem syncs_run_of_matches (holds : store.Holds desired.name arn holding)
    (addressed : bucketArn desired.name location.region location.account = .ok arn)
    (valid : desired.validate = .ok ())
    (keyed : isDirectoryName desired.name = false → holding.bucket.IsKeyed)
    (matched : holding.Matches desired) (policies : List AdoptionPolicy) :
    ∃ calls, (∀ call ∈ calls, call.mutates = false) ∧
      (syncs location desired policies).run serve store
        = (.ok (List.replicate policies.length .inSync), { store with calls := store.calls ++ calls }) := by
  induction policies generalizing store with
  | nil => exact ⟨[], by simp, by simp [syncs, pure_eq, run]⟩
  | cons adoption rest ih =>
    obtain ⟨calls, reads, first⟩ := sync_run_found adoption holds addressed valid
    have left : ({ store with calls := store.calls ++ calls } : Store).Holds desired.name arn holding :=
      ⟨holds.calm, holds.found, holds.tags⟩
    obtain ⟨more, silent, others⟩ := ih left
    rw [settle_of_matches location valid keyed matched] at first
    refine ⟨calls ++ more, ?_, ?_⟩
    · intro call among
      exact (List.mem_append.mp among).elim (reads call) (silent call)
    · rw [syncs_run_cons first others, List.append_assoc]
      rfl

/-- Without a tag in it, a desired tag set is not changed by normalizing. -/
theorem normalized_tagging {tagging : Tagging} (wanted : desired.tagging = some tagging)
    (empty : tagging.tagSet = none ∨ tagging.tagSet = some []) (observed : BucketSpec) :
    (desired.normalizedDesired observed).tagging = some tagging := by
  have sorted : (desired.normalizedDesired observed).tagging
      = (filled (fun _ => Document.tagging.assumed) desired.tagging observed.tagging).map
          Tagging.inOrder := rfl
  rw [sorted, wanted]
  obtain ⟨tags⟩ := tagging
  rcases empty with rfl | rfl <;> rfl

/-- Where no tag is desired, writing the tags leaves none. -/
theorem written_untagged {tagging : Tagging} {observed : BucketSpec} {kept : Holding}
    (wanted : desired.tagging = some tagging)
    (empty : tagging.tagSet = none ∨ tagging.tagSet = some [])
    (written : (Part.document .tagging).Written (desired.normalizedDesired observed) kept) :
    kept.storedTags desired.name = [] := by
  have named : (desired.normalizedDesired observed).name = desired.name := rfl
  simp only [Part.Written, normalized_tagging wanted empty, named] at written
  unfold Holding.storedTags
  split
  case isTrue directory =>
    rw [if_pos directory] at written
    rw [written]
    rcases empty with none | empty <;> simp [*]
  case isFalse general =>
    rw [if_neg general] at written
    rw [written]
    rcases empty with none | empty <;> simp [Document.isConfigured, isFilled, Option.filter, *]

/-- Where no tag is desired, tags that are as desired are none. -/
theorem matched_untagged {tagging : Tagging} {kept : Holding}
    (wanted : desired.tagging = some tagging)
    (empty : tagging.tagSet = none ∨ tagging.tagSet = some [])
    (matched : (Part.document .tagging).Matches desired kept) :
    kept.storedTags desired.name = [] := by
  simp only [Part.Matches, wanted] at matched
  unfold Holding.storedTags
  split
  case isTrue directory =>
    rw [if_pos directory] at matched
    rcases empty with none | empty
    · simpa [Tagging.MatchesTags, none] using matched
    · have listed : (some tagging).bind (·.tagSet) = some [] := empty
      exact absurd matched (Tagging.not_matchesTags_of_empty listed _)
  case isFalse general =>
    rw [if_neg general] at matched
    have silent : ¬ Document.tagging.Speaks tagging.inOrder := by
      obtain ⟨tags⟩ := tagging
      rcases empty with rfl | rfl <;> simp [Document.Speaks, Tagging.inOrder, Tag.inOrder]
    rcases matched.2 silent with none | same
    · rw [Option.map_eq_none_iff.mp none]
      rfl
    · obtain ⟨kept, there, sorted⟩ := Option.map_eq_some_iff.mp same
      rw [there]
      have tags : kept.tagSet.map Tag.inOrder = tagging.tagSet.map Tag.inOrder :=
        congrArg Tagging.tagSet sorted
      cases stored : kept.tagSet with
      | none => simp [stored]
      | some list =>
        rw [stored] at tags
        rcases empty with none | empty
        · simp [none] at tags
        · have sorted : Tag.inOrder list = Tag.inOrder [] := by simpa [empty] using tags
          have nothing := Tag.inOrder_eq_nil.mp sorted
          simp [stored, nothing]

/-- What a pass leaves of a bucket is steady: a part recurs exactly when it never settles and had to be
written. -/
theorem kept_steady {kept : Holding} (fit : holding.Fit desired)
    (recurs_iff : ∀ part, recurs part = true ↔ part.existsOn desired.name = true ∧
      part.NeverSettles desired ∧ part.IsDue desired holding)
    (parts : ∀ part : Part, part.existsOn desired.name = true →
      (¬ part.IsDue desired holding ∧ kept.SamePart holding part) ∨
      (part.IsDue desired holding ∧
        (part.Ready (desired.normalizedDesired (observation desired holding))
            (desired.normalizedObserved (observation desired holding)) holding →
          part.Written (desired.normalizedDesired (observation desired holding)) kept))) :
    kept.Steady desired recurs := by
  constructor
  · intro part recurring
    obtain ⟨there, never, -⟩ := (recurs_iff part).mp recurring
    exact ⟨there, never⟩
  · intro part there
    rw [kept_matches_iff fit parts there, ← Bool.not_eq_true, recurs_iff, and_iff_right there]
  · intro recurring
    obtain ⟨there, never, due⟩ := (recurs_iff _).mp recurring
    rcases parts _ there with ⟨settled, -⟩ | ⟨-, written⟩
    · exact absurd due settled
    · obtain ⟨directory, empty⟩ := never
      obtain ⟨tagging, wanted, none⟩ := Option.bind_eq_some_iff.mp empty
      have left := written_untagged wanted (.inr none) (written (ready_of_fit fit there due))
      rwa [Holding.storedTags, if_pos directory] at left

section Steady
variable (addressed : bucketArn desired.name location.region location.account = .ok arn)
  (valid : desired.validate = .ok ())
include addressed valid

/-- A pass over a steady bucket reports the parts that recur and leaves it steady. -/
theorem sync_run_steady (adoption : AdoptionPolicy) (holds : store.Holds desired.name arn holding)
    (steady : holding.Steady desired recurs) :
    ∃ after kept, (sync location desired adoption).run serve store
        = (.ok ⟨.reporting (desired.rewritten recurs), arn, none⟩, after) ∧
      after.Holds desired.name arn kept ∧ kept.Steady desired recurs := by
  obtain ⟨wrote, after, kept, reported, -, ran, left, parts⟩ :=
    sync_run adoption holds addressed valid steady.fit.keyed
  have again : (Part.orderFor desired).filter wrote
      = (Part.orderFor desired).filter (Part.isRewritten recurs) := by
    apply List.filter_congr
    intro part _
    rw [Bool.eq_iff_iff]
    constructor
    · intro written
      obtain ⟨there, due⟩ := reported.due part written
      exact (steady.isDue_iff there).mp due
    · intro rewritten
      obtain ⟨there, unlike⟩ := steady.rewritten_exists rewritten
      rcases reported.all part there ((steady.isDue_iff there).mpr rewritten) with written | ⟨c, items⟩
      · exact written
      · exact absurd items (unlike c)
  rw [again] at ran
  exact ⟨after, kept, ran, left, kept_steady steady.fit (fun _ => steady.recurs_iff) parts⟩

/-- However many passes follow, each of them reports the same and leaves the bucket steady. -/
theorem syncs_run_steady (holds : store.Holds desired.name arn holding)
    (steady : holding.Steady desired recurs) (policies : List AdoptionPolicy) :
    ∃ after kept, (syncs location desired policies).run serve store
        = (.ok (List.replicate policies.length (.reporting (desired.rewritten recurs))), after) ∧
      after.Holds desired.name arn kept ∧ kept.Steady desired recurs := by
  induction policies generalizing store holding with
  | nil => exact ⟨store, holding, rfl, holds, steady⟩
  | cons adoption rest ih =>
    obtain ⟨middle, between, first, held, steady⟩ := sync_run_steady addressed valid adoption holds steady
    obtain ⟨after, kept, others, left, steady⟩ := ih held steady
    exact ⟨after, kept, syncs_run_cons first others, left, steady⟩

end Steady

/-- Nothing is reported exactly where no part recurs. -/
theorem rewritten_eq_nil_iff : desired.rewritten recurs = [] ↔ ∀ part, recurs part = false := by
  rw [BucketSpec.rewritten, List.map_eq_nil_iff, List.filter_eq_nil_iff]
  constructor
  · intro none part
    have absent := none part (Part.mem_orderFor desired part)
    simp only [Part.isRewritten, Bool.or_eq_true, not_or, Bool.not_eq_true] at absent
    exact absent.1
  · intro none part _
    simp [Part.isRewritten, none]

/-- A specification that says nothing about the ACL is in line with the one of a new bucket. -/
theorem matchesAcl_privateAcl (silent : desired.aclTexts = {}) : desired.MatchesAcl privateAcl := by
  have texts : (({ name := desired.name } : BucketSpec).withObservedAcl privateAcl).aclTexts
      = (({ name := "" } : BucketSpec).withObservedAcl privateAcl).aclTexts := rfl
  apply (Part.members_untouched_iff .acl).mpr
  simp only [SaysSame, normalized_aclTexts, silent, texts]
  decide +kernel

section Settings
variable (calm : store.failures = {}) (keyed : store.IsKeyed)
  (general : isDirectoryName desired.name = false)
  (addressed : bucketArn desired.name location.region location.account = .ok arn)
  (silent : desired.aclTexts = {}) (acl : store.aclOf desired.name = privateAcl)
include calm keyed general addressed silent acl

/-- A pass that may create the bucket leaves it steady. -/
theorem sync_leaves_steady (recurs_iff : ∀ part, recurs part = true ↔ part.Recurs desired store arn) :
    ∃ synced after kept, (sync location desired .adoptOrCreate).run serve store = (.ok synced, after) ∧
      after.Holds desired.name arn kept ∧ kept.Steady desired recurs := by
  have there (part : Part) : part.existsOn desired.name = true := by simp [Part.existsOn, general]
  have valid : desired.validate = .ok () := by simp [validate, general]
  have matched : desired.MatchesAcl privateAcl := matchesAcl_privateAcl silent
  have undirected {P : Prop} (directory : isDirectoryName desired.name = true) : P := by
    rw [general] at directory
    cases directory
  cases found : store.buckets.get? desired.name with
  | some stored =>
    -- the pass writes what is due and nothing else
    have holds : store.Holds desired.name arn ⟨stored, store.tagsOf arn⟩ := ⟨calm, found, rfl⟩
    have fit : Holding.Fit ⟨stored, store.tagsOf arn⟩ desired := by
      refine ⟨fun _ => keyed desired.name stored found, fun _ => ?_, undirected⟩
      have own : stored.acl = privateAcl := by simpa [aclOf, found] using acl
      rwa [own]
    have due (part : Part) : recurs part = true ↔ part.existsOn desired.name = true ∧
        part.NeverSettles desired ∧ part.IsDue desired ⟨stored, store.tagsOf arn⟩ := by
      rw [recurs_iff, Part.Recurs, and_iff_right (there part)]
      simp [found]
    obtain ⟨wrote, after, kept, -, -, ran, left, parts⟩ :=
      sync_run .adoptOrCreate holds addressed valid fit.keyed
    exact ⟨_, after, kept, ran, left, kept_steady fit due parts⟩
  | none =>
    -- the pass writes all that is stated, so a part recurs as soon as it never settles
    have never (part : Part) : recurs part = true ↔ part.NeverSettles desired := by
      rw [recurs_iff, Part.Recurs]
      simp [found]
    obtain ⟨place, after, kept, ran, left, parts⟩ := sync_run_missing calm found addressed valid
    refine ⟨_, after, kept, ran, left, ?_, ?_, ?_⟩
    · exact fun part recurring => ⟨there part, (never part).mp recurring⟩
    · intro part _
      rw [← Bool.not_eq_true, never]
      exact created_matches_iff (fun _ => matched) undirected parts (there part)
    · exact fun recurring => undirected ((never _).mp recurring).1

/-- Without opinion on the ACL, a pass that may create a bucket succeeds, and all further passes report
the same: the settings that are desired without their word and that the first pass had to write, and
replication with versioning. Only where there is no such setting is the bucket in sync from then on, and
only read. -/
theorem further_passes_report_recurring :
    ∃ synced after recurs,
      (sync location desired .adoptOrCreate).run serve store = (.ok synced, after) ∧
      (∀ part : Part, recurs part = true ↔ part.Recurs desired store arn) ∧
      (desired.rewritten recurs = [] ↔ ∀ s, ¬ (Part.setting s).Recurs desired store arn) ∧
      ∀ policies, ∃ final,
        (syncs location desired policies).run serve after
          = (.ok (List.replicate policies.length (.reporting (desired.rewritten recurs))), final) ∧
        (desired.rewritten recurs = [] → ∃ calls, (∀ call ∈ calls, call.mutates = false) ∧
          final = { after with calls := after.calls ++ calls }) := by
  classical
  let recurs (part : Part) : Bool := decide (part.Recurs desired store arn)
  have recurs_iff (part : Part) : recurs part = true ↔ part.Recurs desired store arn := decide_eq_true_iff
  have valid : desired.validate = .ok () := by simp [validate, general]
  obtain ⟨synced, after, kept, first, left, steady⟩ :=
    sync_leaves_steady calm keyed general addressed silent acl recurs_iff
  refine ⟨synced, after, recurs, first, recurs_iff, ?_, fun policies => ?_⟩
  · rw [rewritten_eq_nil_iff]
    constructor
    · intro none s recurring
      exact Bool.false_ne_true ((none _).symm.trans ((recurs_iff _).mpr recurring))
    · intro none part
      rw [Bool.eq_false_iff]
      intro recurring
      cases part with
      | setting s => exact none s ((recurs_iff _).mp recurring)
      | document d =>
        obtain ⟨-, never⟩ := steady.recurring _ recurring
        cases d with
        | tagging => simp [Part.NeverSettles, general] at never
        | _ => exact never
      | collection c => exact (steady.recurring _ recurring).2
      | policy | objectLock | acl => exact (steady.recurring _ recurring).2
  · obtain ⟨final, again, ran, -, -⟩ := syncs_run_steady addressed valid left steady policies
    refine ⟨final, ran, fun none => ?_⟩
    have matched : kept.Matches desired := fun part there =>
      (steady.matches_iff part there).mpr (rewritten_eq_nil_iff.mp none part)
    obtain ⟨calls, reads, silent⟩ :=
      syncs_run_of_matches left addressed valid steady.fit.keyed matched policies
    rw [ran] at silent
    exact ⟨calls, reads, (Prod.mk.inj silent).2⟩

end Settings

/-- Settings that are desired without a word and stored without one stay in sync. -/
theorem wordless_settings_inSync :
    let location : Location := ⟨none, "eu-west-1"⟩
    let stored : StoredBucket := {
      acl := privateAcl
      requestPayment := some { payer := some "BucketOwner" } }
    let store : Store := { buckets := Keyed.ofList [("ledger", stored)] }
    let desired : BucketSpec := { name := "ledger", accelerate := some {}, versioning := some {} }
    ∃ synced after,
      (sync location desired .adoptOrCreate).run serve store = (.ok synced, after) ∧
      ∀ policies, ∃ final, (syncs location desired policies).run serve after
        = (.ok (List.replicate policies.length .inSync), final) := by
  intro location stored store desired
  have only (name : String) : store.buckets.get? name = if name = "ledger" then some stored else none :=
    Keyed.get?_insert _ _ _ _
  have found : store.buckets.get? desired.name = some stored := (only _).trans (if_pos rfl)
  have keyed : store.IsKeyed := by
    intro name bucket there collection id item kept
    rw [only] at there
    split at there
    · obtain rfl := Option.some.inj there
      cases collection <;> cases kept
    · cases there
  have general : isDirectoryName desired.name = false := by decide +kernel
  have addressed : bucketArn desired.name location.region location.account
      = .ok "arn:aws:s3:::ledger" := by decide +kernel
  have acl : store.aclOf desired.name = privateAcl := by rw [aclOf, found]
  obtain ⟨synced, after, recurs, first, -, silent, further⟩ :=
    further_passes_report_recurring rfl keyed general addressed rfl acl
  refine ⟨synced, after, first, fun policies => ?_⟩
  have none : desired.rewritten recurs = [] := by
    apply silent.mpr
    rintro s ⟨⟨value, wanted, -⟩, due⟩
    have unlike := due stored found
    cases s with
    | accelerate =>
      rw [Part.IsDue, if_neg (by decide)] at unlike
      exact unlike rfl
    | versioning =>
      rw [Part.IsDue, if_pos (by decide)] at unlike
      exact unlike ⟨rfl, .inl rfl⟩
    | logging | notification | requestPayment => cases wanted
  obtain ⟨final, ran, -⟩ := further policies
  rw [none] at ran
  exact ⟨final, ran⟩

/-- Acceleration that is desired without a status is written again after the bucket was created. -/
theorem wordless_acceleration_recurs :
    let desired : BucketSpec := { name := "ledger", accelerate := some {} }
    let ran := (syncs ⟨none, "eu-west-1"⟩ desired [.adoptOrCreate, .adoptOrCreate]).run serve {}
    ran.1 = .ok [.created, .updated ["Accelerate"]] ∧
      ran.2.calls.getLast? = some (.putSetting .accelerate "ledger" { status := some "Suspended" }) := by
  decide +kernel

/-! ## Tag sets without a tag -/

section Tags
variable {tagging : Tagging} (wanted : desired.tagging = some tagging)
  (empty : tagging.tagSet = none ∨ tagging.tagSet = some [])
  (others : ∀ part : Part, part.existsOn desired.name = true → part ≠ .document .tagging →
    part.Matches desired holding)

include wanted empty others in
/-- A bucket that is as desired but for its tags can be brought in line where no tag is desired. -/
theorem fit_of_others (keys : ∀ tag ∈ holding.tags, tag.key ≠ none) : holding.Fit desired where
  keyed general := by
    apply StoredBucket.isKeyed_of_matches
    exact fun c => others (.collection c) (by simp [Part.existsOn, general]) nofun
  acl general := others .acl (by simp [Part.existsOn, general]) nofun
  tags _ _ := by
    refine ⟨keys, ?_⟩
    rcases empty with none | empty <;> simp [*]

include wanted others in
/-- In a bucket that is as desired but for its tags, only an empty list of tags can recur, and that on a
directory bucket. -/
theorem only_tags_recur {part : Part} :
    (part.existsOn desired.name = true ∧ part.NeverSettles desired ∧ part.IsDue desired holding) ↔
      part = .document .tagging ∧ isDirectoryName desired.name = true ∧ tagging.tagSet = some [] := by
  have never : (Part.document .tagging).NeverSettles desired ↔
      isDirectoryName desired.name = true ∧ tagging.tagSet = some [] := by
    simp [Part.NeverSettles, wanted]
  constructor
  · rintro ⟨there, unsettled, due⟩
    by_cases other : part = .document .tagging
    · subst other
      exact ⟨rfl, never.mp unsettled⟩
    · exfalso
      unfold Part.IsDue at due
      split at due
      case isTrue pair =>
        rcases pair with rfl | rfl <;>
          exact due ⟨others _ there (by decide), others _ there (by decide)⟩
      case isFalse => exact due (others part there other)
  · rintro ⟨rfl, directory, none⟩
    have unlike : ¬ Tagging.MatchesTags desired.tagging holding.tags :=
      Tagging.not_matchesTags_of_empty (by simp [wanted, none]) _
    refine ⟨by simp [Part.existsOn, Part.isDirectoryPart], never.mpr ⟨directory, none⟩, ?_⟩
    rw [Part.IsDue, if_neg (by simp), Part.Matches, if_pos directory]
    exact unlike

/-- Where the tags alone recur, they alone are reported. -/
theorem rewritten_of_tags (tags : ∀ part, recurs part = (part == .document .tagging)) :
    desired.rewritten recurs = ["Tagging"] := by
  obtain rfl : recurs = (· == .document .tagging) := funext tags
  unfold BucketSpec.rewritten Part.orderFor Part.replicationOrder
  split <;> rfl

end Tags

/-- Where nothing but the tags can differ and no tag is desired, a pass removes the tags. All further
passes find the bucket in sync, except a directory bucket of which an empty list of tags is desired: they
report its tags, which are read as no list. -/
theorem further_passes_report_empty_tags {stored : StoredBucket} {tagging : Tagging}
    (calm : store.failures = {}) (found : store.buckets.get? desired.name = some stored)
    (keys : ∀ tag ∈ store.tagsOf arn, tag.key ≠ none) (valid : desired.validate = .ok ())
    (addressed : bucketArn desired.name location.region location.account = .ok arn)
    (silent : desired.aclTexts = {}) (acl : stored.acl = privateAcl)
    (wanted : desired.tagging = some tagging)
    (empty : tagging.tagSet = none ∨ tagging.tagSet = some [])
    (others : ∀ part : Part, part.existsOn desired.name = true → part ≠ .document .tagging →
      part ≠ .acl → part.Matches desired ⟨stored, store.tagsOf arn⟩) (adoption : AdoptionPolicy) :
    ∃ synced after kept, (sync location desired adoption).run serve store = (.ok synced, after) ∧
      after.Holds desired.name arn kept ∧ kept.storedTags desired.name = [] ∧
      ∀ policies, ∃ final, (syncs location desired policies).run serve after
        = (.ok (List.replicate policies.length
            (if isDirectoryName desired.name = true ∧ tagging.tagSet = some []
              then .updated ["Tagging"] else .inSync)), final) := by
  let endless : Prop := isDirectoryName desired.name = true ∧ tagging.tagSet = some []
  let recurs (part : Part) : Bool := part == .document .tagging && decide endless
  have holds : store.Holds desired.name arn ⟨stored, store.tagsOf arn⟩ := ⟨calm, found, rfl⟩
  have same (part : Part) (there : part.existsOn desired.name = true)
      (other : part ≠ .document .tagging) : part.Matches desired ⟨stored, store.tagsOf arn⟩ := by
    by_cases own : part = .acl
    · subst own
      show desired.MatchesAcl stored.acl
      rw [acl]
      exact matchesAcl_privateAcl silent
    · exact others part there other own
  have fit := fit_of_others wanted empty same keys
  obtain ⟨wrote, after, kept, -, -, ran, left, parts⟩ :=
    sync_run adoption holds addressed valid fit.keyed
  have steady : kept.Steady desired recurs := by
    refine kept_steady fit (fun part => ?_) parts
    rw [only_tags_recur wanted same]
    simp [recurs, endless]
  have reported : Outcome.reporting (desired.rewritten recurs)
      = if endless then .updated ["Tagging"] else .inSync := by
    by_cases forever : endless
    · rw [if_pos forever, rewritten_of_tags (by simp [recurs, forever])]
      rfl
    · rw [if_neg forever, rewritten_eq_nil_iff.mpr (by simp [recurs, forever])]
      rfl
  refine ⟨_, after, kept, ran, left, ?_, fun policies => ?_⟩
  · have tagged : (Part.document .tagging).existsOn desired.name = true := by
      simp [Part.existsOn, Part.isDirectoryPart]
    rcases parts _ tagged with ⟨settled, unchanged⟩ | ⟨due, written⟩
    · apply matched_untagged wanted empty
      exact Part.matches_congr unchanged (Part.matches_of_not_isDue settled)
    · exact written_untagged wanted empty (written (ready_of_fit fit tagged due))
  · obtain ⟨final, again, reports, -, -⟩ := syncs_run_steady addressed valid left steady policies
    rw [reported] at reports
    exact ⟨final, reports⟩

/-- The tags of a directory bucket are removed, and it stays in sync, where no list of tags is desired. -/
theorem absent_tag_list_inSync :
    let location : Location := ⟨some "111122223333", "eu-west-1"⟩
    let name := "ledger--use1-az4--x-s3"
    let arn := "arn:aws:s3express:eu-west-1:111122223333:bucket/ledger--use1-az4--x-s3"
    let stored : StoredBucket := { acl := privateAcl }
    let store : Store := {
      buckets := Keyed.ofList [(name, stored)]
      tags := Keyed.ofList [(arn, [⟨some "team", some "storage"⟩])] }
    let desired : BucketSpec := { name, tagging := some { tagSet := none } }
    ∃ synced after kept, (sync location desired .adopt).run serve store = (.ok synced, after) ∧
      after.Holds name arn kept ∧ kept.storedTags name = [] ∧
      ∀ policies, ∃ final, (syncs location desired policies).run serve after
        = (.ok (List.replicate policies.length .inSync), final) := by
  intro location name arn stored store desired
  have found : store.buckets.get? desired.name = some stored := rfl
  have keys : ∀ tag ∈ store.tagsOf arn, tag.key ≠ none := by decide +kernel
  have addressed : bucketArn desired.name location.region location.account = .ok arn := by decide +kernel
  have directory : isDirectoryName desired.name = true := by decide +kernel
  have others : ∀ part : Part, part.existsOn desired.name = true → part ≠ .document .tagging →
      part ≠ .acl → part.Matches desired ⟨stored, store.tagsOf arn⟩ := by
    intro part there tags _
    simp only [Part.existsOn, directory, Bool.not_true, Bool.false_or] at there
    cases part with
    | document d =>
      cases d with
      | encryption | lifecycle => exact .inl rfl
      | tagging => exact absurd rfl tags
      | _ => cases there
    | policy => rfl
    | _ => cases there
  obtain ⟨synced, after, kept, first, left, untagged, further⟩ :=
    further_passes_report_empty_tags rfl found keys (by decide +kernel) addressed rfl rfl rfl (.inl rfl)
      others .adopt
  refine ⟨synced, after, kept, first, left, untagged, fun policies => ?_⟩
  obtain ⟨final, ran⟩ := further policies
  rw [if_neg (fun both => nomatch both.2)] at ran
  exact ⟨final, ran⟩

/-- An empty list of tags that is desired of a directory bucket is reported again after the tags were
removed. -/
theorem empty_tag_list_recurs :
    let name := "ledger--use1-az4--x-s3"
    let arn := "arn:aws:s3express:eu-west-1:111122223333:bucket/ledger--use1-az4--x-s3"
    let store : Store := {
      buckets := Keyed.ofList [(name, { acl := privateAcl })]
      tags := Keyed.ofList [(arn, [⟨some "team", some "storage"⟩])] }
    let desired : BucketSpec := { name, tagging := some { tagSet := some [] } }
    let ran := (syncs ⟨some "111122223333", "eu-west-1"⟩ desired [.adopt, .adopt]).run serve store
    ran.1 = .ok [.updated ["Tagging"], .updated ["Tagging"]] ∧ ran.2.tagsOf arn = [] := by
  decide +kernel

end Pass

end BucketSteward

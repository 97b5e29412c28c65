import BucketSteward.Proofs.Writing

/-! What an update and a creation come to in a store where no call is made to fail. What a part is
written from asks for what is desired (`BucketSpec.AsksFor`), so that a part matches once it was
written; a part that is not written matched before, or is as a new bucket has it. -/
namespace BucketSteward

open Store BucketSpec

/-! ## What is written matches -/

namespace BucketSpec

/-- The settings that are spoken of have the word that a store needs. -/
def IsComplete (desired : BucketSpec) : Prop :=
  (∀ value, desired.accelerate = some value → value.status ≠ none) ∧
  (∀ value, desired.versioning = some value → value.status ≠ none) ∧
  ∀ value, desired.requestPayment = some value → value.payer ≠ none

/-- A specification asks for the same as another one does beside what is observed. -/
structure AsksFor (wanted desired observed : BucketSpec) : Prop where
  name : wanted.name = desired.name
  setting (s : Setting) : wanted.setting s = filled s.assumed (desired.setting s) (observed.setting s)
  document (d : Document) : (wanted.document d).map d.arrange
    = (filled (fun _ => d.assumed) (desired.document d) (observed.document d)).map d.arrange
  collection (c : Collection) (id : String) : c.find? id ((wanted.collection c).getD [])
    = c.find? id ((desired.collection c).getD [])
  policy : wanted.policy = desired.policy
  objectLock : wanted.objectLockEnabledForBucket = desired.objectLockEnabledForBucket

theorem filled_none {α : Type} (assumed : α → α) (desired : Option α) :
    filled assumed desired none = desired := by
  cases desired <;> rfl

/-- A specification asks for itself beside a bucket of which nothing is observed. -/
theorem asksFor_self (desired : BucketSpec) : desired.AsksFor desired { name := desired.name } where
  name := rfl
  setting s := by
    have nothing : ({ name := desired.name } : BucketSpec).setting s = none := by cases s <;> rfl
    rw [nothing, filled_none]
  document d := by
    have nothing : ({ name := desired.name } : BucketSpec).document d = none := by cases d <;> rfl
    rw [nothing, filled_none]
  collection _ _ := rfl
  policy := rfl
  objectLock := rfl

/-- A normalized specification asks for the one that it was made from. -/
theorem asksFor_normalized (desired observed : BucketSpec) :
    (desired.normalizedDesired observed).AsksFor desired observed where
  name := rfl
  setting s := normalizedDesired_setting desired observed s
  document d := by
    rw [normalizedDesired_document, Option.map_map]
    congr 1
    funext content
    exact d.arrange_arrange content
  collection c id := by
    rw [normalizedDesired_collection, filledItems]
    have values (items : List c.Item) : c.find? id (c.byId items) = c.find? id items := by
      rw [Collection.byId_eq, Collection.find?_values (Collection.keyed_owns items),
        Collection.get?_keyed]
    cases desired.collection c with
    | some items => exact values items
    | none => cases observed.collection c <;> rfl
  policy := rfl
  objectLock := rfl

end BucketSpec

/-- A value has the word that a store needs, if the setting has one. -/
def Setting.hasWord : (s : Setting) → s.Value → Bool
  | .accelerate, value | .versioning, value => value.status.isSome
  | .requestPayment, value => value.payer.isSome
  | .logging, _ | .notification, _ => true

/-- A value is put as it is exactly when it leaves no word to be filled in. -/
theorem Setting.toPut_eq_iff (s : Setting) (value : s.Value) :
    s.toPut (some value) = value ↔ s.hasWord value = true := by
  cases s with
  | accelerate =>
    obtain ⟨status⟩ := value
    cases status <;> simp [toPut, hasWord]
  | logging | notification => exact iff_of_true rfl rfl
  | requestPayment =>
    obtain ⟨payer⟩ := value
    cases payer <;> simp [toPut, hasWord]
  | versioning =>
    obtain ⟨mfaDelete, status⟩ := value
    cases status <;> simp [toPut, hasWord]

/-- A setting that was put matches exactly when the desired value, if there is one, has its word. -/
theorem Setting.matches_toPut_iff (s : Setting) {desired observed : Option s.Value}
    (spoken : filled s.assumed desired observed ≠ none) :
    s.Matches desired (s.toPut (filled s.assumed desired observed)) ↔
      ∀ value, desired = some value → s.hasWord value = true := by
  cases desired with
  | some value =>
    have put : s.Matches (some value) (s.toPut (some value)) ↔ s.toPut (some value) = value := by
      cases s <;> rfl
    rw [show filled s.assumed (some value) observed = some value from rfl, put, s.toPut_eq_iff]
    exact ⟨fun worded _ equal => Option.some.inj equal ▸ worded, fun all => all value rfl⟩
  | none =>
    have kept (status : Option String) (word : String) : (keepDefault status word).getD word = word := by
      cases status with
      | none => rfl
      | some other => by_cases same : other = word <;> simp [keepDefault, Option.filter, same]
    refine iff_of_true ?_ (by simp)
    cases observed with
    | none => exact absurd rfl spoken
    | some value =>
      cases s with
      | accelerate =>
        exact .inr (congrArg some (kept value.status defaultAccelerateStatus))
      | logging | notification | requestPayment => rfl
      | versioning =>
        exact ⟨.inr (congrArg some (kept value.status defaultVersioningStatus)), rfl⟩

/-- A document that was put or deleted matches. -/
theorem Document.matches_written (d : Document) {desired observed content : Option d.Content}
    (asked : content.map d.arrange
      = (filled (fun _ => d.assumed) desired observed).map d.arrange) :
    d.Matches (desired.map d.arrange) ((content.filter d.isConfigured).map d.arrange) := by
  have configured {a b : d.Content} (same : d.arrange a = d.arrange b) :
      d.isConfigured a = d.isConfigured b := by
    rw [← d.isConfigured_arrange a, same, d.isConfigured_arrange]
  cases desired with
  | some wanted =>
    obtain ⟨written, rfl, same⟩ := Option.map_eq_some_iff.mp asked
    have spoken := d.isConfigured_iff (d.arrange wanted)
    rw [← same, d.isConfigured_arrange] at spoken
    constructor
    · intro speaks
      rw [Option.filter_some_pos (spoken.mpr (same ▸ speaks)), Option.map_some, same]
    · intro silent
      rw [Option.filter_some_neg (by simpa using mt spoken.mp (same ▸ silent))]
      exact .inl rfl
  | none =>
    refine .inl ?_
    cases content with
    | none => rfl
    | some written =>
      obtain ⟨assumed, same, equal⟩ := Option.map_eq_some_iff.mp asked.symm
      obtain ⟨stored, -, rfl⟩ := Option.map_eq_some_iff.mp same
      have unset : d.isConfigured d.assumed = false := by cases d <;> decide
      rw [Option.filter_some_neg (by simp [← configured equal, unset])]
      rfl

/-- A document that is kept in its own order matches once it was written from what asks for it. -/
theorem BucketSpec.AsksFor.document_matches {wanted desired observed : BucketSpec}
    (asks : wanted.AsksFor desired observed) {d : Document} (unlike : d ≠ .tagging) :
    d.Matches (desired.document d) ((wanted.document d).filter d.isConfigured) := by
  have matched := d.matches_written (asks.document d)
  rwa [Document.map_arrange unlike, Document.map_arrange unlike] at matched

/-- A desired tag set without a tag is matched by no tags. -/
theorem Tagging.not_matchesTags_of_empty {desired : Option Tagging}
    (empty : desired.bind (·.tagSet) = some []) (stored : List Tag) :
    ¬ Tagging.MatchesTags desired stored := by
  unfold MatchesTags
  rw [empty]
  rintro ⟨some, sorted⟩
  exact some (Tag.inOrder_eq_nil.mp sorted)

/-- Tags that were set match, if the desired set has a tag. -/
theorem Tagging.matchesTags_written {desired observed content : Option Tagging}
    (asked : content.map Tagging.inOrder
      = (filled (fun _ => Document.tagging.assumed) desired observed).map Tagging.inOrder)
    (hasTag : desired.bind (·.tagSet) ≠ some []) :
    Tagging.MatchesTags desired ((content.bind (·.tagSet)).getD []) := by
  cases desired with
  | none =>
    cases content with
    | none => rfl
    | some written =>
      obtain ⟨assumed, same, equal⟩ := Option.map_eq_some_iff.mp asked.symm
      obtain ⟨stored, -, rfl⟩ := Option.map_eq_some_iff.mp same
      obtain ⟨tags⟩ := written
      cases tags with
      | none => rfl
      | some tags => cases equal
  | some wanted =>
    obtain ⟨written, rfl, same⟩ := Option.map_eq_some_iff.mp asked
    obtain ⟨tags⟩ := written
    obtain ⟨wantedTags⟩ := wanted
    cases tags with
    | none =>
      cases wantedTags with
      | none => rfl
      | some wantedTags => cases same
    | some tags =>
      cases wantedTags with
      | none => cases same
      | some wantedTags =>
        have sorted : Tag.inOrder tags = Tag.inOrder wantedTags := by
          simpa [Tagging.inOrder] using same
        refine ⟨?_, sorted⟩
        rintro rfl
        have none : wantedTags = [] := Tag.inOrder_eq_nil.mp sorted.symm
        exact hasTag (congrArg some none)

/-- No write makes the part match: a setting that leaves out the word that a store needs is put with
the word, and the tags of a directory bucket are never read as an empty set. -/
def Part.NeverSettles (desired : BucketSpec) : Part → Prop
  | .setting s => ∃ value, desired.setting s = some value ∧ s.hasWord value = false
  | .document .tagging =>
      isDirectoryName desired.name = true ∧ desired.tagging.bind (·.tagSet) = some []
  | _ => False

/-- Only what is stated can fail to settle. -/
theorem Part.NeverSettles.isStated {desired : BucketSpec} {part : Part}
    (never : part.NeverSettles desired) : part.isStated desired = true := by
  cases part with
  | setting s =>
    obtain ⟨value, wanted, -⟩ := never
    simp [Part.isStated, wanted]
  | document d =>
    cases d with
    | tagging =>
      obtain ⟨tagging, wanted, -⟩ := Option.bind_eq_some_iff.mp never.2
      simp [Part.isStated, BucketSpec.document, wanted]
    | _ => cases never
  | _ => cases never

/-- A complete specification settles, if it asks for no empty tag set of a directory bucket. -/
theorem BucketSpec.IsComplete.settles {desired : BucketSpec} (complete : desired.IsComplete)
    (hasTag : isDirectoryName desired.name = true → desired.tagging.bind (·.tagSet) ≠ some [])
    {part : Part} : ¬ part.NeverSettles desired := by
  obtain ⟨accelerate, versioning, payer⟩ := complete
  cases part with
  | setting s =>
    rintro ⟨value, wanted, wordless⟩
    cases s with
    | accelerate => exact accelerate value wanted (by simpa [Setting.hasWord] using wordless)
    | logging | notification => cases wordless
    | requestPayment => exact payer value wanted (by simpa [Setting.hasWord] using wordless)
    | versioning => exact versioning value wanted (by simpa [Setting.hasWord] using wordless)
  | document d =>
    cases d with
    | tagging => exact fun never => hasTag never.1 never.2
    | _ => exact id
  | _ => exact id

/-- Once it was written from what asks for it, a part matches, or it never settles. -/
theorem Part.matches_of_written_iff {wanted desired observed : BucketSpec} {kept : Holding}
    {part : Part} (asks : wanted.AsksFor desired observed) (written : part.Written wanted kept)
    (spoken : ∀ s, part = .setting s → wanted.setting s ≠ none) (other : part ≠ .acl) :
    part.Matches desired kept ↔ ¬ part.NeverSettles desired := by
  cases part with
  | setting s =>
    have put : kept.bucket.settingValue s = s.toPut (wanted.setting s) := by
      rw [StoredBucket.settingValue, show kept.bucket.setting s = _ from written]
      rfl
    have some := spoken s rfl
    rw [asks.setting] at put some
    simp only [Matches, put, s.matches_toPut_iff some, NeverSettles, not_exists, not_and,
      Bool.not_eq_false]
  | document d =>
    have general (unlike : d ≠ .tagging)
        (stored : kept.bucket.document d = (wanted.document d).filter d.isConfigured) :
        d.Matches (desired.document d) (kept.bucket.document d) := by
      rw [stored]
      exact asks.document_matches unlike
    cases d with
    | tagging =>
      simp only [Written, asks.name] at written
      simp only [Matches, NeverSettles]
      split
      case isTrue directory =>
        rw [if_pos directory] at written
        rw [written, and_iff_right directory]
        exact ⟨fun matched empty => Tagging.not_matchesTags_of_empty empty _ matched,
          Tagging.matchesTags_written (asks.document .tagging)⟩
      case isFalse directory =>
        rw [if_neg directory] at written
        rw [written]
        exact iff_of_true (Document.tagging.matches_written (asks.document .tagging))
          fun never => directory never.1
    | _ => exact iff_of_true (general (by simp) written) id
  | collection c => exact iff_of_true (fun id => (written id).trans (asks.collection c id)) id
  | policy => exact iff_of_true (Eq.trans written asks.policy) id
  | objectLock =>
    refine iff_of_true (fun enabled wish => ?_) id
    rw [show kept.bucket.objectLock = _ from written, asks.objectLock, wish]
    rfl
  | acl => exact absurd rfl other

/-! ## Updates -/

/-- An update considers every part. -/
theorem Part.mem_orderFor (desired : BucketSpec) (part : Part) : part ∈ orderFor desired := by
  unfold orderFor replicationOrder
  cases part with
  | setting s => cases s <;> split <;> decide
  | document d => cases d <;> split <;> decide
  | collection c => cases c <;> split <;> decide
  | policy | objectLock | acl => split <;> decide

theorem Part.orderFor_nodup (desired : BucketSpec) : (orderFor desired).Nodup := by
  unfold orderFor replicationOrder
  split <;> decide

/-- Normalizing does not change the order of writing. -/
theorem Part.orderFor_normalized (desired observed : BucketSpec) :
    orderFor (desired.normalizedDesired observed) = orderFor desired := by
  have same : ((desired.normalizedDesired observed).document .replication).any
      Document.replication.isConfigured
        = (desired.document .replication).any Document.replication.isConfigured := by
    rw [normalizedDesired_document, Document.map_arrange (by simp), filledDocument]
    cases desired.document .replication with
    | some content => rfl
    | none => cases observed.document .replication <;> rfl
  rw [orderFor, orderFor, replicationOrder, replicationOrder, same]

/-- A part has to be written: it does not match, or it is one of versioning and replication and the
other does not. -/
def Part.IsDue (desired : BucketSpec) (holding : Holding) (part : Part) : Prop :=
  if part = .setting .versioning ∨ part = .document .replication then
    ¬ ((Part.setting .versioning).Matches desired holding ∧
      (Part.document .replication).Matches desired holding)
  else ¬ part.Matches desired holding

/-- Only a part that is due can fail to match. -/
theorem Part.matches_of_not_isDue {desired : BucketSpec} {holding : Holding} {part : Part}
    (settled : ¬ part.IsDue desired holding) : part.Matches desired holding := by
  unfold IsDue at settled
  split at settled
  case isTrue pair =>
    obtain ⟨versioning, replication⟩ := not_not.mp settled
    rcases pair with rfl | rfl
    · exact versioning
    · exact replication
  case isFalse => exact not_not.mp settled

/-- In a bucket that matches, no part that it has is due. -/
theorem Holding.Matches.not_isDue {holding : Holding} {desired : BucketSpec}
    (matched : holding.Matches desired) {part : Part}
    (there : part.existsOn desired.name = true) : ¬ part.IsDue desired holding := by
  unfold Part.IsDue
  split
  case isTrue pair =>
    rw [not_not]
    rcases pair with rfl | rfl <;> exact ⟨matched _ there, matched _ there⟩
  case isFalse => exact not_not.mpr (matched part there)

/-- What a pass reports as written: parts that were due, and all of those but collections, whose
items may be as desired already. -/
structure Holding.Reported (holding : Holding) (desired : BucketSpec) (wrote : Part → Bool) :
    Prop where
  due : ∀ part, wrote part = true →
    part.existsOn desired.name = true ∧ part.IsDue desired holding
  all : ∀ part, part.existsOn desired.name = true → part.IsDue desired holding →
    wrote part = true ∨ ∃ c, part = .collection c

namespace Pass

variable {store : Store} {location : Location} {desired : BucketSpec} {arn : String}
  {holding : Holding}

/-- The items of a collection are observed as they are kept. -/
theorem observed_items (keyed : isDirectoryName desired.name = false → holding.bucket.IsKeyed)
    {c : Collection} (there : (Part.collection c).existsOn desired.name = true) (id : String) :
    c.find? id (((desired.normalizedObserved (observation desired holding)).collection c).getD [])
      = (holding.bucket.items c).get? id := by
  have general := Part.general_of_existsOn rfl there
  rw [normalizedObserved_collection, observation, if_neg (by simp [general]),
    generalObservation_collection, Option.map_some, Option.getD_some, Collection.byId_eq,
    Collection.keyed_values (keyed general c), Collection.find?_values (keyed general c)]

/-- The differences that an update is about. -/
abbrev deltaFor (desired : BucketSpec) (holding : Holding) : Delta :=
  Delta.between (desired.normalizedDesired (observation desired holding))
    (desired.normalizedObserved (observation desired holding))

section Updating
variable (holds : store.Holds desired.name arn holding)
  (addressed : bucketArn desired.name location.region location.account = .ok arn)
  (valid : desired.validate = .ok ())
  (keyed : isDirectoryName desired.name = false → holding.bucket.IsKeyed)

include valid keyed in
/-- Of the parts that a bucket has, those differ that are due. -/
theorem differsIn_iff_isDue {part : Part} (there : part.existsOn desired.name = true) :
    part.differsIn (deltaFor desired holding) = true ↔ part.IsDue desired holding := by
  have same {part : Part} (there : part.existsOn desired.name = true) :=
    (normalized_same_iff_matches valid keyed part).trans (forall_prop_of_true there)
  rw [Part.differsIn_iff, Part.IsDue]
  split
  case isTrue pair =>
    have versioning : (Part.setting .versioning).existsOn desired.name = true := by
      rcases pair with rfl | rfl <;> exact there
    have replication : (Part.document .replication).existsOn desired.name = true := by
      rcases pair with rfl | rfl <;> exact there
    rw [← same versioning, ← same replication, and_comm, not_and_or]
    rfl
  case isFalse => rw [same there]

include holds addressed valid keyed in
/-- An update of a bucket that does not match reports what it wrote. A part that is not due is kept; a
part that is due is written as it is desired. -/
theorem update_run (differs : ¬ holding.Matches desired) :
    let wanted := desired.normalizedDesired (observation desired holding)
    let found := desired.normalizedObserved (observation desired holding)
    ∃ wrote after kept, holding.Reported desired wrote ∧
      ((Part.orderFor desired).filter wrote).map Part.property ≠ [] ∧
      (update location wanted found (deltaFor desired holding)).run serve store
        = (.ok (((Part.orderFor desired).filter wrote).map Part.property), after) ∧
      after.Holds desired.name arn kept ∧
      ∀ part : Part, part.existsOn desired.name = true →
        (¬ part.IsDue desired holding ∧ kept.SamePart holding part) ∨
        (part.IsDue desired holding ∧
          (part.Ready wanted found holding → part.Written wanted kept)) := by
  intro wanted found
  let chosen (part : Part) : Bool :=
    part.existsOn wanted.name && part.differsIn (deltaFor desired holding)
  have chosen_iff {part : Part} : chosen part = true ↔
      part.existsOn desired.name = true ∧ part.IsDue desired holding := by
    rw [Bool.and_eq_true]
    exact and_congr_right fun there => differsIn_iff_isDue valid keyed there
  have listed {part : Part} : part ∈ (Part.orderFor wanted).filter chosen ↔ chosen part = true :=
    List.mem_filter.trans (and_iff_right (Part.mem_orderFor wanted part))
  obtain ⟨wrote, after, kept, ran, left, others, done, silent⟩ :=
    writeParts_run wanted found holds addressed ((Part.orderFor_nodup wanted).filter chosen)
  have updated : (update location wanted found (deltaFor desired holding)).run serve store
      = (.ok (((Part.orderFor desired).filter fun part => wrote part && chosen part).map
          Part.property), after) := by
    rw [← Part.orderFor_normalized desired (observation desired holding), ← List.filter_filter]
    exact ran
  have reported : holding.Reported desired fun part => wrote part && chosen part := by
    constructor
    · exact fun part written => chosen_iff.mp (Bool.and_eq_true_iff.mp written).2
    · intro part there due
      have among := chosen_iff.mpr ⟨there, due⟩
      cases written : wrote part with
      | true => exact .inl among
      | false => exact .inr (silent part (listed.mpr among) written).2
  refine ⟨fun part => wrote part && chosen part, after, kept, reported, ?_, updated, left,
    fun part there => ?_⟩
  · intro none
    simp only [Holding.Matches, not_forall] at differs
    obtain ⟨part, there, unlike⟩ := differs
    have due : part.IsDue desired holding := by
      by_contra settled
      exact unlike (Part.matches_of_not_isDue settled)
    have among := listed.mpr (chosen_iff.mpr ⟨there, due⟩)
    have unwritten : wrote part = false := by
      have absent := List.filter_eq_nil_iff.mp (List.map_eq_nil_iff.mp none) part
        (Part.mem_orderFor desired part)
      simpa [listed.mp among] using absent
    obtain ⟨unchanged, c, rfl⟩ := silent part among unwritten
    have ready : (Part.collection c).Ready wanted found holding := observed_items keyed there
    have items := Part.written_congr unchanged.symm (done _ among ready)
    exact unlike fun id => (items id).trans ((asksFor_normalized desired _).collection c id)
  · by_cases due : part.IsDue desired holding
    · exact .inr ⟨due, done part (listed.mpr (chosen_iff.mpr ⟨there, due⟩))⟩
    · exact .inl ⟨due, others part fun among => due (chosen_iff.mp (listed.mp among)).2⟩

end Updating

end Pass

/-! ## Creation -/

theorem Part.mem_creationOrder {desired : BucketSpec} {part : Part}
    (stated : part.isStated desired = true) : part ∈ creationOrder := by
  cases part with
  | setting s => cases s <;> decide
  | document d => cases d <;> decide
  | collection c => cases c <;> decide
  | policy => decide
  | objectLock | acl => cases stated

/-- What a bucket is created with. -/
abbrev BucketSpec.creation (desired : BucketSpec) : BucketCreation where
  bucket := desired.name
  grants := .ofNewSpec desired
  configuration := desired.createBucketConfiguration
  objectLock := desired.objectLockEnabledForBucket

/-- A new bucket has every part of which nothing is stated as it is desired, if no tags were left for
it to find. -/
theorem newBucket_matches {desired : BucketSpec} {tags : List Tag} {part : Part}
    (unstated : part.isStated desired = false) (other : part ≠ .acl)
    (untagged : isDirectoryName desired.name = true → tags = []) :
    part.Matches desired ⟨newBucket desired.creation, tags⟩ := by
  cases part with
  | setting s =>
    have nothing : desired.setting s = none := by simpa [Part.isStated] using unstated
    simp only [Part.Matches, nothing]
    cases s with
    | accelerate => exact .inl rfl
    | logging | notification | requestPayment => rfl
    | versioning => exact ⟨.inl rfl, rfl⟩
  | document d =>
    have nothing : desired.document d = none := by simpa [Part.isStated] using unstated
    cases d with
    | tagging =>
      have silent : desired.tagging = none := nothing
      simp only [Part.Matches, silent]
      split
      case isTrue directory => exact untagged directory
      case isFalse => exact .inl rfl
    | _ =>
      simp only [Part.Matches, nothing]
      exact .inl rfl
  | collection c =>
    have nothing : (desired.collection c).getD [] = [] := by
      have empty := mt (Document.isFilled_iff (desired.collection c)).mpr
      simp only [Part.isStated] at unstated
      simpa [unstated] using empty
    intro id
    rw [nothing]
    cases c <;> rfl
  | policy =>
    have nothing : desired.policy = none := by simpa [Part.isStated] using unstated
    exact nothing.symm
  | objectLock =>
    intro enabled wish
    show desired.objectLockEnabledForBucket.getD false = enabled
    rw [wish]
    rfl
  | acl => exact absurd rfl other

namespace Pass

variable {store : Store} {location : Location} {desired : BucketSpec} {arn : String}

/-- A creation makes a new bucket and writes what is stated of it. -/
theorem create_run (calm : store.failures = {})
    (missing : store.buckets.get? desired.name = none)
    (addressed : bucketArn desired.name location.region location.account = .ok arn) :
    ∃ place after kept, (create location desired).run serve store = (.ok place, after) ∧
      after.Holds desired.name arn kept ∧
      ∀ part : Part, part.existsOn desired.name = true →
        (part.isStated desired = false ∧
          kept.SamePart ⟨newBucket desired.creation, store.tagsOf arn⟩ part) ∨
        (part.isStated desired = true ∧
          (part.Ready desired { name := desired.name }
              ⟨newBucket desired.creation, store.tagsOf arn⟩ →
            part.Written desired kept)) := by
  let created := (store.log (.createBucket desired.creation)).setBucket desired.name
    (newBucket desired.creation)
  have made : (Pass.call ⟨.create, "CreateBucket"⟩ (.createBucket desired.creation)).run serve store
      = (.ok (some ("/" ++ desired.name)), created) := by
    have absent : store.buckets.contains desired.name = false := by simp [Keyed.contains, missing]
    rw [call_eq, Program.run, serve_calm calm]
    simp only [perform]
    rw [if_neg (by simpa [log] using absent)]
    rfl
  have holds : created.Holds desired.name arn ⟨newBucket desired.creation, store.tagsOf arn⟩ := by
    refine ⟨calm, ?_, rfl⟩
    exact (Keyed.get?_insert _ _ _ _).trans (if_pos rfl)
  let parts := Part.creationOrder.filter fun part =>
    part.existsOn desired.name && part.isStated desired
  have inside {part : Part} : part ∈ parts ↔
      part.existsOn desired.name = true ∧ part.isStated desired = true := by
    rw [List.mem_filter, Bool.and_eq_true]
    exact ⟨fun among => among.2, fun both => ⟨Part.mem_creationOrder both.2, both⟩⟩
  have distinct : parts.Nodup := List.Nodup.filter _ (by decide)
  obtain ⟨wrote, after, kept, ran, left, others, done, -⟩ :=
    writeParts_run desired { name := desired.name } holds addressed distinct
  refine ⟨some ("/" ++ desired.name), after, kept, ?_, left, fun part there => ?_⟩
  · rw [create, Program.bind_eq, Program.run_bind, made]
    simp only
    rw [Program.bind_eq, Program.run_bind, writeStated, Program.bind_eq, Program.run_bind, ran]
    rfl
  · cases stated : part.isStated desired with
    | true => exact .inr ⟨rfl, done part (inside.mpr ⟨there, stated⟩)⟩
    | false =>
      refine .inl ⟨rfl, others part fun listed => ?_⟩
      have spoken := (inside.mp listed).2
      rw [stated] at spoken
      cases spoken

end Pass

end BucketSteward

import BucketSteward.Proofs.Items
import BucketSteward.Proofs.Observation
import BucketSteward.Proofs.PartValues
import BucketSteward.Proofs.TagSets

/-! When a bucket matches its specification, part by part and without reference to how the two are
made comparable. A part with an opinion has to be stored as desired, except that a document which
says nothing may also be missing; a part without opinion has to be as a store leaves it that nobody
configured. The main statement is that normalizing loses and invents nothing: no difference is left
exactly when every part of the kind of bucket matches. -/
namespace BucketSteward

/-! ## One part -/

/-- A stored setting is as desired, or as the store has it that was never told. -/
def Setting.Matches : (setting : Setting) → Option setting.Value → setting.Value → Prop
  | _, some value, stored => stored = value
  | .accelerate, none, stored => stored.status = none ∨ stored.status = some "Suspended"
  | .logging, none, stored => stored = {}
  | .notification, none, stored => stored = {}
  | .requestPayment, none, stored => stored.payer = some "BucketOwner"
  | .versioning, none, stored =>
      (stored.status = none ∨ stored.status = some "Suspended") ∧ stored.mfaDelete = none

namespace Document

/-- A document says something: it has a rule or a tag, an index document, or a block. -/
def Speaks : (document : Document) → document.Content → Prop
  | .cors, content => content.corsRules.getD [] ≠ []
  | .encryption, content => content.rules.getD [] ≠ []
  | .lifecycle, content => content.rules.getD [] ≠ []
  | .ownershipControls, content => content.rules.getD [] ≠ []
  | .publicAccessBlock, content => content ≠ ⟨some false, some false, some false, some false⟩
  | .replication, content => content.rules.getD [] ≠ []
  | .tagging, content => content.tagSet.getD [] ≠ []
  | .website, content => content.indexDocument ≠ none

/-- A document that says something is stored exactly; of any other, nothing or just it is stored,
and without opinion nothing or what blocks and configures nothing. -/
def Matches (document : Document) (desired stored : Option document.Content) : Prop :=
  match desired with
  | some content =>
      (document.Speaks content → stored = some content) ∧
      (¬ document.Speaks content → stored = none ∨ stored = some content)
  | none => stored = none ∨ stored = some document.assumed

end Document

/-- Under every id the first desired item that has it is kept, and nothing else. -/
def Collection.Matches (collection : Collection) (desired : Option (List collection.Item))
    (stored : Keyed collection.Item) : Prop :=
  ∀ id, stored.get? id = collection.find? id (desired.getD [])

/-- The tags of a resource are the desired ones in the order of their keys; a desired set has to
have a tag, and without one there are none. -/
def Tagging.MatchesTags (desired : Option Tagging) (stored : List Tag) : Prop :=
  match desired.bind (·.tagSet) with
  | some tags => stored ≠ [] ∧ Tag.inOrder stored = Tag.inOrder tags
  | none => stored = []

/-- None of the texts of the ACL is reported as differing from a stored ACL. -/
def BucketSpec.MatchesAcl (desired : BucketSpec) (acl : AccessControlPolicy) : Prop :=
  let observed := ({ name := desired.name } : BucketSpec).withObservedAcl acl
  let delta := Delta.between (desired.normalizedDesired observed) (desired.normalizedObserved observed)
  ∀ member ∈ Part.acl.members, delta.touches member = false

/-- A part of a bucket is as desired. -/
def Part.Matches (desired : BucketSpec) (holding : Holding) : Part → Prop
  | .setting s => s.Matches (desired.setting s) (holding.bucket.settingValue s)
  | .document .tagging =>
      if isDirectoryName desired.name then Tagging.MatchesTags desired.tagging holding.tags
      else Document.tagging.Matches (desired.tagging.map Tagging.inOrder)
        (holding.bucket.tagging.map Tagging.inOrder)
  | .document d => d.Matches (desired.document d) (holding.bucket.document d)
  | .collection c => c.Matches (desired.collection c) (holding.bucket.items c)
  | .policy => holding.bucket.policy = desired.policy
  | .objectLock => ∀ enabled, desired.objectLockEnabledForBucket = some enabled →
      holding.bucket.objectLock = enabled
  | .acl => desired.MatchesAcl holding.bucket.acl

/-- Every part that the kind of bucket has is as desired. -/
def Holding.Matches (holding : Holding) (desired : BucketSpec) : Prop :=
  ∀ part : Part, part.existsOn desired.name = true → part.Matches desired holding

/-! ## Normalized parts -/

namespace Document

theorem isFilled_iff {α : Type} (list : Option (List α)) : isFilled list = true ↔ list.getD [] ≠ [] := by
  cases list with
  | none => simp [isFilled]
  | some items => cases items <;> simp [isFilled]

theorem isConfigured_iff (document : Document) (content : document.Content) :
    document.isConfigured content = true ↔ document.Speaks content := by
  cases document with
  | publicAccessBlock => exact bne_iff_ne
  | website => exact Option.isSome_iff_ne_none
  | _ => exact isFilled_iff _

/-- The order that the contents of a document are compared in. -/
def arrange : (document : Document) → document.Content → document.Content
  | .tagging, content => content.inOrder
  | _, content => content

theorem arrange_assumed (document : Document) : document.arrange document.assumed = document.assumed := by
  cases document <;> rfl

theorem arrange_arrange (document : Document) (content : document.Content) :
    document.arrange (document.arrange content) = document.arrange content := by
  cases document with
  | tagging => exact content.inOrder_inOrder
  | _ => rfl

theorem map_arrange {document : Document} (other : document ≠ .tagging)
    (content : Option document.Content) : content.map document.arrange = content := by
  cases document with
  | tagging => exact absurd rfl other
  | _ => exact Option.map_id'

theorem isConfigured_arrange (document : Document) (content : document.Content) :
    document.isConfigured (document.arrange content) = document.isConfigured content := by
  cases document with
  | tagging =>
    obtain ⟨tags⟩ := content
    rw [Bool.eq_iff_iff, isConfigured_iff, isConfigured_iff]
    cases tags with
    | none => rfl
    | some tags => simp [Speaks, arrange, Tagging.inOrder, Tag.inOrder_eq_nil]
  | _ => rfl

/-- A normalized document differs from the one observed exactly when it does not match. -/
theorem same_iff_matches (document : Document) (desired observed : Option document.Content) :
    (filled (fun _ => document.assumed) desired observed).map document.arrange
        = (unlessDeleted document.isConfigured (filled (fun _ => document.assumed) desired observed)
            observed).map document.arrange ↔
      document.Matches (desired.map document.arrange) (observed.map document.arrange) := by
  cases desired with
  | none =>
    cases observed with
    | none => simp [filled, unlessDeleted, Matches]
    | some stored => simp [filled, unlessDeleted, Matches, arrange_assumed, eq_comm]
  | some content =>
    have spoken := document.isConfigured_iff (document.arrange content)
    rw [isConfigured_arrange] at spoken
    cases observed with
    | none =>
      by_cases configured : document.isConfigured content = true
      · simp [filled, unlessDeleted, Matches, configured, spoken.mp configured]
      · have silent := mt spoken.mpr configured
        simp [filled, unlessDeleted, Matches, configured, silent, Option.filter]
    | some stored =>
      by_cases configured : document.Speaks (document.arrange content)
      · simp [filled, unlessDeleted, Matches, configured, eq_comm]
      · simp [filled, unlessDeleted, Matches, configured, eq_comm]

end Document

/-- A filled setting differs from the one observed exactly when it does not match. -/
theorem Setting.same_iff_matches (setting : Setting) (desired : Option setting.Value)
    (stored : setting.Value) :
    filled setting.assumed desired (some stored) = some stored ↔ setting.Matches desired stored := by
  cases desired with
  | some value => simp [filled, Matches, eq_comm]
  | none =>
    have kept (status : Option String) :
        keepDefault status "Suspended" = status ↔ status = none ∨ status = some "Suspended" := by
      cases status <;> simp [keepDefault, Option.filter]
    cases setting with
    | accelerate =>
      obtain ⟨status⟩ := stored
      simp [filled, Matches, assumed, defaultAccelerateStatus, kept]
    | logging => simp [filled, Matches, assumed, eq_comm]
    | notification => simp [filled, Matches, assumed, eq_comm]
    | requestPayment =>
      obtain ⟨payer⟩ := stored
      simp [filled, Matches, assumed, defaultPayer, eq_comm]
    | versioning =>
      obtain ⟨mfaDelete, status⟩ := stored
      simp [filled, Matches, assumed, defaultVersioningStatus, kept, and_comm, eq_comm (a := none)]

/-- A normalized tag set differs from the one observed exactly when the tags do not match. -/
theorem Tagging.same_iff_matches (desired : Option Tagging) (tags : List Tag) :
    let observed : Option Tagging := some { tagSet := if tags.isEmpty then none else some tags }
    (filled (fun _ => Document.tagging.assumed) desired observed).map Tagging.inOrder
        = (unlessDeleted Document.tagging.isConfigured
            (filled (fun _ => Document.tagging.assumed) desired observed) observed).map Tagging.inOrder ↔
      Tagging.MatchesTags desired tags := by
  intro observed
  have compared (content : Tagging) :
      content.inOrder = Tagging.inOrder { tagSet := if tags.isEmpty then none else some tags } ↔
        match content.tagSet with
        | some wanted => tags ≠ [] ∧ Tag.inOrder tags = Tag.inOrder wanted
        | none => tags = [] := by
    obtain ⟨tagSet⟩ := content
    cases tags with
    | nil => cases tagSet <;> simp [Tagging.inOrder]
    | cons tag rest => cases tagSet <;> simp [Tagging.inOrder, eq_comm]
  cases desired with
  | none =>
    simpa [filled, unlessDeleted, MatchesTags, observed, Document.assumed, Document.blank]
      using compared {}
  | some content =>
    simpa [filled, unlessDeleted, MatchesTags, observed] using compared content

/-! ## Whole specifications -/

namespace BucketSpec

variable (desired observed : BucketSpec)

theorem normalizedDesired_setting (s : Setting) :
    (desired.normalizedDesired observed).setting s = desired.filledSetting observed s := by
  cases s <;> rfl

theorem normalizedObserved_setting (s : Setting) :
    (desired.normalizedObserved observed).setting s = observed.setting s := by
  cases s <;> rfl

theorem normalizedDesired_document (d : Document) :
    (desired.normalizedDesired observed).document d
      = (desired.filledDocument observed d).map d.arrange := by
  cases d with
  | tagging => rfl
  | _ => exact (Document.map_arrange (by simp) _).symm

theorem normalizedObserved_document (d : Document) :
    (desired.normalizedObserved observed).document d
      = (desired.keptDocument observed d).map d.arrange := by
  cases d with
  | tagging => rfl
  | _ => exact (Document.map_arrange (by simp) _).symm

theorem normalizedDesired_collection (c : Collection) :
    (desired.normalizedDesired observed).collection c = desired.filledItems observed c := by
  cases c <;> rfl

theorem normalizedObserved_collection (c : Collection) :
    (desired.normalizedObserved observed).collection c = (observed.collection c).map c.byId := by
  cases c <;> rfl

/-- Of the ACL, normalizing looks only at the texts. -/
theorem normalized_aclTexts :
    (desired.normalizedDesired observed).aclTexts = (desired.aclTexts.normalize observed.aclTexts).1 ∧
    (desired.normalizedObserved observed).aclTexts
      = (desired.aclTexts.normalize observed.aclTexts).2 :=
  ⟨rfl, rfl⟩

end BucketSpec

namespace Pass

variable (desired : BucketSpec) (stored : StoredBucket)

theorem generalObservation_setting (s : Setting) :
    (generalObservation desired stored).setting s = some (stored.settingValue s) := by
  cases s <;> rfl

theorem generalObservation_document (d : Document) :
    (generalObservation desired stored).document d = stored.document d := by
  cases d <;> rfl

theorem generalObservation_collection (c : Collection) :
    (generalObservation desired stored).collection c = some (stored.items c).values := by
  cases c <;> rfl

end Pass

open BucketSpec Pass

variable {desired : BucketSpec} {holding : Holding}

/-- An ACL matches exactly when its texts and the desired ones are normalized alike. -/
theorem BucketSpec.matchesAcl_iff (desired : BucketSpec) (acl : AccessControlPolicy)
    {observed : BucketSpec} (texts : observed.aclTexts
      = (({ name := desired.name } : BucketSpec).withObservedAcl acl).aclTexts) :
    desired.MatchesAcl acl ↔ SaysSame (desired.normalizedDesired observed)
      (desired.normalizedObserved observed) .acl := by
  refine (Part.members_untouched_iff .acl).trans ?_
  simp only [SaysSame, normalized_aclTexts, texts]

/-- Normalizing leaves no difference in a document exactly when what is observed of it matches. -/
theorem BucketSpec.document_same_iff (desired observed : BucketSpec) (d : Document) :
    SaysSame (desired.normalizedDesired observed) (desired.normalizedObserved observed) (.document d) ↔
      d.Matches ((desired.document d).map d.arrange) ((observed.document d).map d.arrange) := by
  simp only [SaysSame, normalizedDesired_document, normalizedObserved_document, filledDocument,
    keptDocument]
  exact d.same_iff_matches _ _

/-- On a general purpose bucket, normalizing leaves no difference in a part exactly when the part
matches. -/
theorem general_same_iff_matches (general : isDirectoryName desired.name = false)
    (keyed : holding.bucket.IsKeyed) (part : Part) :
    let observed := generalObservation desired holding.bucket
    SaysSame (desired.normalizedDesired observed) (desired.normalizedObserved observed) part ↔
      part.Matches desired holding := by
  intro observed
  cases part with
  | setting s =>
    simp only [SaysSame, normalizedDesired_setting, normalizedObserved_setting, filledSetting, observed,
      generalObservation_setting]
    exact s.same_iff_matches _ _
  | document d =>
    rw [document_same_iff, generalObservation_document]
    cases d with
    | tagging =>
      simp only [Part.Matches, general, Bool.false_eq_true, if_false]
      rfl
    | _ =>
      rw [Document.map_arrange (by simp), Document.map_arrange (by simp)]
      rfl
  | collection c =>
    simp only [SaysSame, normalizedDesired_collection, normalizedObserved_collection, filledItems,
      observed, generalObservation_collection]
    have filled : filled (fun _ => []) (desired.collection c) (some (holding.bucket.items c).values)
        = some ((desired.collection c).getD []) := by
      cases desired.collection c <;> rfl
    rw [filled, Option.map_some, Option.map_some, Option.some.injEq,
      Collection.byId_eq_byId_values_iff (keyed c)]
    rfl
  | policy => exact eq_comm
  | objectLock =>
    show desired.objectLockEnabledForBucket
      = (desired.objectLockEnabledForBucket.bind fun _ => some holding.bucket.objectLock) ↔ _
    simp only [Part.Matches]
    cases desired.objectLockEnabledForBucket <;> simp [eq_comm]
  | acl => exact (matchesAcl_iff desired holding.bucket.acl rfl).symm

/-! ## Directory buckets -/

/-- A specification that a directory bucket can have speaks of no part that it has not. -/
theorem BucketSpec.unspoken_of_validate (directory : isDirectoryName desired.name = true)
    (valid : desired.validate = .ok ()) : ∀ part ∈ desired.generalParts, part.2 = false := by
  unfold validate at valid
  split at valid
  · cases valid
  case isFalse supported =>
    simp only [directory, Bool.true_and, Bool.not_eq_true', Bool.not_eq_false] at supported
    intro part among
    by_contra spoken
    have unsupported : part.1 ∈ desired.unsupported :=
      List.mem_map.mpr ⟨part, List.mem_filter.mpr ⟨among, by simpa using spoken⟩, rfl⟩
    rw [List.isEmpty_iff.mp supported] at unsupported
    cases unsupported

/-- On a directory bucket, normalizing leaves no difference in a part exactly when the bucket has not
the part or the part matches. -/
theorem directory_same_iff_matches (holding : Holding)
    (directory : isDirectoryName desired.name = true)
    (valid : desired.validate = .ok ()) (part : Part) :
    let observed := directoryObservation desired holding
    SaysSame (desired.normalizedDesired observed) (desired.normalizedObserved observed) part ↔
      (part.existsOn desired.name = true → part.Matches desired holding) := by
  intro observed
  have unspoken := unspoken_of_validate directory valid
  simp only [generalParts, List.forall_mem_cons, Option.isSome_eq_false_iff, Option.isNone_iff_eq_none,
    List.not_mem_nil, false_imp_iff, implies_true, and_true] at unspoken
  have absent {part : Part} (missing : part.isDirectoryPart = false) :
      (part.existsOn desired.name = true → part.Matches desired holding) := by
    intro there
    simp [Part.existsOn, directory, missing] at there
  have present {part : Part} (there : part.isDirectoryPart = true) :
      (part.existsOn desired.name = true → part.Matches desired holding) ↔
        part.Matches desired holding := by
    simp [Part.existsOn, there]
  cases part with
  | setting s =>
    have none : desired.setting s = none := by
      cases s <;> simp only [BucketSpec.setting, unspoken]
    simp only [SaysSame, normalizedDesired_setting, normalizedObserved_setting, filledSetting, none]
    refine iff_of_true ?_ (absent rfl)
    cases s <;> rfl
  | collection c =>
    have none : desired.collection c = none := by
      cases c <;> simp only [BucketSpec.collection, unspoken]
    simp only [SaysSame, normalizedDesired_collection, normalizedObserved_collection, filledItems, none]
    refine iff_of_true ?_ (absent rfl)
    cases c <;> rfl
  | policy =>
    rw [present rfl]
    exact eq_comm
  | objectLock =>
    refine iff_of_true ?_ (absent rfl)
    simp only [SaysSame, normalizedDesired, normalizedObserved, unspoken]
    rfl
  | acl =>
    have silent : desired.aclTexts = {} := by simp only [aclTexts, unspoken]
    refine iff_of_true ?_ (absent rfl)
    simp only [SaysSame, normalized_aclTexts, silent]
    rfl
  | document d =>
    simp only [SaysSame, normalizedDesired_document, normalizedObserved_document, filledDocument,
      keptDocument]
    cases d with
    | tagging =>
      rw [present rfl]
      simp only [Part.Matches, directory, if_true]
      exact Tagging.same_iff_matches desired.tagging holding.tags
    | encryption | lifecycle =>
      rw [present rfl, Document.same_iff_matches, Document.map_arrange (by simp),
        Document.map_arrange (by simp)]
      rfl
    | _ =>
      refine iff_of_true ?_ (absent rfl)
      simp only [BucketSpec.document, unspoken]
      rfl

section Normalized
variable (valid : desired.validate = .ok ())
  (keyed : isDirectoryName desired.name = false → holding.bucket.IsKeyed)
include valid keyed

/-- Normalizing leaves no difference in a part exactly when the kind of bucket has not the part or
the part matches. -/
theorem normalized_same_iff_matches (part : Part) :
    let observed := observation desired holding
    SaysSame (desired.normalizedDesired observed) (desired.normalizedObserved observed) part ↔
      (part.existsOn desired.name = true → part.Matches desired holding) := by
  intro observed
  by_cases directory : isDirectoryName desired.name = true
  · have same := directory_same_iff_matches holding directory valid part
    simpa only [observed, observation, if_pos directory] using same
  · have general : isDirectoryName desired.name = false := by simpa using directory
    have same := general_same_iff_matches general (keyed general) part
    simpa [observed, observation, general, Part.existsOn] using same

/-- Normalizing leaves no difference exactly when every part that the kind of bucket has matches. -/
theorem normalized_eq_iff_matches :
    let observed := observation desired holding
    desired.normalizedDesired observed = desired.normalizedObserved observed ↔
      holding.Matches desired := by
  intro observed
  have name : observed.name = desired.name := by
    simp only [observed, observation]
    split <;> rfl
  have placement : observed.createBucketConfiguration = desired.createBucketConfiguration := by
    simp only [observed, observation]
    split <;> rfl
  have kept : (desired.normalizedDesired observed).name = (desired.normalizedObserved observed).name ∧
      (desired.normalizedDesired observed).createBucketConfiguration
        = (desired.normalizedObserved observed).createBucketConfiguration :=
    ⟨name.symm, placement.symm⟩
  rw [eq_iff_says_same]
  simp only [kept, true_and]
  exact forall_congr' fun part => normalized_same_iff_matches valid keyed part

end Normalized

end BucketSteward

import BucketSteward.Proofs.AclDrift
import BucketSteward.Proofs.Matching
import BucketSteward.Proofs.SpecMembers

/-! What making specifications comparable leaves alone. Whatever is asked of a part stays asked, in the
order in which it is compared, and nothing is made up about what was observed: a document that was not
is taken for stored only where it is desired and would be deleted. The permissions and the canned ACL
describe the same thing, so a desired canned ACL takes the place of the permissions beside it. -/
namespace BucketSteward

/-! ## Rearranged parts -/

/-- The same tags in the order of their keys. -/
def Tagging.SortedInto (tagging sorted : Tagging) : Prop :=
  Option.Rel Tag.SortedInto tagging.tagSet sorted.tagSet

/-- The same content, but for the order of tags. -/
def Document.Rearranged : (document : Document) → document.Content → document.Content → Prop
  | .tagging, content, other => Tagging.SortedInto content other
  | _, content, other => other = content

theorem Document.rearranged_arrange (document : Document) (content : document.Content) :
    document.Rearranged content (document.arrange content) := by
  cases document with
  | tagging =>
    obtain ⟨tags⟩ := content
    cases tags with
    | none => exact .none
    | some tags => exact .some (Tag.inOrder_sortedInto tags)
  | _ => rfl

/-- The content says nothing, and syncing it deletes the document. -/
def Document.IsDeleted (document : Document) (content : document.Content) : Prop :=
  ¬ document.Speaks content ∧
    ∀ bucket, Pass.syncDocument document bucket (some content)
      = Pass.call document.deleteLabel (.deleteDocument document bucket)

theorem Document.isDeleted_of_not_configured {document : Document} {content : document.Content}
    (silent : document.isConfigured content = false) : document.IsDeleted content := by
  constructor
  · rw [← document.isConfigured_iff, silent]
    exact Bool.false_ne_true
  · intro bucket
    simp [Pass.syncDocument, Option.filter, silent]

/-- A document that is compared was observed, or it is desired and would be deleted. -/
theorem Document.found_cases (document : Document) (desired observed : Option document.Content) :
    let found := unlessDeleted document.isConfigured
      (filled (fun _ => document.assumed) desired observed) observed
    found = observed ∨ observed = none ∧ found = desired ∧
      ∃ content, desired = some content ∧ document.IsDeleted content := by
  cases observed with
  | some content => exact .inl rfl
  | none =>
    cases desired with
    | none => exact .inl rfl
    | some content =>
      cases configured : document.isConfigured content with
      | true => exact .inl (by simp [filled, unlessDeleted, Option.filter, configured])
      | false =>
        have taken := isDeleted_of_not_configured configured
        exact .inr ⟨rfl, by simp [filled, unlessDeleted, Option.filter, configured], content, rfl, taken⟩

/-! ## The ACL -/

namespace AclGrants

variable {desired : AclGrants} (observed : AclGrants)

/-- A desired canned ACL is compared alone, as it is written or by its first name. -/
theorem normalize_of_named {acl : String} (named : desired.acl = some acl) :
    ∃ chosen, (chosen = acl ∨ chosen = (CannedAcls.firstName? acl).getD "") ∧
      (desired.normalize observed).1 = { acl := some chosen } := by
  cases seen : observed.acl with
  | none => exact ⟨acl, .inl rfl, by simp [normalize, named, seen]⟩
  | some names => exact ⟨_, .inr rfl, by simp [normalize, named, seen, CannedAcls.first?_parse]⟩

/-- Where a text is given the other has it too. -/
structure Extends (texts narrower : AclGrants) : Prop where
  fullControl : ∀ text, narrower.grantFullControl = some text → texts.grantFullControl = some text
  read : ∀ text, narrower.grantRead = some text → texts.grantRead = some text
  readAcp : ∀ text, narrower.grantReadAcp = some text → texts.grantReadAcp = some text
  write : ∀ text, narrower.grantWrite = some text → texts.grantWrite = some text
  writeAcp : ∀ text, narrower.grantWriteAcp = some text → texts.grantWriteAcp = some text

/-- Where no canned ACL is desired the permissions that are stay as they are. -/
theorem normalize_extends (unnamed : desired.acl = none) :
    (desired.normalize observed).1.Extends desired := by
  cases spoken : desired.isWithoutGrants with
  | true =>
    rw [normalize_of_silent observed unnamed spoken]
    exact ⟨fun _ given => given, fun _ given => given, fun _ given => given, fun _ given => given,
      fun _ given => given⟩
  | false =>
    constructor <;> intro text given <;> simp [normalize, unnamed, spoken, placeholder, given]

end AclGrants

/-! ## Whole specifications -/

/-- The text of a permission stays as it is given, unless a canned ACL takes its place. -/
def BucketSpec.GrantStays (desired : BucketSpec) (grant after : Option String) : Prop :=
  if desired.acl.isSome then after = none else ∀ text, grant = some text → after = some text

namespace SpecMember

/-- What is asked of a member stays asked. A canned ACL may be cut to its first name, items and tags may
change their order, and of several items with one id the first stays. -/
def StaysAsked (desired : BucketSpec) : (member : SpecMember) → member.Value → Prop
  | name, after => after = desired.name
  | acl, after => ∀ acl, desired.acl = some acl →
      after = some acl ∨ after = some ((CannedAcls.firstName? acl).getD "")
  | grantFullControl, after => desired.GrantStays desired.grantFullControl after
  | grantRead, after => desired.GrantStays desired.grantRead after
  | grantReadAcp, after => desired.GrantStays desired.grantReadAcp after
  | grantWrite, after => desired.GrantStays desired.grantWrite after
  | grantWriteAcp, after => desired.GrantStays desired.grantWriteAcp after
  | placement, after => after = desired.createBucketConfiguration
  | objectLock, after => after = desired.objectLockEnabledForBucket
  | policy, after => after = desired.policy
  | setting s, after => ∀ value, desired.setting s = some value → after = some value
  | document d, after => ∀ content, desired.document d = some content →
      ∃ kept, after = some kept ∧ d.Rearranged content kept
  | collection c, after => ∀ items, desired.collection c = some items →
      ∃ kept, after = some kept ∧ c.FirstOfEach items kept

/-- What was observed of a member stays, in the same order as what is asked of it. Object lock is
forgotten where there is no opinion on it, and a document that is not there may be taken for a desired one
that would be deleted. Nothing is said of the texts of the ACL. -/
def StaysObserved (desired observed : BucketSpec) : (member : SpecMember) → member.Value → Prop
  | name, after => after = observed.name
  | acl, _ | grantFullControl, _ | grantRead, _ | grantReadAcp, _ | grantWrite, _ | grantWriteAcp, _ => True
  | placement, after => after = observed.createBucketConfiguration
  | objectLock, after => after = observed.objectLockEnabledForBucket ∨
      desired.objectLockEnabledForBucket = none ∧ after = none
  | policy, after => after = observed.policy
  | setting s, after => after = observed.setting s
  | document d, after => Option.Rel d.Rearranged (observed.document d) after ∨
      observed.document d = none ∧ ∃ content copy, desired.document d = some content ∧
        d.IsDeleted content ∧ after = some copy ∧ d.Rearranged content copy
  | collection c, after => Option.Rel c.FirstOfEach (observed.collection c) after

end SpecMember

namespace BucketSpec

variable (desired observed : BucketSpec)

/-- What is asked of the ACL stays asked, by a canned ACL or else by permissions. -/
theorem aclTexts_stayAsked {texts : AclGrants}
    (normalized : (desired.aclTexts.normalize observed.aclTexts).1 = texts) :
    SpecMember.acl.StaysAsked desired texts.acl ∧
    desired.GrantStays desired.grantFullControl texts.grantFullControl ∧
    desired.GrantStays desired.grantRead texts.grantRead ∧
    desired.GrantStays desired.grantReadAcp texts.grantReadAcp ∧
    desired.GrantStays desired.grantWrite texts.grantWrite ∧
    desired.GrantStays desired.grantWriteAcp texts.grantWriteAcp := by
  unfold GrantStays SpecMember.StaysAsked
  cases named : desired.acl with
  | none =>
    have wider : texts.Extends desired.aclTexts := normalized ▸ AclGrants.normalize_extends _ named
    exact ⟨by simp, wider.fullControl, wider.read, wider.readAcp, wider.write, wider.writeAcp⟩
  | some acl =>
    have asked : desired.aclTexts.acl = some acl := named
    obtain ⟨chosen, either, alone⟩ := AclGrants.normalize_of_named observed.aclTexts asked
    obtain rfl : texts = { acl := some chosen } := normalized.symm.trans alone
    simpa using either

/-- What is asked of a member stays asked. -/
theorem staysAsked_normalized (member : SpecMember) :
    member.StaysAsked desired (member.get (desired.normalizedDesired observed)) := by
  obtain ⟨acl, fullControl, read, readAcp, write, writeAcp⟩ :=
    desired.aclTexts_stayAsked observed rfl
  cases member with
  | name | placement | objectLock | policy => rfl
  | acl => exact acl
  | grantFullControl => exact fullControl
  | grantRead => exact read
  | grantReadAcp => exact readAcp
  | grantWrite => exact write
  | grantWriteAcp => exact writeAcp
  | setting s =>
    intro value given
    simp [SpecMember.get, normalizedDesired_setting, filledSetting, filled, given]
  | document d =>
    intro content given
    refine ⟨d.arrange content, ?_, d.rearranged_arrange content⟩
    simp [SpecMember.get, normalizedDesired_document, filledDocument, filled, given]
  | collection c =>
    intro items given
    refine ⟨c.byId items, ?_, c.byId_firstOfEach items⟩
    simp [SpecMember.get, normalizedDesired_collection, filledItems, filled, given]

/-- What was observed of a member stays observed. -/
theorem staysObserved_normalized (member : SpecMember) :
    member.StaysObserved desired observed (member.get (desired.normalizedObserved observed)) := by
  cases member with
  | name | placement | policy => rfl
  | acl | grantFullControl | grantRead | grantReadAcp | grantWrite | grantWriteAcp => trivial
  | objectLock =>
    show (_ = _) ∨ _
    cases opinion : desired.objectLockEnabledForBucket with
    | none => exact .inr ⟨rfl, by simp [SpecMember.get, normalizedObserved, opinion]⟩
    | some enabled => exact .inl (by simp [SpecMember.get, normalizedObserved, opinion])
  | setting s => exact normalizedObserved_setting desired observed s
  | document d =>
    have arranged : (SpecMember.document d).get (desired.normalizedObserved observed)
        = (desired.keptDocument observed d).map d.arrange := normalizedObserved_document desired observed d
    rw [arranged]
    rcases d.found_cases (desired.document d) (observed.document d) with
      seen | ⟨missing, taken, content, given, deleted⟩
    · refine .inl ?_
      rw [keptDocument, filledDocument, seen]
      cases observed.document d with
      | none => exact .none
      | some content => exact .some (d.rearranged_arrange content)
    · refine .inr ⟨missing, content, d.arrange content, given, deleted, ?_, d.rearranged_arrange content⟩
      rw [keptDocument, filledDocument, taken, given, Option.map_some]
  | collection c =>
    have sorted : (SpecMember.collection c).get (desired.normalizedObserved observed)
        = (observed.collection c).map c.byId := normalizedObserved_collection desired observed c
    rw [sorted]
    show Option.Rel _ (observed.collection c) _
    cases observed.collection c with
    | none => exact .none
    | some items => exact .some (c.byId_firstOfEach items)

/-- **Making specifications comparable alters nothing that is asked for and makes up nothing that was
not observed**: of every member, what is asked stays asked, and what was observed stays observed. -/
theorem normalized_frame (desired observed : BucketSpec) (member : SpecMember) :
    member.StaysAsked desired (member.get (desired.normalizedDesired observed)) ∧
    member.StaysObserved desired observed (member.get (desired.normalizedObserved observed)) :=
  ⟨desired.staysAsked_normalized observed member, desired.staysObserved_normalized observed member⟩

end BucketSpec

end BucketSteward

import BucketSteward.Proofs.AclComparison
import BucketSteward.Proofs.Matching

/-! Specifications that were made comparable are left alone when they are made comparable again. What
stands in for an opinion counts as one the second time, and a document that was taken for stored is
observed then; so every part has to be stable together with what was observed of it, and the six texts
of the ACL together. -/
namespace BucketSteward

/-! ## One part -/

/-- What was filled in is an opinion. -/
theorem filled_filled {α : Type} (assumed : α → α) (desired observed : Option α) :
    filled assumed (filled assumed desired observed) observed = filled assumed desired observed := by
  cases desired <;> cases observed <;> rfl

/-- The items that were filled in and those observed are already in their order. -/
theorem Collection.filled_again (collection : Collection)
    (desired observed : Option (List collection.Item)) :
    let wanted := (filled (fun _ => []) desired observed).map collection.byId
    let found := observed.map collection.byId
    (filled (fun _ => []) wanted found).map collection.byId = wanted ∧
      found.map collection.byId = found := by
  cases desired <;> cases observed <;> simp [filled, byId_byId]

/-- A document that would be put stays missing, and one that would be deleted was taken for stored. -/
theorem Document.filled_again (document : Document) (desired observed : Option document.Content) :
    let fill := filled fun _ => document.assumed
    let keep := unlessDeleted document.isConfigured
    let wanted := (fill desired observed).map document.arrange
    let found := (keep (fill desired observed) observed).map document.arrange
    (fill wanted found).map document.arrange = wanted ∧
      (keep (fill wanted found) found).map document.arrange = found := by
  cases desired with
  | none =>
    cases observed with
    | none => exact ⟨rfl, rfl⟩
    | some stored => simp [filled, unlessDeleted, arrange_arrange]
  | some content =>
    cases observed with
    | some stored => simp [filled, unlessDeleted, arrange_arrange]
    | none =>
      cases configured : document.isConfigured content <;>
        simp [filled, unlessDeleted, Option.filter, configured, isConfigured_arrange, arrange_arrange]

/-! ## The ACL -/

namespace AclGrants

variable {desired : AclGrants} (observed : AclGrants)

/-- Where a canned ACL is desired, the name that was chosen is the only one to choose from, and it is
still among those observed if it was. -/
theorem normalize_again_of_named {acl : String} (named : desired.acl = some acl) :
    (desired.normalize observed).1.normalize (desired.normalize observed).2
      = desired.normalize observed := by
  cases seen : observed.acl with
  | none => simp [normalize, named, seen]
  | some names =>
    have pair : desired.normalize observed
        = ({ acl := some (((CannedAcls.parse acl).first?).getD "") },
          { acl := (CannedAcls.parse names).matching? (((CannedAcls.parse acl).first?).getD "") }) := by
      simp only [normalize, named, seen]
    rw [pair]
    generalize ((CannedAcls.parse acl).first?).getD "" = chosen
    by_cases among : chosen ∈ (CannedAcls.parse names).names
    · have alone := CannedAcls.parse_of_mem_parse among
      simp [normalize, CannedAcls.matching?, among, alone, CannedAcls.first?]
    · simp [normalize, CannedAcls.matching?, among]

/-- A text or its placeholder has nothing more to hold the place of. -/
theorem placeholder_placeholder (wanted held : Option String) :
    placeholder (placeholder wanted held) held = placeholder wanted held := by
  cases wanted <;> cases held <;> rfl

theorem placeholder_eq_none {wanted held : Option String} (silent : placeholder wanted held = none) :
    wanted = none := by
  cases wanted with
  | none => rfl
  | some text => cases silent

/-- Permissions that are spoken of still are when they have their placeholders. -/
theorem isWithoutGrants_normalize (unnamed : desired.acl = none)
    (spoken : desired.isWithoutGrants = false) :
    (desired.normalize observed).1.isWithoutGrants = false := by
  rw [normalize_of_spoken observed unnamed spoken]
  rw [← Bool.not_eq_true] at spoken ⊢
  refine mt (fun silent => ?_) spoken
  simp only [isWithoutGrants, Bool.and_eq_true, Option.isNone_iff_eq_none] at silent ⊢
  obtain ⟨⟨⟨⟨fullControl, read⟩, readAcp⟩, write⟩, writeAcp⟩ := silent
  refine ⟨⟨⟨⟨?_, placeholder_eq_none read⟩, placeholder_eq_none readAcp⟩,
    placeholder_eq_none write⟩, placeholder_eq_none writeAcp⟩
  split at fullControl
  · cases fullControl
  · exact fullControl

/-- Where no canned ACL is desired, every permission has its placeholder already. -/
theorem normalize_again_of_unnamed (unnamed : desired.acl = none) :
    (desired.normalize observed).1.normalize (desired.normalize observed).2
      = desired.normalize observed := by
  cases silent : desired.isWithoutGrants with
  | true => simp [normalize, unnamed, silent]
  | false =>
    have spoken := isWithoutGrants_normalize observed unnamed silent
    have acl := (normalize_acl observed unnamed).1
    rw [normalize_of_spoken _ acl spoken, normalize_of_spoken observed unnamed silent]
    simp only [placeholder_placeholder, Option.filter_filter, Bool.and_self]
    cases desired.grantFullControl <;> cases observed.grantFullControl <;> rfl

/-- Texts that were made comparable stay as they are. -/
theorem normalize_normalize (desired observed : AclGrants) :
    (desired.normalize observed).1.normalize (desired.normalize observed).2
      = desired.normalize observed := by
  cases acl : desired.acl with
  | some names => exact normalize_again_of_named observed acl
  | none => exact normalize_again_of_unnamed observed acl

end AclGrants

/-! ## Whole specifications -/

namespace BucketSpec

/-- **Making comparable what is comparable changes nothing**, neither in what is desired nor in what
was observed. -/
theorem normalized_again (desired observed : BucketSpec) :
    let wanted := desired.normalizedDesired observed
    let found := desired.normalizedObserved observed
    wanted.normalizedDesired found = wanted ∧ wanted.normalizedObserved found = found := by
  intro wanted found
  have texts := AclGrants.normalize_normalize desired.aclTexts observed.aclTexts
  constructor
  · refine eq_iff_says_same.mpr ⟨rfl, rfl, fun part => ?_⟩
    cases part with
    | setting s =>
      simp only [SaysSame, wanted, found, normalizedDesired_setting, normalizedObserved_setting, filledSetting]
      exact filled_filled _ _ _
    | document d =>
      simp only [SaysSame, wanted, found, normalizedDesired_document, normalizedObserved_document,
        filledDocument, keptDocument]
      exact (d.filled_again _ _).1
    | collection c =>
      simp only [SaysSame, wanted, found, normalizedDesired_collection, normalizedObserved_collection,
        filledItems]
      exact (c.filled_again _ _).1
    | policy => rfl
    | objectLock => rfl
    | acl => exact congrArg Prod.fst texts
  · refine eq_iff_says_same.mpr ⟨rfl, rfl, fun part => ?_⟩
    cases part with
    | setting s =>
      simp only [SaysSame, wanted, found, normalizedObserved_setting]
    | document d =>
      simp only [SaysSame, wanted, found, normalizedDesired_document, normalizedObserved_document,
        filledDocument, keptDocument]
      exact (d.filled_again _ _).2
    | collection c =>
      simp only [SaysSame, wanted, found, normalizedObserved_collection]
      exact (c.filled_again (desired.collection c) _).2
    | policy => rfl
    | objectLock =>
      simp only [SaysSame, wanted, found, normalizedObserved, normalizedDesired]
      cases desired.objectLockEnabledForBucket <;> rfl
    | acl => exact congrArg Prod.snd texts

end BucketSpec

end BucketSteward

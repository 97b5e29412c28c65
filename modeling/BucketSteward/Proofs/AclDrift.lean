import BucketSteward.Proofs.AclComparison

/-! When the ACL of a bucket is reported as differing, in full. A desired canned ACL is looked for, by
its first name, among those that fit what was observed, whatever the permissions beside it say. Without
one the observed ACL has to be one that may be the default, or none that is known, and every permission
has to be desired as it is, if any is desired; only who holds all of them may be left out. -/
namespace BucketSteward

/-! ## A desired canned ACL -/

namespace CannedAcls

/-- The first name in a text that is divided by bars; blanks around a name do not count, nor do empty
names. -/
def firstName? (text : String) : Option String :=
  (((text.toList.splitOn '|').map Text.trim).find? (!·.isEmpty)).map String.ofList

theorem first?_parse (text : String) : (parse text).first? = firstName? text := by
  simp only [parse, first?, firstName?, List.head?_map, List.head?_filter]

end CannedAcls

/-- Every canned ACL that is recognised has a name. -/
theorem AccessControlPolicy.blank_not_canned (policy : AccessControlPolicy) :
    "" ∉ policy.canned.names := fun among => (CannedAcls.isToken_of_mem_ofGrants among).filled rfl

/-- Where a canned ACL is desired, the texts compare equal exactly when its first name is among those
observed; one that has no name counts as the empty name. -/
theorem AclGrants.normalize_same_iff {desired observed : AclGrants} {acl : String}
    (named : desired.acl = some acl) :
    (desired.normalize observed).1 = (desired.normalize observed).2 ↔
      ∃ names, observed.acl = some names ∧
        (CannedAcls.firstName? acl).getD "" ∈ (CannedAcls.parse names).names := by
  rw [normalize, named]
  cases observed.acl with
  | none => simp
  | some names =>
    simp only [CannedAcls.first?_parse, CannedAcls.matching?, Option.some.injEq, exists_eq_left']
    split
    case isTrue among => simpa using among
    case isFalse apart => simpa using apart

namespace BucketSpec

variable (base : BucketSpec) (policy : AccessControlPolicy) {desired : BucketSpec}

/-- A desired canned ACL is in sync exactly when its first name is one that fits. -/
theorem untouched_iff_of_named {acl : String} (named : desired.acl = some acl) :
    let observed := base.withObservedAcl policy
    let delta := Delta.between (desired.normalizedDesired observed)
      (desired.normalizedObserved observed)
    (∀ member ∈ Part.acl.members, delta.touches member = false) ↔
      ∃ name, CannedAcls.firstName? acl = some name ∧ name ∈ policy.canned.names := by
  intro observed delta
  have texts : observed.aclTexts.acl = if policy.canned.isEmpty then none else some policy.canned.display :=
    policy.acl_withObservedAcl base
  have compared : (∀ member ∈ Part.acl.members, delta.touches member = false) ↔
      (desired.aclTexts.normalize observed.aclTexts).1 = (desired.aclTexts.normalize observed.aclTexts).2 :=
    Part.members_untouched_iff .acl
  have wanted : desired.aclTexts.acl = some acl := named
  rw [compared, AclGrants.normalize_same_iff wanted, texts]
  constructor
  · rintro ⟨names, found, among⟩
    split at found
    case isTrue => cases found
    case isFalse =>
      obtain rfl := Option.some.inj found
      rw [policy.parse_display_canned] at among
      cases first : CannedAcls.firstName? acl with
      | none =>
        rw [first] at among
        exact absurd among policy.blank_not_canned
      | some name =>
        rw [first] at among
        exact ⟨name, rfl, among⟩
  · rintro ⟨name, first, among⟩
    have some : ¬ policy.canned.isEmpty = true := fun empty => by
      rw [List.isEmpty_iff.mp empty] at among
      cases among
    refine ⟨_, if_neg some, ?_⟩
    rw [policy.parse_display_canned, first]
    exact among

/-! ## No opinion on the canned ACL -/

/-- The ACL is not known or may be the default exactly when nothing fits or `private` does. -/
theorem not_isOtherCanned_iff_names : ¬ policy.IsOtherCanned ↔
    policy.canned.names = [] ∨ "private" ∈ policy.canned.names := by
  rw [policy.not_isOtherCanned_iff, CannedAcls.isEmpty, CannedAcls.isDefault, List.isEmpty_iff,
    List.contains_iff_mem]
  rfl

theorem isWithoutGrants_iff : desired.aclTexts.isWithoutGrants = true ↔
    desired.grantFullControl = none ∧ desired.grantRead = none ∧ desired.grantReadAcp = none ∧
      desired.grantWrite = none ∧ desired.grantWriteAcp = none := by
  simp only [AclGrants.isWithoutGrants, aclTexts, Bool.and_eq_true, Option.isNone_iff_eq_none, and_assoc]

/-- **What of an ACL is reported, in full.** None of the six members is reported exactly in three cases:
the first name of a desired canned ACL fits; neither a canned ACL nor a permission is desired, and nothing
fits or the default does; or permissions alone are desired, nothing fits or the default does, and each
permission is desired as it is, where who holds all of them may be left out. -/
theorem acl_untouched_iff (base desired : BucketSpec) (policy : AccessControlPolicy) :
    let possible := CannedAcls.ofGrants policy.owner policy.grants
    let held := GrantHeaders.ofGrants policy.grants
    let observed := base.withObservedAcl policy
    let delta := Delta.between (desired.normalizedDesired observed)
      (desired.normalizedObserved observed)
    let mayBeDefault := possible.names = [] ∨ "private" ∈ possible.names
    let silent := desired.grantFullControl = none ∧ desired.grantRead = none ∧
      desired.grantReadAcp = none ∧ desired.grantWrite = none ∧ desired.grantWriteAcp = none
    (∀ member ∈ Part.acl.members, delta.touches member = false) ↔
      (∃ acl name, desired.acl = some acl ∧ CannedAcls.firstName? acl = some name ∧
        name ∈ possible.names) ∨
      (desired.acl = none ∧ silent ∧ mayBeDefault) ∨
      (desired.acl = none ∧ ¬ silent ∧ mayBeDefault ∧
        desired.grantRead = held.read ∧ desired.grantReadAcp = held.readAcp ∧
        desired.grantWrite = held.write ∧ desired.grantWriteAcp = held.writeAcp ∧
        (desired.grantFullControl = none ∨ desired.grantFullControl = held.fullControl)) := by
  intro possible held observed delta mayBeDefault silent
  cases named : desired.acl with
  | some acl =>
    refine (untouched_iff_of_named base policy named).trans ?_
    simp [possible]
  | none =>
    have default : ¬ policy.IsOtherCanned ↔ mayBeDefault := not_isOtherCanned_iff_names policy
    refine (untouched_iff_of_unnamed base policy named).trans ?_
    rw [default]
    simp only [reduceCtorEq, false_and, exists_false, false_or, true_and]
    cases spoken : desired.aclTexts.isWithoutGrants with
    | true =>
      have nothing : silent := isWithoutGrants_iff.mp spoken
      constructor
      · rintro ⟨default, -⟩
        exact .inl ⟨nothing, default⟩
      · rintro (⟨-, default⟩ | ⟨something, -⟩)
        · exact ⟨default, AclGrants.normalize_silent named spoken⟩
        · exact absurd nothing something
    | false =>
      have something : ¬ silent := fun nothing => by
        rw [isWithoutGrants_iff.mpr nothing] at spoken
        cases spoken
      rw [AclGrants.normalize_sameGrants_iff named spoken (speaks_withObservedAcl base policy)]
      constructor
      · rintro ⟨default, own⟩
        exact .inr ⟨something, default, own.read, own.readAcp, own.write, own.writeAcp, own.fullControl⟩
      · rintro (⟨nothing, -⟩ | ⟨-, default, read, readAcp, write, writeAcp, fullControl⟩)
        · exact absurd nothing something
        · exact ⟨default, fullControl, read, readAcp, write, writeAcp⟩

end BucketSpec

end BucketSteward

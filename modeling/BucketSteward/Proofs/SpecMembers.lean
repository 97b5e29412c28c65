import BucketSteward.Proofs.PartValues

/-! The members of a specification, each with the name it is written under and the value it has.
A difference is reported at a member exactly when the two specifications have different values
there: no member hides behind another whose name begins like its own, and nothing that is nested
below a member goes unseen. -/
namespace BucketSteward

/-- What a specification is made of. -/
inductive SpecMember where
  | name
  | acl
  | grantFullControl
  | grantRead
  | grantReadAcp
  | grantWrite
  | grantWriteAcp
  | placement
  | objectLock
  | policy
  | setting (setting : Setting)
  | document (document : Document)
  | collection (collection : Collection)
  deriving DecidableEq

namespace SpecMember

@[reducible] def Value : SpecMember → Type
  | name => String
  | acl | grantFullControl | grantRead | grantReadAcp | grantWrite | grantWriteAcp | policy =>
      Option String
  | placement => Option CreateBucketConfiguration
  | objectLock => Option Bool
  | setting s => Option s.Value
  | document d => Option d.Content
  | collection c => Option (List c.Item)

/-- The value of a specification's member. -/
def get : (member : SpecMember) → BucketSpec → member.Value
  | name, spec => spec.name
  | acl, spec => spec.acl
  | grantFullControl, spec => spec.grantFullControl
  | grantRead, spec => spec.grantRead
  | grantReadAcp, spec => spec.grantReadAcp
  | grantWrite, spec => spec.grantWrite
  | grantWriteAcp, spec => spec.grantWriteAcp
  | placement, spec => spec.createBucketConfiguration
  | objectLock, spec => spec.objectLockEnabledForBucket
  | policy, spec => spec.policy
  | setting s, spec => spec.setting s
  | document d, spec => spec.document d
  | collection c, spec => spec.collection c

/-- The name that a member is written under. -/
def key : SpecMember → String
  | name => "name"
  | acl => "acl"
  | grantFullControl => "grantFullControl"
  | grantRead => "grantRead"
  | grantReadAcp => "grantReadACP"
  | grantWrite => "grantWrite"
  | grantWriteAcp => "grantWriteACP"
  | placement => "createBucketConfiguration"
  | objectLock => "objectLockEnabledForBucket"
  | policy => "policy"
  | setting s => s.member
  | document d => d.member
  | collection c => c.member

/-- All members, as they are written one after the other. -/
def all : List SpecMember := [
  name, acl, grantFullControl, grantRead, grantReadAcp, grantWrite, grantWriteAcp, placement, objectLock,
  setting .accelerate, collection .analytics, document .cors, document .encryption,
  collection .intelligentTiering, collection .inventory, document .lifecycle, setting .logging,
  collection .metrics, setting .notification, document .ownershipControls, policy,
  document .publicAccessBlock, document .replication, setting .requestPayment, document .tagging,
  setting .versioning, document .website]

variable {a b : BucketSpec}

/-- A specification is written as its members, each under its own name. -/
theorem names_written (spec : BucketSpec) :
    ∃ members, write spec = .obj members ∧ members.map (·.1) = all.map key :=
  ⟨_, rfl, rfl⟩

/-- Specifications with the same members are the same. -/
theorem ext_iff : a = b ↔ ∀ member : SpecMember, member.get a = member.get b := by
  constructor
  · rintro rfl member
    rfl
  · intro same
    refine BucketSpec.eq_iff_says_same.mpr ⟨same .name, same .placement, fun part => ?_⟩
    cases part with
    | setting s => exact same (.setting s)
    | document d => exact same (.document d)
    | collection c => exact same (.collection c)
    | policy => exact same .policy
    | objectLock => exact same .objectLock
    | acl =>
      rw [BucketSpec.SaysSame, BucketSpec.aclTexts, BucketSpec.aclTexts, AclGrants.mk.injEq]
      exact ⟨same .acl, same .grantFullControl, same .grantRead, same .grantReadAcp,
        same .grantWrite, same .grantWriteAcp⟩

open Delta Form in
/-- The name is compared like the members that may be absent. -/
theorem touches_name : (between a b).touches "name" = true ↔ a.name ≠ b.name := by
  have found (spec : BucketSpec) : (write spec).member "name" = write spec.name := rfl
  rw [touches_iff_member (by decide), found, found, ne_eq, LawfulForm.differences_eq_nil_iff]

open Delta in
/-- A member is reported exactly when its values are two. -/
theorem touches_key (member : SpecMember) :
    (between a b).touches member.key = true ↔ member.get a ≠ member.get b := by
  obtain ⟨acl, fullControl, read, readAcp, write, writeAcp⟩ := touches_aclTexts (a := a) (b := b)
  cases member with
  | name => exact touches_name
  | acl => exact acl
  | grantFullControl => exact fullControl
  | grantRead => exact read
  | grantReadAcp => exact readAcp
  | grantWrite => exact write
  | grantWriteAcp => exact writeAcp
  | placement => exact touches_optional _ BucketSpec.createBucketConfiguration (by decide) fun _ => rfl
  | objectLock => exact touches_optional _ BucketSpec.objectLockEnabledForBucket (by decide) fun _ => rfl
  | policy => exact touches_optional _ BucketSpec.policy (by decide) fun _ => rfl
  | setting s => exact touches_setting s
  | document d => exact touches_document d
  | collection c => exact touches_collection c

end SpecMember

/-- **The differences are exactly the members that differ.** Of any two specifications, a difference
is reported at the path of a member when its two values differ and not otherwise, so none at all is
reported exactly when the specifications are equal. The members are all that is written. -/
theorem Delta.differsAt_iff (a b : BucketSpec) :
    (∃ members, write a = .obj members ∧ members.map (·.1) = SpecMember.all.map SpecMember.key) ∧
    (∀ member : SpecMember,
      (Delta.between a b).differsAt ("spec." ++ member.key) = true ↔ member.get a ≠ member.get b) ∧
    ((Delta.between a b).isEmpty = true ↔ ∀ member : SpecMember, member.get a = member.get b) ∧
    ((Delta.between a b).isEmpty = true ↔ a = b) := by
  refine ⟨SpecMember.names_written a, fun member => member.touches_key, ?_, isEmpty_between⟩
  rw [isEmpty_between, SpecMember.ext_iff]

end BucketSteward

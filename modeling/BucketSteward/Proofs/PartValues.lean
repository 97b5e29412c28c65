import BucketSteward.Proofs.Delta
import BucketSteward.Sync.Bucket

/-! What two specifications say part by part. They are equal exactly when they have one name and
one placement and say the same about every part, and a part is reported as differing exactly when
they say two things about it. -/
namespace BucketSteward
namespace BucketSpec

variable {a b : BucketSpec}

/-- Two specifications say the same about a part. -/
def SaysSame (a b : BucketSpec) : Part → Prop
  | .setting s => a.setting s = b.setting s
  | .document d => a.document d = b.document d
  | .collection c => a.collection c = b.collection c
  | .policy => a.policy = b.policy
  | .objectLock => a.objectLockEnabledForBucket = b.objectLockEnabledForBucket
  | .acl => a.aclTexts = b.aclTexts

/-- A specification is its name, its placement and what it says about every part. -/
theorem eq_iff_says_same : a = b ↔ a.name = b.name ∧
    a.createBucketConfiguration = b.createBucketConfiguration ∧ ∀ part, SaysSame a b part := by
  constructor
  · rintro rfl
    exact ⟨rfl, rfl, fun part => by cases part <;> rfl⟩
  · rintro ⟨name, placement, same⟩
    have texts := same .acl
    simp only [SaysSame, aclTexts, AclGrants.mk.injEq] at texts
    obtain ⟨acl, fullControl, read, readAcp, write, writeAcp⟩ := texts
    cases a
    cases b
    rw [mk.injEq]
    exact ⟨name, acl, fullControl, read, readAcp, write, writeAcp, placement, same .objectLock,
      same (.setting .accelerate), same (.collection .analytics), same (.document .cors),
      same (.document .encryption), same (.collection .intelligentTiering),
      same (.collection .inventory), same (.document .lifecycle), same (.setting .logging),
      same (.collection .metrics), same (.setting .notification),
      same (.document .ownershipControls), same .policy, same (.document .publicAccessBlock),
      same (.document .replication), same (.setting .requestPayment), same (.document .tagging),
      same (.setting .versioning), same (.document .website)⟩

end BucketSpec

open Delta BucketSpec

variable {a b : BucketSpec}

/-- Something differs in one of a part's members exactly when two things are said about it. -/
theorem Part.members_touched_iff (part : Part) :
    part.members.any (between a b).touches = true ↔ ¬ a.SaysSame b part := by
  cases part with
  | setting s => simpa [Part.members, SaysSame] using touches_setting s
  | document d => simpa [Part.members, SaysSame] using touches_document d
  | collection c => simpa [Part.members, SaysSame] using touches_collection c
  | policy =>
    simpa [Part.members, SaysSame] using
      touches_optional _ BucketSpec.policy (by decide) fun _ => rfl
  | objectLock =>
    simpa [Part.members, SaysSame] using
      touches_optional _ BucketSpec.objectLockEnabledForBucket (by decide) fun _ => rfl
  | acl =>
    obtain ⟨acl, fullControl, read, readAcp, write, writeAcp⟩ := touches_aclTexts (a := a) (b := b)
    simp only [Part.members, SaysSame, List.any_cons, List.any_nil, Bool.or_false, Bool.or_eq_true,
      acl, fullControl, read, readAcp, write, writeAcp, aclTexts, AclGrants.mk.injEq, not_and_or]

/-- No member of a part is reported exactly when the same is said about it. -/
theorem Part.members_untouched_iff (part : Part) :
    (∀ member ∈ part.members, (between a b).touches member = false) ↔ a.SaysSame b part := by
  rw [← not_iff_not, ← part.members_touched_iff, List.any_eq_true]
  simp

/-- Replication and versioning are written when either differs, and any other part when it does. -/
theorem Part.differsIn_iff (part : Part) :
    part.differsIn (between a b) = true ↔
      if part = .setting .versioning ∨ part = .document .replication then
        a.document .replication ≠ b.document .replication ∨
          a.setting .versioning ≠ b.setting .versioning
      else ¬ a.SaysSame b part := by
  have either : ((between a b).touches "replication" || (between a b).touches "versioning") = true ↔
      a.document .replication ≠ b.document .replication ∨
        a.setting .versioning ≠ b.setting .versioning := by
    rw [Bool.or_eq_true]
    exact or_congr (touches_document .replication) (touches_setting .versioning)
  split
  case isTrue pair =>
    rcases pair with rfl | rfl <;> exact either
  case isFalse other =>
    rw [← Part.members_touched_iff]
    unfold Part.differsIn
    split
    · exact absurd (.inl rfl) other
    · exact absurd (.inr rfl) other
    · rfl

end BucketSteward

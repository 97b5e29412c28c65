import BucketSteward.Proofs.AclComparison
import BucketSteward.Proofs.Recovery

/-! What is sent of the ACL that a specification describes. A creation sends every text that says
something; setting an ACL sends the canned ACL alone where one is named, even by a blank text, and
otherwise the permissions that say something. So the two agree where at most one of the two ways of
describing an ACL is used, and a blank text is not the same as none where texts are compared. -/
namespace BucketSteward

namespace AclGrants

/-! ## The texts that say something -/

/-- The permissions whose texts say something. -/
def spoken (texts : AclGrants) : AclGrants where
  grantFullControl := nonBlank texts.grantFullControl
  grantRead := nonBlank texts.grantRead
  grantReadAcp := nonBlank texts.grantReadAcp
  grantWrite := nonBlank texts.grantWrite
  grantWriteAcp := nonBlank texts.grantWriteAcp

/-- What an ACL with these texts is set to. -/
def toSend (texts : AclGrants) : AclGrants :=
  match texts.acl with
  | some acl => { acl := some acl }
  | none => if texts.spoken = {} then { acl := some Acl.defaultName } else texts.spoken

theorem ofSpec_eq (spec : BucketSpec) : ofSpec spec = spec.aclTexts.toSend := rfl

theorem ofNewSpec_eq (spec : BucketSpec) :
    ofNewSpec spec = { spec.aclTexts.spoken with acl := nonBlank spec.acl } := rfl

/-- Permissions that say something are blank together exactly when there are none. -/
theorem spoken_isWithoutGrants_iff {texts : AclGrants} :
    texts.spoken.isWithoutGrants = true ↔ texts.spoken = {} := by
  simp only [isWithoutGrants, spoken, Bool.and_eq_true, Option.isNone_iff_eq_none, AclGrants.mk.injEq,
    true_and, and_assoc]

/-- Without a canned ACL a creation sends the permissions that say something. -/
theorem ofNewSpec_of_none {desired : BucketSpec} (acl : desired.acl = none) :
    ofNewSpec desired = desired.aclTexts.spoken := by
  rw [ofNewSpec_eq, acl]
  rfl

theorem ofSpec_of_some {desired : BucketSpec} {name : String} (acl : desired.acl = some name) :
    ofSpec desired = { acl := some name } := by
  have named : desired.aclTexts.acl = some name := acl
  rw [ofSpec_eq, toSend, named]

theorem ofSpec_of_none {desired : BucketSpec} (acl : desired.acl = none) :
    ofSpec desired = if desired.aclTexts.spoken = {} then { acl := some Acl.defaultName }
      else desired.aclTexts.spoken := by
  have unnamed : desired.aclTexts.acl = none := acl
  rw [ofSpec_eq, toSend, unnamed]

/-- A creation sends what the ACL would be set to where just one way of describing it is used. -/
theorem ofNewSpec_eq_ofSpec_iff (desired : BucketSpec) :
    ofNewSpec desired = ofSpec desired ↔
      (desired.acl = none ∧ desired.aclTexts.spoken ≠ {}) ∨
      (nonBlank desired.acl ≠ none ∧ desired.aclTexts.spoken = {}) := by
  cases acl : desired.acl with
  | none =>
    rw [ofNewSpec_of_none acl, ofSpec_of_none acl]
    by_cases silent : desired.aclTexts.spoken = {}
    · simp [silent, nonBlank]
    · simp [silent]
  | some name =>
    rw [ofNewSpec_eq, ofSpec_of_some acl, acl]
    by_cases blank : name = ""
    · simp [blank, nonBlank]
    · have said : nonBlank (some name) = some name := by simp [nonBlank, blank]
      rw [said]
      simp [spoken]

/-- A creation sends nothing where setting the ACL falls back on the default. -/
theorem sends_default_iff (desired : BucketSpec) :
    (ofNewSpec desired = {} ∧ ofSpec desired = { acl := some Acl.defaultName }) ↔
      desired.acl = none ∧ desired.aclTexts.spoken = {} := by
  cases acl : desired.acl with
  | none =>
    rw [ofNewSpec_of_none acl, ofSpec_of_none acl]
    by_cases silent : desired.aclTexts.spoken = {} <;> simp [silent]
  | some name =>
    rw [ofNewSpec_eq, ofSpec_of_some acl, acl]
    constructor
    · rintro ⟨created, sent⟩
      obtain rfl : name = Acl.defaultName := by simpa using sent
      have unsaid : nonBlank (some Acl.defaultName) = none := congrArg AclGrants.acl created
      exact absurd unsaid (by decide)
    · rintro ⟨unnamed, -⟩
      cases unnamed

/-- A creation sends a canned ACL together with permissions where both say something. -/
theorem ofNewSpec_sends_both_iff (desired : BucketSpec) :
    ((ofNewSpec desired).acl ≠ none ∧ (ofNewSpec desired).isWithoutGrants = false) ↔
      nonBlank desired.acl ≠ none ∧ desired.aclTexts.spoken ≠ {} := by
  have permissions : (ofNewSpec desired).isWithoutGrants = desired.aclTexts.spoken.isWithoutGrants := rfl
  rw [permissions, ← Bool.not_eq_true, spoken_isWithoutGrants_iff]
  rfl

/-- Setting an ACL never sends a canned ACL together with permissions. -/
theorem ofSpec_sends_one (desired : BucketSpec) :
    (ofSpec desired).acl = none ∨ (ofSpec desired).isWithoutGrants = true := by
  cases acl : desired.acl with
  | none =>
    rw [ofSpec_of_none acl]
    split
    · exact .inr rfl
    · exact .inl rfl
  | some name =>
    rw [ofSpec_of_some acl]
    exact .inr rfl

end AclGrants

namespace Pass

/-- A creation sends what the ACL would be set to where either permissions that say something or a canned
ACL are desired, and nothing where neither is and the ACL would be set to the default. Where both are
desired a creation sends both, though an ACL is never set to both. -/
theorem created_acl_iff {σ : Type} (serve : Service Storage σ) (state : σ) (location : Location)
    (desired : BucketSpec) :
    ∃ creation rest sent,
      (create location desired).trace serve state = (.createBucket creation, state) :: rest ∧
      (syncAcl desired).trace serve state = [(.putAcl desired.name sent, state)] ∧
      (creation.grants = sent ↔
        (desired.acl = none ∧ desired.aclTexts.spoken ≠ {}) ∨
        (nonBlank desired.acl ≠ none ∧ desired.aclTexts.spoken = {})) ∧
      ((creation.grants = {} ∧ sent = { acl := some Acl.defaultName }) ↔
        desired.acl = none ∧ desired.aclTexts.spoken = {}) ∧
      ((creation.grants.acl ≠ none ∧ creation.grants.isWithoutGrants = false) ↔
        nonBlank desired.acl ≠ none ∧ desired.aclTexts.spoken ≠ {}) ∧
      (sent.acl = none ∨ sent.isWithoutGrants = true) := by
  have created : ∃ rest, (create location desired).trace serve state
      = (.createBucket {
          bucket := desired.name
          grants := .ofNewSpec desired
          configuration := desired.createBucketConfiguration
          objectLock := desired.objectLockEnabledForBucket }, state) :: rest := by
    rw [create, Program.bind_eq, call_eq, Program.bind, Program.trace]
    exact ⟨_, rfl⟩
  obtain ⟨rest, created⟩ := created
  have sent : (syncAcl desired).trace serve state
      = [(.putAcl desired.name (.ofSpec desired), state)] := by
    rw [syncAcl, call_eq, Program.trace]
    split <;> rfl
  exact ⟨_, rest, _, created, sent, AclGrants.ofNewSpec_eq_ofSpec_iff desired,
    AclGrants.sends_default_iff desired, AclGrants.ofNewSpec_sends_both_iff desired,
    AclGrants.ofSpec_sends_one desired⟩

/-- A bucket is created with a canned ACL and a permission, and would be updated with the canned ACL
alone. -/
theorem created_with_both :
    let desired : BucketSpec := {
      name := "ledger"
      acl := some "public-read"
      grantRead := some "id=auditor" }
    let after := ((sync ⟨none, "eu-west-1"⟩ desired .adoptOrCreate).run Store.serve {}).2
    (after.buckets.get? "ledger").bind (·.lastAclPut)
        = some { acl := some "public-read", grantRead := some "id=auditor" } ∧
      AclGrants.ofSpec desired = { acl := some "public-read" } := by
  decide +kernel

end Pass

end BucketSteward

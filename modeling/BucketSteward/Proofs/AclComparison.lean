import BucketSteward.Proofs.PartValues
import BucketSteward.Proofs.StoredNames

/-! What is compared of an ACL. An ACL is observed twice, as the names of canned ACLs that fit it and
as one text for each permission, and what is desired speaks of only one of them. Where it names no
canned ACL, an observed one other than the default is reported whatever else is desired; and who
holds every permission is compared only where that is desired, so that its holders beside the owner
go unseen unless the ACL is one that is recognised. -/
namespace BucketSteward

/-! ## Recognised ACLs -/

namespace Acl

/-- The canned ACLs that are recognised beside the default. -/
def otherNames : List String :=
  ["aws-exec-read", "public-read", "authenticated-read", "log-delivery-write", "public-read-write"]

/-- The owner's grant alone may be the default; with other grants at most one canned ACL fits, and
then none of them gives every permission. -/
theorem namesBeside_cases (beside : List Grant) :
    namesBeside beside = [] ∨
    (namesBeside beside = [defaultName, "bucket-owner-read", "bucket-owner-full-control"] ∧
      beside = []) ∨
    ∃ name ∈ otherNames, namesBeside beside = [name] ∧
      ∀ grant ∈ beside, grant.permission ≠ some fullControl := by
  by_cases unknown : namesBeside beside = []
  · exact .inl unknown
  obtain ⟨kind, arranged, rearranged, adds⟩ := CannedGrants.adds_of_namesBeside unknown
  have names := CannedGrants.namesBeside_of_adds rearranged adds
  have partly : ∀ grant ∈ beside, grant.permission ≠ some fullControl := fun grant among =>
    adds.not_fullControl grant (rearranged.mem_iff.mp among)
  cases kind with
  | ownersAlone =>
    obtain rfl := adds
    exact .inr (.inl ⟨names, rearranged.eq_nil⟩)
  | _ => exact .inr (.inr ⟨_, by decide, names, partly⟩)

end Acl

namespace AccessControlPolicy

variable (policy : AccessControlPolicy)

/-- The canned ACLs that fit. -/
abbrev canned : CannedAcls := CannedAcls.ofGrants policy.owner policy.grants

/-- The ACL is recognised as a canned one that can not be the default. -/
def IsOtherCanned : Prop := ∃ name ∈ Acl.otherNames, policy.canned = ⟨[name]⟩

/-- What fits is nothing, the default, or one other canned ACL. -/
theorem canned_cases :
    policy.canned = ⟨[]⟩ ∨
    policy.canned = ⟨[Acl.defaultName, "bucket-owner-read", "bucket-owner-full-control"]⟩ ∨
    policy.IsOtherCanned := by
  unfold IsOtherCanned canned CannedAcls.ofGrants
  split
  · exact .inl rfl
  · split
    · rcases Acl.namesBeside_cases (policy.grants.eraseP _) with none | ⟨default, -⟩ |
        ⟨name, known, one, -⟩
      · exact .inl (congrArg _ none)
      · exact .inr (.inl (congrArg _ default))
      · exact .inr (.inr ⟨name, known, congrArg _ one⟩)
    · exact .inl rfl

/-- The names that fit are read from the text that they are kept in. -/
theorem parse_display_canned : CannedAcls.parse policy.canned.display = policy.canned :=
  CannedAcls.parse_display fun _ => CannedAcls.isToken_of_mem_ofGrants

/-- What fits is nothing or has the default in it, unless it is another canned ACL. -/
theorem not_isOtherCanned_iff :
    ¬ policy.IsOtherCanned ↔ policy.canned.isEmpty = true ∨ policy.canned.isDefault = true := by
  rcases policy.canned_cases with none | default | other
  · simp [IsOtherCanned, none, CannedAcls.isEmpty]
  · simp [IsOtherCanned, default, CannedAcls.isEmpty, CannedAcls.isDefault]
  · obtain ⟨name, known, one⟩ := id other
    have unlike : ∀ name ∈ Acl.otherNames, Acl.defaultName ≠ name := by decide
    simp [other, one, CannedAcls.isEmpty, CannedAcls.isDefault, unlike name known]

/-- The names that fit are observed, if there are any. -/
theorem acl_withObservedAcl (base : BucketSpec) : (base.withObservedAcl policy).acl
    = if policy.canned.isEmpty then none else some policy.canned.display := rfl

/-- What is left of the observed names when the default counts as none. -/
theorem observedAcl_eq_none_iff (base : BucketSpec) :
    ((base.withObservedAcl policy).acl.filter fun names => !(CannedAcls.parse names).isDefault) = none
      ↔ ¬ policy.IsOtherCanned := by
  rw [not_isOtherCanned_iff, acl_withObservedAcl]
  by_cases empty : policy.canned.isEmpty = true
  · simp [empty]
  · simp [empty, policy.parse_display_canned]

/-- In an ACL that is recognised only the owner holds every permission. -/
theorem fullControl_of_canned {owner : String}
    (owned : policy.owner.bind (·.id) = some owner) (recognised : policy.canned ≠ ⟨[]⟩)
    {grant : Grant} (among : grant ∈ policy.grants)
    (every : grant.permission = some Acl.fullControl) : grant.granteeId? = some owner := by
  unfold canned CannedAcls.ofGrants at recognised
  rw [owned] at recognised
  simp only at recognised
  split at recognised
  case isFalse => exact absurd rfl recognised
  case isTrue some =>
    obtain ⟨own, inside, holds⟩ := List.any_eq_true.mp some
    obtain ⟨first, before, after, -, owns, grants, rest⟩ :=
      List.exists_of_eraseP (p := (·.isOwners owner)) inside holds
    have others : ∀ other ∈ before ++ after, other.permission ≠ Option.some Acl.fullControl := by
      rw [← rest]
      rcases Acl.namesBeside_cases (policy.grants.eraseP (·.isOwners owner)) with none |
        ⟨-, empty⟩ | ⟨name, known, one, less⟩
      · exact absurd (congrArg CannedAcls.mk none) recognised
      · simp [empty]
      · exact less
    rw [grants] at among
    have placed : grant = first ∨ grant ∈ before ++ after := by
      simp only [List.mem_append, List.mem_cons] at among ⊢
      tauto
    rcases placed with rfl | other
    · simp only [Grant.isOwners, Bool.and_eq_true, beq_iff_eq] at owns
      exact owns.1
    · exact absurd every (others grant other)

end AccessControlPolicy

/-! ## Texts of permissions -/

/-- A permission that somebody holds has a text that says so. -/
theorem GrantHeaders.header?_ne_blank (grants : List Grant) (permission : String) :
    header? grants permission ≠ some "" := by
  have spoken : ∀ token ∈ tokens grants permission, token ≠ "" := by
    rintro token among rfl
    obtain ⟨grant, -, held⟩ := List.mem_filterMap.mp among
    obtain ⟨grantee, -, written⟩ := Option.bind_eq_some_iff.mp held
    have id (text : String) : "id=" ++ text ≠ "" := by simp [String.append_eq_empty_iff]
    have uri (text : String) : "uri=" ++ text ≠ "" := by simp [String.append_eq_empty_iff]
    unfold Grantee.token? at written
    split at written
    · simp [uri] at written
    · split at written
      · simp [id] at written
      · cases named : grantee.id <;> simp [named, id, uri] at written
  unfold header?
  cases holders : tokens grants permission with
  | nil => simp
  | cons first rest =>
    have written : first ≠ "" := spoken first (by simp [holders])
    cases rest with
    | nil => simpa using written
    | cons second rest => simp [String.intercalate_cons_cons, String.append_eq_empty_iff, written]

namespace AclGrants

/-- Beside a text that says something, a text or its placeholder is the same only if it is that
text. -/
theorem placeholder_eq_iff (desired : Option String) {observed : Option String}
    (speaks : observed ≠ some "") :
    placeholder desired observed = observed ↔ desired = observed := by
  cases desired with
  | some text => rfl
  | none =>
    cases observed with
    | none => rfl
    | some text =>
      have blank : text ≠ "" := fun empty => speaks (congrArg some empty)
      simp [placeholder, Ne.symm blank]

/-- The text of every permission is the same. -/
structure SameGrants (a b : AclGrants) : Prop where
  fullControl : a.grantFullControl = b.grantFullControl
  read : a.grantRead = b.grantRead
  readAcp : a.grantReadAcp = b.grantReadAcp
  write : a.grantWrite = b.grantWrite
  writeAcp : a.grantWriteAcp = b.grantWriteAcp

/-- The permissions are desired as they are observed; who holds every permission may be left out. -/
structure NamesGrantsOf (desired observed : AclGrants) : Prop where
  fullControl : desired.grantFullControl = none ∨
    desired.grantFullControl = observed.grantFullControl
  read : desired.grantRead = observed.grantRead
  readAcp : desired.grantReadAcp = observed.grantReadAcp
  write : desired.grantWrite = observed.grantWrite
  writeAcp : desired.grantWriteAcp = observed.grantWriteAcp

/-- Every permission that is observed has a text that says something. -/
structure Speaks (observed : AclGrants) : Prop where
  read : observed.grantRead ≠ some ""
  readAcp : observed.grantReadAcp ≠ some ""
  write : observed.grantWrite ≠ some ""
  writeAcp : observed.grantWriteAcp ≠ some ""

variable {desired observed : AclGrants}

/-- Without a desired canned ACL the observed one stays unless it may be the default. -/
theorem normalize_acl (observed : AclGrants) (acl : desired.acl = none) :
    (desired.normalize observed).1.acl = none ∧
    (desired.normalize observed).2.acl
      = observed.acl.filter fun names => !(CannedAcls.parse names).isDefault := by
  unfold normalize
  rw [acl]
  simp only
  split
  · exact ⟨acl, rfl⟩
  · exact ⟨rfl, rfl⟩

/-- Where neither a canned ACL nor a permission is desired, nothing observed is kept but the canned
ACL. -/
theorem normalize_of_silent (observed : AclGrants) (acl : desired.acl = none)
    (silent : desired.isWithoutGrants = true) :
    desired.normalize observed
      = (desired, { acl := observed.acl.filter fun names => !(CannedAcls.parse names).isDefault }) := by
  simp [normalize, acl, silent]

/-- Where permissions alone are desired, each has a text or a placeholder beside an observed one, and
the owner's permission counts as desired. -/
theorem normalize_of_spoken (observed : AclGrants) (acl : desired.acl = none)
    (spoken : desired.isWithoutGrants = false) :
    let owners := desired.grantFullControl.isNone && observed.grantFullControl.isSome
    desired.normalize observed =
      ({ acl := none
         grantFullControl := if owners then some "" else desired.grantFullControl
         grantRead := placeholder desired.grantRead observed.grantRead
         grantReadAcp := placeholder desired.grantReadAcp observed.grantReadAcp
         grantWrite := placeholder desired.grantWrite observed.grantWrite
         grantWriteAcp := placeholder desired.grantWriteAcp observed.grantWriteAcp },
       { observed with
         acl := observed.acl.filter fun names => !(CannedAcls.parse names).isDefault
         grantFullControl := if owners then some "" else observed.grantFullControl }) := by
  simp [normalize, acl, spoken]

/-- Where neither a canned ACL nor a permission is desired, no permission is left to compare. -/
theorem normalize_silent (acl : desired.acl = none) (silent : desired.isWithoutGrants = true) :
    (desired.normalize observed).1.SameGrants (desired.normalize observed).2 := by
  rw [normalize_of_silent observed acl silent]
  simp only [isWithoutGrants, Bool.and_eq_true, Option.isNone_iff_eq_none] at silent
  obtain ⟨⟨⟨⟨fullControl, read⟩, readAcp⟩, write⟩, writeAcp⟩ := silent
  exact ⟨fullControl, read, readAcp, write, writeAcp⟩

/-- Where a permission but no canned ACL is desired, the permissions compare equal exactly when they
are desired as they are observed. -/
theorem normalize_sameGrants_iff (acl : desired.acl = none)
    (some : desired.isWithoutGrants = false) (speaks : observed.Speaks) :
    (desired.normalize observed).1.SameGrants (desired.normalize observed).2 ↔
      desired.NamesGrantsOf observed := by
  have full : (if desired.grantFullControl.isNone && observed.grantFullControl.isSome
        then Option.some "" else desired.grantFullControl)
      = (if desired.grantFullControl.isNone && observed.grantFullControl.isSome
        then Option.some "" else observed.grantFullControl) ↔
      desired.grantFullControl = none ∨ desired.grantFullControl = observed.grantFullControl := by
    cases desired.grantFullControl <;> cases observed.grantFullControl <;> simp
  have read := placeholder_eq_iff desired.grantRead speaks.read
  have readAcp := placeholder_eq_iff desired.grantReadAcp speaks.readAcp
  have write := placeholder_eq_iff desired.grantWrite speaks.write
  have writeAcp := placeholder_eq_iff desired.grantWriteAcp speaks.writeAcp
  rw [normalize_of_spoken observed acl some]
  constructor
  · intro same
    exact ⟨full.mp same.fullControl, read.mp same.read, readAcp.mp same.readAcp,
      write.mp same.write, writeAcp.mp same.writeAcp⟩
  · intro named
    exact ⟨full.mpr named.fullControl, read.mpr named.read, readAcp.mpr named.readAcp,
      write.mpr named.write, writeAcp.mpr named.writeAcp⟩

end AclGrants

/-! ## What is reported of an ACL -/

namespace BucketSpec

variable (base : BucketSpec) (policy : AccessControlPolicy) {desired : BucketSpec}

theorem speaks_withObservedAcl : (base.withObservedAcl policy).aclTexts.Speaks := by
  constructor <;> exact GrantHeaders.header?_ne_blank _ _

/-- Without a desired canned ACL the one observed is reported exactly when it is recognised as another
than the default. -/
theorem touches_acl_iff (acl : desired.acl = none) :
    let observed := base.withObservedAcl policy
    (Delta.between (desired.normalizedDesired observed)
      (desired.normalizedObserved observed)).touches "acl" = true ↔ policy.IsOtherCanned := by
  intro observed
  obtain ⟨reported, -⟩ := Delta.touches_aclTexts
    (a := desired.normalizedDesired observed) (b := desired.normalizedObserved observed)
  have silent : desired.aclTexts.acl = none := acl
  obtain ⟨wanted, found⟩ := AclGrants.normalize_acl observed.aclTexts silent
  have left : (desired.normalizedDesired observed).acl = none := wanted
  have right : (desired.normalizedObserved observed).acl
    = observed.acl.filter fun names => !(CannedAcls.parse names).isDefault := found
  rw [reported, left, right, ne_comm, ne_eq, policy.observedAcl_eq_none_iff base, not_not]

/-- No permission is reported exactly when the normalized texts of all of them are the same. -/
theorem grants_untouched_iff {observed : BucketSpec} :
    let delta := Delta.between (desired.normalizedDesired observed)
      (desired.normalizedObserved observed)
    (∀ member ∈ Part.acl.members, member ≠ "acl" → delta.touches member = false) ↔
      (desired.aclTexts.normalize observed.aclTexts).1.SameGrants
        (desired.aclTexts.normalize observed.aclTexts).2 := by
  intro delta
  obtain ⟨-, fullControl, read, readAcp, write, writeAcp⟩ := Delta.touches_aclTexts
    (a := desired.normalizedDesired observed) (b := desired.normalizedObserved observed)
  have members : (∀ member ∈ Part.acl.members, member ≠ "acl" → delta.touches member = false) ↔
      delta.touches "grantFullControl" = false ∧ delta.touches "grantRead" = false ∧
      delta.touches "grantReadACP" = false ∧ delta.touches "grantWrite" = false ∧
      delta.touches "grantWriteACP" = false := by
    simp [Part.members]
  have untouched {member : String} {wanted found : Option String}
      (reported : delta.touches member = true ↔ wanted ≠ found) :
      delta.touches member = false ↔ wanted = found := by
    rw [← Bool.not_eq_true, reported, not_ne_iff]
  rw [members, untouched fullControl, untouched read, untouched readAcp, untouched write,
    untouched writeAcp]
  constructor
  · rintro ⟨fullControl, read, readAcp, write, writeAcp⟩
    exact ⟨fullControl, read, readAcp, write, writeAcp⟩
  · intro same
    exact ⟨same.fullControl, same.read, same.readAcp, same.write, same.writeAcp⟩

/-- Without a desired canned ACL nothing of an ACL is reported exactly when it is not recognised as
another than the default and the normalized texts of all permissions are the same. -/
theorem untouched_iff_of_unnamed (acl : desired.acl = none) :
    let observed := base.withObservedAcl policy
    let delta := Delta.between (desired.normalizedDesired observed)
      (desired.normalizedObserved observed)
    (∀ member ∈ Part.acl.members, delta.touches member = false) ↔ ¬ policy.IsOtherCanned ∧
      (desired.aclTexts.normalize observed.aclTexts).1.SameGrants
        (desired.aclTexts.normalize observed.aclTexts).2 := by
  intro observed delta
  have canned : delta.touches "acl" = true ↔ policy.IsOtherCanned := touches_acl_iff base policy acl
  have grants : (∀ member ∈ Part.acl.members, member ≠ "acl" → delta.touches member = false) ↔ _ :=
    grants_untouched_iff
  rw [← grants, ← canned, Bool.not_eq_true]
  constructor
  · intro untouched
    exact ⟨untouched "acl" List.mem_cons_self, fun member among _ => untouched member among⟩
  · rintro ⟨name, others⟩ member among
    by_cases same : member = "acl"
    · exact same ▸ name
    · exact others member among same

/-- A specification that names the grants of a bucket's own ACL has no grant reported; the canned ACL
is reported, and the ACL is written, exactly when it is recognised as another than the default. -/
theorem ownGrants_touched_iff (acl : desired.acl = none)
    (some : desired.aclTexts.isWithoutGrants = false)
    (own : desired.aclTexts.NamesGrantsOf (base.withObservedAcl policy).aclTexts) :
    let observed := base.withObservedAcl policy
    let delta := Delta.between (desired.normalizedDesired observed)
      (desired.normalizedObserved observed)
    (∀ member ∈ Part.acl.members, member ≠ "acl" → delta.touches member = false) ∧
    (delta.touches "acl" = true ↔ policy.IsOtherCanned) ∧
    (Part.acl.differsIn delta = true ↔ policy.IsOtherCanned) := by
  intro observed delta
  have grants : ∀ member ∈ Part.acl.members, member ≠ "acl" → delta.touches member = false :=
    grants_untouched_iff.mpr
      ((AclGrants.normalize_sameGrants_iff acl some (speaks_withObservedAcl base policy)).mpr own)
  have canned : delta.touches "acl" = true ↔ policy.IsOtherCanned := touches_acl_iff base policy acl
  refine ⟨grants, canned, ?_⟩
  rw [← canned]
  constructor
  · intro differs
    obtain ⟨member, among, touched⟩ := List.any_eq_true.mp differs
    by_cases same : member = "acl"
    · exact same ▸ touched
    · rw [grants member among same] at touched
      cases touched
  · intro touched
    exact List.any_eq_true.mpr ⟨"acl", List.mem_cons_self, touched⟩

/-- Grants that are not recognised are in sync with a specification that names them. -/
theorem auditor_untouched :
    let policy : AccessControlPolicy := {
      owner := some { id := some "owner" }
      grants := [
        { grantee := some { id := some "owner" }, permission := some "FULL_CONTROL" },
        { grantee := some { id := some "auditor" }, permission := some "READ" }] }
    let desired : BucketSpec := { name := "ledger", grantRead := some "id=auditor" }
    let observed := ({ name := "ledger" } : BucketSpec).withObservedAcl policy
    let delta := Delta.between (desired.normalizedDesired observed)
      (desired.normalizedObserved observed)
    desired.acl = none ∧ desired.aclTexts.isWithoutGrants = false ∧
      desired.aclTexts.NamesGrantsOf observed.aclTexts ∧ Part.acl.differsIn delta = false := by
  intro policy desired observed delta
  have own : desired.aclTexts.NamesGrantsOf observed.aclTexts := by
    constructor <;> decide
  have unknown : ¬ policy.IsOtherCanned := by
    rintro ⟨name, -, one⟩
    cases one
  obtain ⟨-, -, written⟩ := ownGrants_touched_iff { name := "ledger" } policy rfl rfl own
  refine ⟨rfl, rfl, own, ?_⟩
  rw [Bool.eq_false_iff]
  exact mt written.mp unknown

/-- A bucket that anybody may read is reported although just its grants are desired. -/
theorem public_read_stays_reported :
    let allUsers := "http://acs.amazonaws.com/groups/global/AllUsers"
    let policy : AccessControlPolicy := {
      owner := some { id := some "owner" }
      grants := [
        { grantee := some { id := some "owner", type := some "CanonicalUser" }
          permission := some "FULL_CONTROL" },
        { grantee := some { uri := some allUsers, type := some "Group" }
          permission := some "READ" }] }
    let desired : BucketSpec := {
      name := "ledger"
      grantFullControl := some "id=owner"
      grantRead := some ("uri=" ++ allUsers) }
    let observed := ({ name := "ledger" } : BucketSpec).withObservedAcl policy
    let delta := Delta.between (desired.normalizedDesired observed)
      (desired.normalizedObserved observed)
    desired.acl = none ∧ desired.aclTexts.isWithoutGrants = false ∧
      desired.aclTexts.NamesGrantsOf observed.aclTexts ∧ delta.touches "acl" = true := by
  intro allUsers policy desired observed delta
  have own : desired.aclTexts.NamesGrantsOf observed.aclTexts := by
    constructor <;> decide
  have known : policy.IsOtherCanned := ⟨"public-read", by decide, by decide⟩
  exact ⟨rfl, rfl, own, (touches_acl_iff { name := "ledger" } policy rfl).mpr known⟩

/-- Without opinion on the canned ACL and on who holds every permission, nothing of an ACL is reported
exactly when it is not recognised as another than the default and the other permissions are desired
as they are, if any is. So a holder of every permission beside the owner is not seen; only in an ACL
that is recognised there is none. -/
theorem noFullControl_untouched_iff (acl : desired.acl = none)
    (fullControl : desired.grantFullControl = none) :
    let observed := base.withObservedAcl policy
    let delta := Delta.between (desired.normalizedDesired observed)
      (desired.normalizedObserved observed)
    ((∀ member ∈ Part.acl.members, delta.touches member = false) ↔
      ¬ policy.IsOtherCanned ∧ (desired.aclTexts.isWithoutGrants = true ∨
        desired.grantRead = observed.grantRead ∧ desired.grantReadAcp = observed.grantReadAcp ∧
        desired.grantWrite = observed.grantWrite ∧ desired.grantWriteAcp = observed.grantWriteAcp)) ∧
    ∀ owner, policy.owner.bind (·.id) = some owner → policy.canned ≠ ⟨[]⟩ →
      ∀ grant ∈ policy.grants, grant.permission = some Acl.fullControl →
        grant.granteeId? = some owner := by
  intro observed delta
  refine ⟨(untouched_iff_of_unnamed base policy acl).trans (and_congr_right fun _ => ?_),
    fun owner owned recognised grant => policy.fullControl_of_canned owned recognised⟩
  cases silent : desired.aclTexts.isWithoutGrants with
  | true => exact iff_of_true (AclGrants.normalize_silent acl silent) (.inl rfl)
  | false =>
    rw [AclGrants.normalize_sameGrants_iff acl silent (speaks_withObservedAcl base policy)]
    constructor
    · intro named
      exact .inr ⟨named.read, named.readAcp, named.write, named.writeAcp⟩
    · rintro (impossible | ⟨read, readAcp, write, writeAcp⟩)
      · cases impossible
      · exact ⟨.inl fullControl, read, readAcp, write, writeAcp⟩

/-- A bucket that only its owner holds is in sync with a specification that says nothing. -/
theorem owner_alone_untouched :
    let policy : AccessControlPolicy := {
      owner := some { id := some "owner" }
      grants := [{ grantee := some { id := some "owner" }, permission := some "FULL_CONTROL" }] }
    let desired : BucketSpec := { name := "ledger" }
    let observed := ({ name := "ledger" } : BucketSpec).withObservedAcl policy
    let delta := Delta.between (desired.normalizedDesired observed)
      (desired.normalizedObserved observed)
    desired.acl = none ∧ desired.grantFullControl = none ∧
      (∀ member ∈ Part.acl.members, delta.touches member = false) ∧
      ∀ grant ∈ policy.grants, grant.permission = some Acl.fullControl →
        grant.granteeId? = some "owner" := by
  intro policy desired observed delta
  obtain ⟨untouched, owners⟩ := noFullControl_untouched_iff { name := "ledger" } policy
    (show desired.acl = none from rfl) rfl
  have default : ¬ policy.IsOtherCanned := by
    rintro ⟨name, -, one⟩
    cases one
  exact ⟨rfl, rfl, untouched.mpr ⟨default, .inl rfl⟩, owners "owner" rfl (by decide)⟩

/-- A stranger who holds every permission is not reported, neither where no permission is desired nor
where another one is. -/
theorem stranger_unseen :
    let allUsers := "http://acs.amazonaws.com/groups/global/AllUsers"
    let stranger : Grant := {
      grantee := some { id := some "stranger", type := some "CanonicalUser" }
      permission := some "FULL_CONTROL" }
    let policy : AccessControlPolicy := {
      owner := some { id := some "owner" }
      grants := [
        { grantee := some { id := some "owner", type := some "CanonicalUser" }
          permission := some "FULL_CONTROL" },
        stranger,
        { grantee := some { uri := some allUsers, type := some "Group" }
          permission := some "READ" }] }
    let observed := ({ name := "ledger" } : BucketSpec).withObservedAcl policy
    let untouched (desired : BucketSpec) := ∀ member ∈ Part.acl.members,
      (Delta.between (desired.normalizedDesired observed)
        (desired.normalizedObserved observed)).touches member = false
    untouched { name := "ledger" } ∧
      untouched { name := "ledger", grantRead := some ("uri=" ++ allUsers) } ∧
      stranger ∈ policy.grants ∧ stranger.permission = some Acl.fullControl ∧
      stranger.granteeId? ≠ some "owner" := by
  intro allUsers stranger policy observed untouched
  refine ⟨(Part.members_untouched_iff .acl).mpr ?_, (Part.members_untouched_iff .acl).mpr ?_,
    by decide, rfl, by decide⟩
  · rfl
  · rfl

end BucketSpec

end BucketSteward

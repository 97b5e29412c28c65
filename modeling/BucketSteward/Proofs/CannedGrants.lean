import BucketSteward.Acl.Canned
import Mathlib.Data.List.Permutation

/-! Which grants a canned ACL is recognised from. Beside one grant by which the owner holds every
permission there have to be exactly those that the canned ACL adds, in whatever order, and each
holder has to be the user or the group that is meant, unless nothing says what it is. A single grant
to read whose holder can be both is taken for the user's. Everything else is not recognised. -/
namespace BucketSteward

namespace Grant

/-- The user with an id holds a permission; nothing says that the holder is something else. -/
structure GivesUser (grant : Grant) (permission id : String) : Prop where
  permission : grant.permission = some permission
  holder : grant.granteeId? = some id
  type : grant.granteeType? = none ∨ grant.granteeType? = some Acl.canonicalUser

/-- The group with an address holds a permission; nothing says that the holder is something else. -/
structure GivesGroup (grant : Grant) (permission uri : String) : Prop where
  permission : grant.permission = some permission
  holder : grant.granteeUri? = some uri
  type : grant.granteeType? = none ∨ grant.granteeType? = some Acl.group

/-- An owner holds every permission; of what type the holder is does not matter. -/
structure GivesOwner (grant : Grant) (owner : String) : Prop where
  permission : grant.permission = some Acl.fullControl
  holder : grant.granteeId? = some owner

variable {grant : Grant} {permission other id uri owner : String}

theorem isOwners_iff : grant.isOwners owner = true ↔ grant.GivesOwner owner := by
  rw [isOwners, Bool.and_eq_true, beq_iff_eq, beq_iff_eq]
  exact ⟨fun ⟨holder, permission⟩ => ⟨permission, holder⟩, fun gives => ⟨gives.holder, gives.permission⟩⟩

theorem isHeldByUser_iff (holds : grant.permission = some permission) :
    grant.isHeldByUser id = true ↔ grant.GivesUser permission id := by
  have typed : (grant.granteeType?.getD Acl.canonicalUser == Acl.canonicalUser) = true ↔
      grant.granteeType? = none ∨ grant.granteeType? = some Acl.canonicalUser := by
    cases grant.granteeType? <;> simp
  rw [isHeldByUser, Bool.and_eq_true, typed, beq_iff_eq]
  exact ⟨fun ⟨type, holder⟩ => ⟨holds, holder, type⟩, fun gives => ⟨gives.type, gives.holder⟩⟩

theorem isHeldByGroup_iff (holds : grant.permission = some permission) :
    grant.isHeldByGroup uri = true ↔ grant.GivesGroup permission uri := by
  have typed : (grant.granteeType?.getD Acl.group == Acl.group) = true ↔
      grant.granteeType? = none ∨ grant.granteeType? = some Acl.group := by
    cases grant.granteeType? <;> simp
  rw [isHeldByGroup, Bool.and_eq_true, typed, beq_iff_eq]
  exact ⟨fun ⟨type, holder⟩ => ⟨holds, holder, type⟩, fun gives => ⟨gives.type, gives.holder⟩⟩

/-- A grant is held by one group only. -/
theorem GivesGroup.not_other (gives : grant.GivesGroup permission uri) {another : String}
    (apart : uri ≠ another) : ¬ grant.GivesGroup other another := fun also =>
  apart (Option.some.inj (gives.holder.symm.trans also.holder))

end Grant

/-- The kinds of grants that canned ACLs are recognised from. -/
inductive CannedGrants where
  | ownersAlone
  | execRead
  | publicRead
  | authenticatedRead
  | logDelivery
  | publicReadWrite
  deriving DecidableEq, Repr

namespace CannedGrants

open Grant

/-- The canned ACLs that lead to grants of a kind. -/
def names : CannedGrants → List String
  | ownersAlone => ["private", "bucket-owner-read", "bucket-owner-full-control"]
  | execRead => ["aws-exec-read"]
  | publicRead => ["public-read"]
  | authenticatedRead => ["authenticated-read"]
  | logDelivery => ["log-delivery-write"]
  | publicReadWrite => ["public-read-write"]

/-- The grants that stand beside the owner's, in a fixed order. -/
def Adds : CannedGrants → List Grant → Prop
  | ownersAlone, beside => beside = []
  | execRead, beside => ∃ reader, beside = [reader] ∧ reader.GivesUser Acl.read Acl.execReadUser
  | publicRead, beside => ∃ reader, beside = [reader] ∧ reader.GivesGroup Acl.read Acl.allUsers ∧
      ¬ reader.GivesUser Acl.read Acl.execReadUser
  | authenticatedRead, beside => ∃ reader, beside = [reader] ∧
      reader.GivesGroup Acl.read Acl.authenticatedUsers ∧ ¬ reader.GivesUser Acl.read Acl.execReadUser
  | logDelivery, beside => ∃ writer reader, beside = [writer, reader] ∧
      writer.GivesGroup Acl.write Acl.logDelivery ∧ reader.GivesGroup Acl.readAcp Acl.logDelivery
  | publicReadWrite, beside => ∃ reader writer, beside = [reader, writer] ∧
      reader.GivesGroup Acl.read Acl.allUsers ∧ writer.GivesGroup Acl.write Acl.allUsers

/-- In some order the grants are one of everything to the owner and those that stand beside it. -/
def Describes (kind : CannedGrants) (owner : String) (grants : List Grant) : Prop :=
  ∃ own beside, grants.Perm (own :: beside) ∧ own.GivesOwner owner ∧ kind.Adds beside

variable {kind : CannedGrants} {owner : String} {grants others beside arranged : List Grant}

theorem names_ne_nil (kind : CannedGrants) : kind.names ≠ [] := by
  cases kind <;> simp [names]

theorem names_injective {kind other : CannedGrants} (same : kind.names = other.names) :
    kind = other := by
  cases kind <;> cases other <;> first | rfl | simp [names] at same

/-- None of the grants beside the owner's gives every permission. -/
theorem Adds.not_fullControl (adds : kind.Adds beside) :
    ∀ grant ∈ beside, grant.permission ≠ some Acl.fullControl := by
  have partly {grant : Grant} {permission : String} (holds : grant.permission = some permission)
      (less : permission ≠ Acl.fullControl) : grant.permission ≠ some Acl.fullControl := fun every =>
    less (Option.some.inj (holds.symm.trans every))
  cases kind with
  | ownersAlone =>
    obtain rfl := adds
    simp
  | execRead =>
    obtain ⟨reader, rfl, gives⟩ := adds
    simpa using partly gives.permission (by decide)
  | publicRead | authenticatedRead =>
    obtain ⟨reader, rfl, gives, -⟩ := adds
    simpa using partly gives.permission (by decide)
  | logDelivery | publicReadWrite =>
    obtain ⟨first, second, rfl, gives, also⟩ := adds
    simpa using ⟨partly gives.permission (by decide), partly also.permission (by decide)⟩

theorem Adds.not_owners (adds : kind.Adds beside) : ∀ grant ∈ beside, ¬ grant.isOwners owner = true :=
  fun grant among owns => adds.not_fullControl grant among (isOwners_iff.mp owns).permission

theorem Describes.perm (described : kind.Describes owner grants) (rearranged : grants.Perm others) :
    kind.Describes owner others := by
  obtain ⟨own, beside, perm, rest⟩ := described
  exact ⟨own, beside, rearranged.symm.trans perm, rest⟩

/-! ## The grants beside the owner's -/

theorem pairHeldByGroup_iff {a b : Grant} {uri first second : String} :
    Acl.pairHeldByGroup a b uri first second = true ↔
      a.GivesGroup first uri ∧ b.GivesGroup second uri ∨
      a.GivesGroup second uri ∧ b.GivesGroup first uri := by
  simp only [Acl.pairHeldByGroup, Bool.and_eq_true, Bool.or_eq_true, beq_iff_eq]
  constructor
  · rintro ⟨⟨heldA, heldB⟩, ⟨holdsA, holdsB⟩ | ⟨holdsA, holdsB⟩⟩
    · exact .inl ⟨(isHeldByGroup_iff holdsA).mp heldA, (isHeldByGroup_iff holdsB).mp heldB⟩
    · exact .inr ⟨(isHeldByGroup_iff holdsA).mp heldA, (isHeldByGroup_iff holdsB).mp heldB⟩
  · rintro (⟨givesA, givesB⟩ | ⟨givesA, givesB⟩)
    · exact ⟨⟨(isHeldByGroup_iff givesA.permission).mpr givesA,
        (isHeldByGroup_iff givesB.permission).mpr givesB⟩, .inl ⟨givesA.permission, givesB.permission⟩⟩
    · exact ⟨⟨(isHeldByGroup_iff givesA.permission).mpr givesA,
        (isHeldByGroup_iff givesB.permission).mpr givesB⟩, .inr ⟨givesA.permission, givesB.permission⟩⟩

/-- A single grant to read is that of the user, of everybody, or of everybody who is known. -/
theorem namesBeside_reader {reader : Grant} (reads : reader.permission = some Acl.read) :
    (reader.GivesUser Acl.read Acl.execReadUser → Acl.namesBeside [reader] = execRead.names) ∧
    (¬ reader.GivesUser Acl.read Acl.execReadUser →
      (reader.GivesGroup Acl.read Acl.allUsers → Acl.namesBeside [reader] = publicRead.names) ∧
      (reader.GivesGroup Acl.read Acl.authenticatedUsers → Acl.namesBeside [reader] = authenticatedRead.names) ∧
      (¬ reader.GivesGroup Acl.read Acl.allUsers → ¬ reader.GivesGroup Acl.read Acl.authenticatedUsers →
        Acl.namesBeside [reader] = [])) := by
  have user : reader.isHeldByUser Acl.execReadUser = true ↔
      reader.GivesUser Acl.read Acl.execReadUser := isHeldByUser_iff reads
  have everybody : reader.isHeldByGroup Acl.allUsers = true ↔
      reader.GivesGroup Acl.read Acl.allUsers := isHeldByGroup_iff reads
  have known : reader.isHeldByGroup Acl.authenticatedUsers = true ↔
      reader.GivesGroup Acl.read Acl.authenticatedUsers := isHeldByGroup_iff reads
  have apart : Acl.authenticatedUsers ≠ Acl.allUsers := by decide
  simp only [Acl.namesBeside, reads, beq_self_eq_true, if_true]
  refine ⟨fun one => if_pos (user.mpr one), fun other => ?_⟩
  rw [if_neg (mt user.mp other)]
  refine ⟨fun one => if_pos (everybody.mpr one), fun one => ?_, fun neither nor => ?_⟩
  · rw [if_neg (mt everybody.mp (one.not_other apart)), if_pos (known.mpr one)]
    rfl
  · rw [if_neg (mt everybody.mp neither), if_neg (mt known.mp nor)]

theorem namesBeside_of_adds (rearranged : beside.Perm arranged) (adds : kind.Adds arranged) :
    Acl.namesBeside beside = kind.names := by
  cases kind with
  | ownersAlone =>
    obtain rfl := adds
    rw [rearranged.eq_nil]
    rfl
  | execRead =>
    obtain ⟨reader, rfl, gives⟩ := adds
    rw [rearranged.eq_singleton]
    exact (namesBeside_reader gives.permission).1 gives
  | publicRead =>
    obtain ⟨reader, rfl, gives, other⟩ := adds
    rw [rearranged.eq_singleton]
    exact ((namesBeside_reader gives.permission).2 other).1 gives
  | authenticatedRead =>
    obtain ⟨reader, rfl, gives, other⟩ := adds
    rw [rearranged.eq_singleton]
    exact ((namesBeside_reader gives.permission).2 other).2.1 gives
  | logDelivery =>
    obtain ⟨writer, reader, rfl, writes, reads⟩ := adds
    rcases List.perm_pair.mp rearranged with rfl | rfl
    · exact if_pos (pairHeldByGroup_iff.mpr (.inl ⟨writes, reads⟩))
    · exact if_pos (pairHeldByGroup_iff.mpr (.inr ⟨reads, writes⟩))
  | publicReadWrite =>
    obtain ⟨reader, writer, rfl, reads, writes⟩ := adds
    have apart : Acl.allUsers ≠ Acl.logDelivery := by decide
    have unlike {a b : Grant} {permission : String} (gives : a.GivesGroup permission Acl.allUsers) :
        ¬ Acl.pairHeldByGroup a b Acl.logDelivery Acl.write Acl.readAcp = true := by
      rw [pairHeldByGroup_iff]
      rintro (⟨also, -⟩ | ⟨also, -⟩)
      · exact gives.not_other apart also
      · exact gives.not_other apart also
    rcases List.perm_pair.mp rearranged with rfl | rfl
    · exact (if_neg (unlike reads)).trans (if_pos (pairHeldByGroup_iff.mpr (.inl ⟨reads, writes⟩)))
    · exact (if_neg (unlike writes)).trans (if_pos (pairHeldByGroup_iff.mpr (.inr ⟨writes, reads⟩)))

/-- Grants from which a canned ACL is recognised are of some kind. -/
theorem adds_of_namesBeside (recognised : Acl.namesBeside beside ≠ []) :
    ∃ kind : CannedGrants, ∃ arranged, beside.Perm arranged ∧ kind.Adds arranged := by
  match beside with
  | [] => exact ⟨ownersAlone, [], .refl _, rfl⟩
  | [reader] =>
    have reads : reader.permission = some Acl.read := by
      by_contra other
      exact recognised (by simp [Acl.namesBeside, other])
    by_cases user : reader.GivesUser Acl.read Acl.execReadUser
    · exact ⟨execRead, _, .refl _, reader, rfl, user⟩
    by_cases everybody : reader.GivesGroup Acl.read Acl.allUsers
    · exact ⟨publicRead, _, .refl _, reader, rfl, everybody, user⟩
    by_cases known : reader.GivesGroup Acl.read Acl.authenticatedUsers
    · exact ⟨authenticatedRead, _, .refl _, reader, rfl, known, user⟩
    exact absurd (((namesBeside_reader reads).2 user).2.2 everybody known) recognised
  | [a, b] =>
    simp only [Acl.namesBeside] at recognised
    split at recognised
    case isTrue held =>
      rcases pairHeldByGroup_iff.mp held with ⟨writes, reads⟩ | ⟨reads, writes⟩
      · exact ⟨logDelivery, _, .refl _, a, b, rfl, writes, reads⟩
      · exact ⟨logDelivery, _, .swap _ _ _, b, a, rfl, writes, reads⟩
    split at recognised
    case isTrue held =>
      rcases pairHeldByGroup_iff.mp held with ⟨reads, writes⟩ | ⟨writes, reads⟩
      · exact ⟨publicReadWrite, _, .refl _, a, b, rfl, reads, writes⟩
      · exact ⟨publicReadWrite, _, .swap _ _ _, b, a, rfl, reads, writes⟩
    exact absurd rfl recognised
  | _ :: _ :: _ :: _ => exact absurd rfl recognised

end CannedGrants

/-! ## All grants -/

namespace CannedAcls

open CannedGrants

variable {owner : Option Owner} {id : String} {kind : CannedGrants} {grants : List Grant}

/-- Grants of a kind are recognised: once the owner's is taken away, what is left stands beside it. -/
theorem ofGrants_of_describes (owned : owner.bind (·.id) = some id)
    (described : kind.Describes id grants) : ofGrants owner grants = ⟨kind.names⟩ := by
  obtain ⟨own, beside, rearranged, gives, adds⟩ := described
  have owns : own.isOwners id = true := Grant.isOwners_iff.mpr gives
  have some : grants.any (·.isOwners id) = true := by
    rw [rearranged.any_eq, List.any_cons, owns, Bool.true_or]
  -- Only one grant can be taken for the owner's, so it does not matter which comes first.
  have single : (own :: beside).Pairwise fun a b => a.isOwners id = true → b.isOwners id = true → False := by
    refine List.pairwise_cons.mpr ⟨fun grant among _ also => adds.not_owners grant among also, ?_⟩
    exact List.pairwise_of_forall_mem_list fun a among b _ owns _ => adds.not_owners a among owns
  have left : (grants.eraseP (·.isOwners id)).Perm beside := by
    have perm := (rearranged.symm.eraseP (·.isOwners id) single).symm
    rwa [List.eraseP_cons_of_pos (p := fun g : Grant => g.isOwners id) owns] at perm
  rw [ofGrants, owned]
  simp only [some, if_true, namesBeside_of_adds left adds]

/-- Grants that are recognised are of some kind. -/
theorem describes_of_ofGrants (owned : owner.bind (·.id) = some id)
    (recognised : ofGrants owner grants ≠ ⟨[]⟩) : ∃ kind : CannedGrants, kind.Describes id grants := by
  rw [ofGrants, owned] at recognised
  simp only at recognised
  split at recognised
  case isFalse => exact absurd rfl recognised
  case isTrue some =>
    obtain ⟨owned, inside, holds⟩ := List.any_eq_true.mp some
    obtain ⟨own, before, after, -, owns, split, left⟩ :=
      List.exists_of_eraseP (p := (·.isOwners id)) inside holds
    obtain ⟨kind, beside, rearranged, adds⟩ :=
      adds_of_namesBeside fun none => recognised (congrArg mk none)
    have placed : grants.Perm (own :: beside) := by
      rw [split]
      exact List.perm_middle.trans ((left ▸ rearranged).cons own)
    exact ⟨kind, own, beside, placed, Grant.isOwners_iff.mp owns, adds⟩

/-- **Canned ACLs are recognised exactly, in whatever order the grants come.** Without an id of the
owner nothing is recognised. With one, the names of a kind of grants are recognised exactly from the
grants of that kind, and from all others none. The grants can be rearranged. -/
theorem recognised_exactly (owner : Option Owner) (grants : List Grant) :
    (owner.bind (·.id) = none → ofGrants owner grants = ⟨[]⟩) ∧
    (∀ id, owner.bind (·.id) = some id →
      (∀ kind : CannedGrants, ofGrants owner grants = ⟨kind.names⟩ ↔ kind.Describes id grants) ∧
      ((∀ kind : CannedGrants, ¬ kind.Describes id grants) → ofGrants owner grants = ⟨[]⟩)) ∧
    ∀ others, grants.Perm others → ofGrants owner others = ofGrants owner grants := by
  have unowned (unnamed : owner.bind (·.id) = none) (grants : List Grant) :
      ofGrants owner grants = ⟨[]⟩ := by
    rw [ofGrants, unnamed]
  refine ⟨fun unnamed => unowned unnamed grants, fun id owned => ⟨fun kind => ?_, fun unlike => ?_⟩,
    fun others rearranged => ?_⟩
  · constructor
    · intro recognised
      have some : ofGrants owner grants ≠ ⟨[]⟩ := fun none =>
        kind.names_ne_nil (mk.inj (recognised.symm.trans none))
      obtain ⟨found, described⟩ := describes_of_ofGrants owned some
      have same := (ofGrants_of_describes owned described).symm.trans recognised
      exact names_injective (mk.inj same) ▸ described
    · exact ofGrants_of_describes owned
  · by_contra some
    obtain ⟨kind, described⟩ := describes_of_ofGrants owned some
    exact unlike kind described
  · cases owned : owner.bind (·.id) with
    | none => rw [unowned owned, unowned owned]
    | some id =>
      by_cases described : ∃ kind : CannedGrants, kind.Describes id grants
      · obtain ⟨kind, described⟩ := described
        rw [ofGrants_of_describes owned described,
          ofGrants_of_describes owned (described.perm rearranged)]
      · have none {grants : List Grant} (unlike : ¬ ∃ kind : CannedGrants, kind.Describes id grants) :
            ofGrants owner grants = ⟨[]⟩ :=
          by_contra fun some => unlike (describes_of_ofGrants owned some)
        rw [none described, none fun ⟨kind, also⟩ => described ⟨kind, also.perm rearranged.symm⟩]

/-- The grants of a bucket that receives logs, the owner's between the two of the group. -/
theorem log_delivery_recognised :
    let owner : Owner := { id := some "owner" }
    let logs : Grantee := { uri := some Acl.logDelivery }
    let reader : Grant := { grantee := some logs, permission := some Acl.readAcp }
    let writer : Grant := { grantee := some { logs with type := some Acl.group }
                            permission := some Acl.write }
    let own : Grant := { grantee := some { id := some "owner" }, permission := some Acl.fullControl }
    (some owner).bind (·.id) = some "owner" ∧
      CannedGrants.logDelivery.Describes "owner" [reader, own, writer] ∧
      ofGrants (some owner) [reader, own, writer] = ⟨["log-delivery-write"]⟩ := by
  intro owner logs reader writer own
  have described : CannedGrants.logDelivery.Describes "owner" [reader, own, writer] := by
    refine ⟨own, [writer, reader], ?_, ⟨rfl, rfl⟩, writer, reader, rfl, ⟨rfl, rfl, .inr rfl⟩,
      ⟨rfl, rfl, .inl rfl⟩⟩
    exact (List.Perm.swap own reader [writer]).trans ((List.Perm.swap writer reader []).cons own)
  have exact := ((recognised_exactly (some owner) [reader, own, writer]).2.1 "owner" rfl).1 .logDelivery
  exact ⟨rfl, described, exact.mpr described⟩

/-- A grant to read whose holder can be the user or everybody is taken for the user's where it stands
alone beside the owner's, but for everybody's beside one to write. -/
theorem exec_reader_taken_for_everybody :
    let own : Grant := { grantee := some { id := some "owner" }, permission := some Acl.fullControl }
    let reader : Grant := {
      grantee := some { id := some Acl.execReadUser, uri := some Acl.allUsers }
      permission := some Acl.read }
    let writer : Grant := {
      grantee := some { uri := some Acl.allUsers, type := some Acl.group }
      permission := some Acl.write }
    let owner : Owner := { id := some "owner" }
    reader.granteeType? = none ∧ reader.GivesUser Acl.read Acl.execReadUser ∧
      ofGrants (some owner) [own, reader] = ⟨["aws-exec-read"]⟩ ∧
      ofGrants (some owner) [own, reader, writer] = ⟨["public-read-write"]⟩ ∧
      ¬ ∃ held a b : Grant, [own, reader, writer].Perm [held, a, b] ∧ held.GivesOwner "owner" ∧
        a.GivesGroup Acl.read Acl.allUsers ∧ ¬ a.GivesUser Acl.read Acl.execReadUser ∧
        b.GivesGroup Acl.write Acl.allUsers := by
  intro own reader writer owner
  have user : reader.GivesUser Acl.read Acl.execReadUser := ⟨rfl, rfl, .inl rfl⟩
  refine ⟨rfl, user, by decide, by decide, ?_⟩
  rintro ⟨held, a, b, rearranged, -, reads, other, -⟩
  have among : a ∈ [own, reader, writer] := rearranged.mem_iff.mpr (by simp)
  have same : a = reader := by
    rcases List.mem_cons.mp among with rfl | among
    · exact absurd reads.permission (by decide)
    rcases List.mem_cons.mp among with rfl | among
    · rfl
    obtain rfl := List.mem_singleton.mp among
    exact absurd reads.permission (by decide)
  exact other (same ▸ user)

end CannedAcls

end BucketSteward

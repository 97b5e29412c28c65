import BucketSteward.Proofs.Trimming
import BucketSteward.Resource.Policy

/-! Who decides whether a bucket is deleted. A value names a policy when it is the policy's word, whatever the
blanks around it and the case of its letters. The resource is asked first and then its namespace; the first
that names a policy decides, and the default decides when neither does. -/
namespace BucketSteward.DeletionPolicy

def word : DeletionPolicy → String
  | delete => "delete"
  | retain => "retain"

/-- A value is the policy's word in letters of either case, with any blanks around it. -/
def NamedBy (policy : DeletionPolicy) (value : String) : Prop :=
  ∃ before name after : List Char, value.toList = before ++ name ++ after ∧
    (∀ c ∈ before, Text.isBlank c = true) ∧ (∀ c ∈ after, Text.isBlank c = true) ∧
    name.map Text.lowerAscii = policy.word.toList

/-- The first level that names a policy decides, and without one the default does. A level may say nothing,
or something that names no policy. -/
inductive Decided (fallback : DeletionPolicy) : List (Option String) → DeletionPolicy → Prop where
  | byDefault : Decided fallback [] fallback
  | here {value : String} {levels : List (Option String)} {policy : DeletionPolicy}
      (named : policy.NamedBy value) : Decided fallback (some value :: levels) policy
  | later {level : Option String} {levels : List (Option String)} {policy : DeletionPolicy}
      (silent : ∀ value ∈ level, ∀ other : DeletionPolicy, ¬ other.NamedBy value)
      (decided : Decided fallback levels policy) : Decided fallback (level :: levels) policy

variable {policy fallback : DeletionPolicy} {value : String}

/-- A blank is no letter. -/
theorem lowerAscii_of_isBlank {c : Char} (blank : Text.isBlank c = true) : Text.lowerAscii c = c := by
  refine if_neg fun letter => ?_
  obtain ⟨low, high⟩ : 65 ≤ c.toNat ∧ c.toNat ≤ 90 := letter
  simp only [Text.isBlank, Bool.or_eq_true, Bool.and_eq_true, decide_eq_true_eq, beq_iff_eq] at blank
  omega

theorem namedBy_iff : policy.NamedBy value ↔ policyWord value = policy.word.toList := by
  constructor
  · rintro ⟨before, name, after, padded, left, right, spelt⟩
    have letters : policy.word.toList.all (!Text.isBlank ·) = true := by cases policy <;> decide
    have plain : ∀ c ∈ name, Text.isBlank c = false := by
      intro c among
      cases blank : Text.isBlank c with
      | false => rfl
      | true =>
        have spelled : c ∈ policy.word.toList := by
          rw [← spelt]
          exact List.mem_map.mpr ⟨c, among, lowerAscii_of_isBlank blank⟩
        simpa [blank] using List.all_eq_true.mp letters c spelled
    rw [policyWord, padded, Text.trim_padded left right (Text.isTrimmed_of_plain plain), spelt]
  · intro spelt
    obtain ⟨before, after, padded, left, right⟩ := Text.exists_padded value.toList
    exact ⟨before, _, after, padded, left, right, spelt⟩

theorem parse?_eq_some_iff : parse? value = some policy ↔ policy.NamedBy value := by
  rw [namedBy_iff, parse?]
  have apart : "delete".toList ≠ "retain".toList := by decide
  cases policy with
  | delete =>
    split
    case isTrue deleted => exact iff_of_true rfl deleted
    case isFalse other => exact iff_of_false (by split <;> exact nofun) other
  | retain =>
    split
    case isTrue deleted => exact iff_of_false nofun fun retained => apart (deleted.symm.trans retained)
    case isFalse =>
      split
      case isTrue retained => exact iff_of_true rfl retained
      case isFalse other => exact iff_of_false nofun other

theorem parse?_eq_none_iff : parse? value = none ↔ ∀ policy : DeletionPolicy, ¬ policy.NamedBy value := by
  simp only [← parse?_eq_some_iff, Option.eq_none_iff_forall_ne_some, ne_eq]

theorem decided_iff {levels : List (Option String)} :
    Decided fallback levels policy ↔ (levels.findSome? (·.bind parse?)).getD fallback = policy := by
  constructor
  · intro decided
    induction decided with
    | byDefault => rfl
    | here named => simp [parse?_eq_some_iff.mpr named]
    | @later level levels policy silent _ ih =>
      have none : level.bind parse? = none := by
        rw [Option.bind_eq_none_iff]
        exact fun value among => parse?_eq_none_iff.mpr (silent value among)
      simpa [List.findSome?_cons, none] using ih
  · rintro rfl
    induction levels with
    | nil => exact .byDefault
    | cons level levels ih =>
      rw [List.findSome?_cons]
      cases found : level.bind parse? with
      | none =>
        refine .later (fun value among => parse?_eq_none_iff.mp ?_) ih
        exact (Option.bind_eq_none_iff.mp found) value among
      | some policy =>
        obtain ⟨value, rfl, parsed⟩ := Option.bind_eq_some_iff.mp found
        exact .here (parse?_eq_some_iff.mp parsed)

/-- What the resource and its namespace say on the deletion of the bucket. -/
def levels (resource : BucketResource) (annotations : Option (Keyed String)) : List (Option String) :=
  [resource.annotation? annotation, annotations.bind (·.get? namespaceAnnotation)]

theorem resolve_eq_iff {resource : BucketResource} {annotations : Option (Keyed String)} :
    resolve resource.deletionPolicy? annotations fallback = policy ↔
      Decided fallback (levels resource annotations) policy := by
  rw [decided_iff, levels, resolve, BucketResource.deletionPolicy?, List.findSome?_cons]
  cases (resource.annotation? annotation).bind parse? with
  | some own => rfl
  | none =>
    rw [List.findSome?_cons]
    cases ((annotations.bind (·.get? namespaceAnnotation)).bind parse?) <;> rfl

end BucketSteward.DeletionPolicy

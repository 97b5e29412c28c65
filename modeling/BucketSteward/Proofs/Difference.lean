import BucketSteward.Delta
import BucketSteward.Keyed
import Mathlib.Tactic.Common

/-! Where two documents differ. Two objects differ where the values under one of their names do, an
absent member counting as `null`; every place found extends the place it was looked for at; and a
document does not differ from itself. -/
namespace BucketSteward.Json

/-! ## Names and members -/

theorem mem_insertName {name other : String} {names : List String} :
    other ∈ insertName name names ↔ other = name ∨ other ∈ names := by
  induction names with
  | nil => simp [insertName]
  | cons n rest ih =>
    simp only [insertName]
    split
    · simp
    · split
      case isTrue same =>
        subst same
        simp
      case isFalse =>
        simp only [List.mem_cons, ih]
        exact or_left_comm

theorem mem_unionNames {name : String} {members others : List (String × Json)} :
    name ∈ unionNames members others ↔ name ∈ members.map (·.1) ∨ name ∈ others.map (·.1) := by
  rw [unionNames, ← List.mem_append]
  induction members.map (·.1) ++ others.map (·.1) with
  | nil => simp
  | cons n rest ih => simp [mem_insertName, ih]

/-- The value under a name is that of a member, or `null` where there is none. -/
theorem memberOf_eq (members : List (String × Json)) (name : String) :
    (∃ member ∈ members, member.1 = name ∧ member.2 = memberOf members name) ∨
      (name ∉ members.map (·.1) ∧ memberOf members name = .null) := by
  induction members with
  | nil => exact .inr ⟨by simp, rfl⟩
  | cons member rest ih =>
    simp only [memberOf, Keyed.lookup_cons_ite] at ih ⊢
    by_cases same : name = member.1
    · rw [if_pos same]
      exact .inl ⟨member, List.mem_cons_self, same.symm, rfl⟩
    · rw [if_neg same]
      rcases ih with ⟨found, inside, named, value⟩ | ⟨absent, value⟩
      · exact .inl ⟨found, List.mem_cons_of_mem _ inside, named, value⟩
      · refine .inr ⟨?_, value⟩
        simpa only [List.map_cons, List.mem_cons, not_or] using ⟨same, absent⟩

theorem memberOf_of_not_mem {members : List (String × Json)} {name : String}
    (absent : name ∉ members.map (·.1)) : memberOf members name = .null := by
  rcases memberOf_eq members name with ⟨member, inside, same, -⟩ | ⟨-, null⟩
  · exact absurd (List.mem_map.mpr ⟨member, inside, same⟩) absent
  · exact null

/-- Proves a property of documents from the values that an object holds. -/
theorem byMembers {motive : Json → Prop} (plain : ∀ document, (∀ members, document ≠ .obj members) →
    motive document) (object : ∀ members : List (String × Json),
    (∀ member ∈ members, motive member.2) → motive (.obj members)) (document : Json) :
    motive document := by
  match document with
  | .obj members =>
    refine object members fun member inside => ?_
    have smaller := List.sizeOf_lt_of_mem inside
    exact byMembers plain object member.2
  | .null | .bool _ | .int _ | .real _ | .str _ | .arr _ => exact plain _ (by simp)
termination_by sizeOf document
decreasing_by
  obtain ⟨name, value⟩ := member
  simp only [Prod.mk.sizeOf_spec, obj.sizeOf_spec] at smaller ⊢
  omega

/-! ## Differences -/

theorem wholeDifference_eq_nil {keys : List String} {desired observed : Json} :
    wholeDifference keys desired observed = [] ↔ desired = observed := by
  simp [wholeDifference]

theorem differences_of_plain {desired : Json} (plain : ∀ members, desired ≠ .obj members)
    (keys : List String) (observed : Json) :
    differences desired keys observed = wholeDifference keys desired observed := by
  cases desired with
  | obj members => exact absurd rfl (plain members)
  | _ => rfl

theorem lookup_memberDifferences (members : List (String × Json)) (name : String) :
    (memberDifferences members).lookup name
      = (members.lookup name).map fun value keys observed => differences value keys observed := by
  induction members with
  | nil => rfl
  | cons member rest ih =>
    obtain ⟨own, value⟩ := member
    simp only [memberDifferences, memberDifference, Keyed.lookup_cons_ite, ih]
    split <;> rfl

theorem differences_obj (members others : List (String × Json)) (keys : List String) :
    differences (.obj members) keys (.obj others)
      = (unionNames members others).flatMap fun name =>
          differences (memberOf members name) (keys ++ [name]) (memberOf others name) := by
  rw [differences]
  congr 1
  funext name
  rw [lookup_memberDifferences]
  cases found : members.lookup name with
  | none => simp [memberOf, found, differences_of_plain]
  | some value => simp [memberOf, found]

/-- Proves a property of two documents along their comparison: it holds of two that are compared as a
whole, and of two objects when it holds of their values under every name. -/
theorem byComparison {motive : Json → Json → Prop}
    (whole : ∀ desired observed, (∀ keys, desired.differences keys observed
      = wholeDifference keys desired observed) → motive desired observed)
    (objects : ∀ members others, (∀ name, motive (memberOf members name) (memberOf others name)) →
      motive (.obj members) (.obj others)) (desired observed : Json) : motive desired observed := by
  induction desired using byMembers generalizing observed with
  | plain document plain => exact whole _ _ fun keys => differences_of_plain plain keys _
  | object members ih =>
    cases observed with
    | obj others =>
      refine objects members others fun name => ?_
      rcases memberOf_eq members name with ⟨member, inside, -, value⟩ | ⟨-, value⟩
      · rw [← value]
        exact ih member inside _
      · rw [value]
        exact whole _ _ fun keys => differences_of_plain (by simp) keys _
    | _ => exact whole _ _ fun keys => rfl

theorem differences_self (document : Json) : ∀ keys, document.differences keys document = [] := by
  induction document using byMembers with
  | plain document plain =>
    intro keys
    rw [differences_of_plain plain, wholeDifference_eq_nil]
  | object members ih =>
    intro keys
    rw [differences_obj, List.flatMap_eq_nil_iff]
    intro name _
    rcases memberOf_eq members name with ⟨member, inside, -, value⟩ | ⟨-, value⟩
    · rw [← value]
      exact ih member inside _
    · rw [value, differences_of_plain (by simp), wholeDifference_eq_nil]

theorem mem_wholeDifference {keys : List String} {desired observed : Json} {difference : Difference} :
    difference ∈ wholeDifference keys desired observed ↔
      desired ≠ observed ∧ difference = ⟨keys, desired, observed⟩ := by
  unfold wholeDifference
  split
  case isTrue same => simp [same]
  case isFalse apart => simp [apart]

/-- A difference is found at the place looked at or below it. -/
theorem keys_prefix_of_mem_differences (desired : Json) :
    ∀ {keys : List String} {observed : Json} {difference : Difference},
      difference ∈ desired.differences keys observed → keys <+: difference.keys := by
  intro keys observed
  induction desired, observed using byComparison generalizing keys with
  | whole desired observed compared =>
    intro difference found
    rw [compared, mem_wholeDifference] at found
    obtain ⟨-, rfl⟩ := found
    exact List.prefix_rfl
  | objects members others ih =>
    intro difference found
    rw [differences_obj, List.mem_flatMap] at found
    obtain ⟨name, -, found⟩ := found
    exact (List.prefix_append keys [name]).trans (ih name found)

end BucketSteward.Json

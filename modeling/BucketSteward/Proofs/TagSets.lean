import BucketSteward.Normalization
import BucketSteward.Store
import Mathlib.Data.List.Sort

/-! Tag sets. Putting tags in the order of their keys is a stable sort: the tags stay the same, they
come out sorted, and sorting them again changes nothing. Setting tags over others replaces those
with the same keys, so that tags with different keys, set after every other key was removed, are
all that is left. -/
namespace BucketSteward.Tag

/-! ## The order of keys -/

/-- A tag does not have to move before another one. -/
def Stays (a b : Tag) : Prop := b.comesBefore a = false

instance : DecidableRel Stays := fun a b => inferInstanceAs (Decidable (b.comesBefore a = false))

instance : Std.Total Stays where
  total a b := by
    unfold Stays comesBefore
    cases a.key with
    | none => cases b.key <;> simp
    | some k =>
      cases b.key with
      | none => simp
      | some l =>
        by_cases before : l < k
        · exact .inr (by simpa using String.lt_asymm before)
        · exact .inl (by simpa using before)

theorem stays_iff {a b : Tag} : Stays a b ↔ ∀ k, a.key = some k → ∃ l, b.key = some l ∧ k ≤ l := by
  unfold Stays comesBefore
  cases a.key with
  | none => cases b.key <;> simp
  | some k =>
    cases b.key with
    | none => simp
    | some l =>
      rw [decide_eq_false_iff_not, String.not_lt]
      constructor
      · rintro le _ ⟨⟩
        exact ⟨l, rfl, le⟩
      · intro reached
        obtain ⟨_, ⟨⟩, le⟩ := reached k rfl
        exact le

instance : IsTrans Tag Stays where
  trans a b c := by
    simp only [stays_iff]
    intro first second k key
    obtain ⟨l, next, le⟩ := first k key
    obtain ⟨m, last, also⟩ := second l next
    exact ⟨m, last, String.le_trans le also⟩

theorem inOrder_eq (tags : List Tag) : inOrder tags = tags.insertionSort Stays := by
  have insertion (tag : Tag) (rest : List Tag) :
      insertInOrder tag rest = rest.orderedInsert Stays tag := by
    induction rest with
    | nil => rfl
    | cons t rest ih =>
      simp only [insertInOrder, List.orderedInsert, Stays]
      by_cases before : t.comesBefore tag = true
      · simp [before, ih]
      · simp [before]
  induction tags with
  | nil => rfl
  | cons tag rest ih =>
    rw [List.insertionSort_cons, ← ih, ← insertion]
    rfl

theorem inOrder_perm (tags : List Tag) : (inOrder tags).Perm tags := by
  rw [inOrder_eq]
  exact List.perm_insertionSort Stays tags

theorem inOrder_sorted (tags : List Tag) : (inOrder tags).Pairwise Stays := by
  rw [inOrder_eq]
  exact List.pairwise_insertionSort Stays tags

/-- Sorting a second time changes nothing. -/
theorem inOrder_inOrder (tags : List Tag) : inOrder (inOrder tags) = inOrder tags := by
  rw [inOrder_eq (inOrder tags)]
  exact (inOrder_sorted tags).insertionSort_eq

/-- The tags of a list in the order of their keys, an absent key before every other; tags with one key
keep their order. -/
structure SortedInto (tags sorted : List Tag) : Prop where
  ascending : sorted.Pairwise fun a b => ∀ k, a.key = some k → ∃ l, b.key = some l ∧ k ≤ l
  kept : ∀ key : Option String, sorted.filter (·.key = key) = tags.filter (·.key = key)

theorem key_ne_of_comesBefore {a b : Tag} (before : a.comesBefore b = true) : a.key ≠ b.key := by
  intro same
  unfold comesBefore at before
  rw [same] at before
  cases key : b.key <;> simp [key] at before

/-- A tag only moves past tags with other keys. -/
theorem filter_insertInOrder (tag : Tag) (tags : List Tag) (key : Option String) :
    (insertInOrder tag tags).filter (·.key = key) = (tag :: tags).filter (·.key = key) := by
  induction tags with
  | nil => rfl
  | cons t rest ih =>
    simp only [insertInOrder]
    split
    case isFalse => rfl
    case isTrue before =>
      have apart := key_ne_of_comesBefore before
      by_cases own : tag.key = key
      · have other : t.key ≠ key := fun same => apart (same.trans own.symm)
        simpa [own, other] using ih
      · by_cases first : t.key = key <;> simpa [own, first] using ih

theorem inOrder_sortedInto (tags : List Tag) : SortedInto tags (inOrder tags) := by
  refine ⟨(inOrder_sorted tags).imp stays_iff.mp, fun key => ?_⟩
  induction tags with
  | nil => rfl
  | cons tag rest ih =>
    have moved := filter_insertInOrder tag (inOrder rest) key
    calc (inOrder (tag :: rest)).filter (·.key = key)
        = (tag :: inOrder rest).filter (·.key = key) := moved
      _ = (tag :: rest).filter (·.key = key) := by rw [List.filter_cons, List.filter_cons, ih]

/-- Tags that do not have to move before each other have one key. -/
theorem key_eq_of_stays {a b : Tag} (first : Stays a b) (second : Stays b a) : a.key = b.key := by
  unfold Stays comesBefore at first second
  cases isKey : a.key with
  | none => cases other : b.key <;> simp_all
  | some k =>
    cases other : b.key with
    | none => simp_all
    | some l =>
      simp only [isKey, other, decide_eq_false_iff_not, String.not_lt] at first second
      rw [String.le_antisymm first second]

/-- The order in which tags with different keys are written does not matter. -/
theorem inOrder_of_perm {tags others : List Tag} (distinct : (tags.map (·.key)).Nodup)
    (rearranged : tags.Perm others) : inOrder tags = inOrder others := by
  have perm : (inOrder tags).Perm (inOrder others) :=
    (inOrder_perm tags).trans (rearranged.trans (inOrder_perm others).symm)
  refine List.Perm.eq_of_pairwise (fun a b left right first second => ?_) (inOrder_sorted tags)
    (inOrder_sorted others) perm
  have inside := (inOrder_perm tags).mem_iff.mp left
  have among := rearranged.mem_iff.mpr ((inOrder_perm others).mem_iff.mp right)
  exact List.inj_on_of_nodup_map distinct inside among (key_eq_of_stays first second)

theorem inOrder_eq_nil {tags : List Tag} : inOrder tags = [] ↔ tags = [] := by
  constructor
  · intro empty
    exact List.nil_perm.mp (empty ▸ inOrder_perm tags)
  · rintro rfl
    rfl

end BucketSteward.Tag

namespace BucketSteward

theorem Tagging.inOrder_inOrder (tagging : Tagging) : tagging.inOrder.inOrder = tagging.inOrder := by
  simp [Tagging.inOrder, Tag.inOrder_inOrder, Function.comp_def]

/-! ## Setting and removing tags -/

namespace Store

/-- Tags with different keys, set over others, replace those with the same keys and follow the
rest. -/
theorem foldl_setTag {tags : List Tag} (distinct : (tags.map (·.key)).Nodup) (current : List Tag) :
    tags.foldl setTag current = current.filter (fun t => t.key ∉ tags.map (·.key)) ++ tags := by
  induction tags generalizing current with
  | nil => simp
  | cons tag rest ih =>
    obtain ⟨fresh, distinct⟩ := List.nodup_cons.mp distinct
    rw [List.foldl_cons, ih distinct, setTag, List.filter_append, List.filter_filter]
    have stays : [tag].filter (fun t => t.key ∉ rest.map (·.key)) = [tag] := by simpa using fresh
    rw [stays, List.append_assoc, List.singleton_append]
    congr 2
    funext t
    by_cases same : t.key = tag.key <;> simp [same]

/-- Once every other key was removed, setting tags with different keys leaves just these. -/
theorem foldl_setTag_removeKeys {tags current : List Tag} (distinct : (tags.map (·.key)).Nodup)
    (keyed : ∀ t ∈ current, t.key ≠ none) {keys : List String}
    (others : ∀ key, key ∈ keys ↔ some key ∈ current.map (·.key) ∧ some key ∉ tags.map (·.key)) :
    tags.foldl setTag (removeKeys current keys) = tags := by
  rw [foldl_setTag distinct]
  have nothing : (removeKeys current keys).filter (fun t => t.key ∉ tags.map (·.key)) = [] := by
    rw [List.filter_eq_nil_iff]
    intro t among
    obtain ⟨inside, left⟩ := List.mem_filter.mp among
    obtain ⟨key, has⟩ := Option.ne_none_iff_exists'.mp (keyed t inside)
    have wanted : some key ∈ tags.map (·.key) := by
      by_contra unwanted
      have removed := (others key).mpr ⟨List.mem_map.mpr ⟨t, inside, has⟩, unwanted⟩
      simp [has, removed] at left
    simp only [has, decide_eq_true_eq, not_not]
    exact wanted
  rw [nothing, List.nil_append]

/-- Removing every key leaves nothing, if every tag has one. -/
theorem removeKeys_all {current : List Tag} (keyed : ∀ t ∈ current, t.key ≠ none) :
    removeKeys current (current.filterMap (·.key)) = [] := by
  rw [removeKeys, List.filter_eq_nil_iff]
  intro t inside
  obtain ⟨key, has⟩ := Option.ne_none_iff_exists'.mp (keyed t inside)
  have listed : key ∈ current.filterMap (·.key) := List.mem_filterMap.mpr ⟨t, inside, has⟩
  simp [has, listed]

end Store

end BucketSteward

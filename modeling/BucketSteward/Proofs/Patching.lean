import BucketSteward.Proofs.PlainNames

/-! The differences of two documents as a patch of the observed one. They come in the order of the names
that lead to them, none lies at or below another, and each holds what the two documents have at its place;
so putting in every place what is desired there touches no place twice, and what it makes of the observed
document is the desired one, an absent member counting as `null`. -/
namespace BucketSteward

namespace Json

/-! ## Places in a document -/

/-- The value that names lead to; there is `null` where a member is absent. -/
def valueAt (document : Json) : List String → Json
  | [] => document
  | name :: keys => (document.member name).valueAt keys

/-- The members with another value under a name. -/
def setMember (name : String) (value : Json) : List (String × Json) → List (String × Json)
  | [] => [(name, value)]
  | m :: rest => if name = m.1 then (name, value) :: rest else m :: setMember name value rest

/-- The document with another value at the place that names lead to. -/
def replaceAt : Json → List String → Json → Json
  | _, [], value => value
  | .obj members, name :: keys, value =>
      .obj (setMember name ((memberOf members name).replaceAt keys value) members)
  | _, name :: keys, value => .obj [(name, replaceAt .null keys value)]
termination_by structural _ keys => keys

/-- The document with the desired value at the place of every difference, one after the other. -/
def patched (document : Json) (differences : List Difference) : Json :=
  differences.foldl (fun document d => document.replaceAt d.keys d.desired) document

/-- Documents that are equal when an absent member counts as `null`: they are the same, or objects that
have such documents under every name. -/
inductive Agrees : Json → Json → Prop where
  | same (document : Json) : Agrees document document
  | under {members others : List (String × Json)}
      (values : ∀ name, Agrees (memberOf members name) (memberOf others name)) :
      Agrees (.obj members) (.obj others)

theorem memberOf_setMember (name other : String) (value : Json) (members : List (String × Json)) :
    memberOf (setMember name value members) other
      = if other = name then value else memberOf members other := by
  induction members with
  | nil =>
    simp only [setMember, memberOf, Keyed.lookup_cons_ite, List.lookup_nil]
    split <;> rfl
  | cons member rest ih =>
    simp only [memberOf] at ih
    simp only [setMember]
    split
    case isTrue own =>
      simp only [memberOf, Keyed.lookup_cons_ite, ← own]
      split <;> rfl
    case isFalse apart =>
      simp only [memberOf, Keyed.lookup_cons_ite]
      by_cases first : other = member.1
      · have elsewhere : other ≠ name := fun same => apart (same ▸ first)
        rw [if_pos first, if_neg elsewhere, if_pos first]
      · rw [if_neg first, if_neg first]
        exact ih

/-! ## Names in order -/

theorem insertName_ascending (name : String) {names : List String} (ascending : names.Pairwise (· < ·)) :
    (insertName name names).Pairwise (· < ·) := by
  induction names with
  | nil => exact List.pairwise_singleton _ _
  | cons n rest ih =>
    obtain ⟨first, ascending'⟩ := List.pairwise_cons.mp ascending
    simp only [insertName]
    split
    case isTrue before =>
      refine List.pairwise_cons.mpr ⟨fun other among => ?_, ascending⟩
      rcases List.mem_cons.mp among with rfl | later
      · exact before
      · exact String.lt_trans before (first other later)
    case isFalse notBefore =>
      split
      case isTrue => exact ascending
      case isFalse apart =>
        refine List.pairwise_cons.mpr ⟨fun other among => ?_, ih ascending'⟩
        rcases mem_insertName.mp among with rfl | later
        · rcases Std.lt_trichotomy n other with after | same | before
          · exact after
          · exact absurd same.symm apart
          · exact absurd before notBefore
        · exact first other later

theorem unionNames_ascending (members others : List (String × Json)) :
    (unionNames members others).Pairwise (· < ·) := by
  rw [unionNames]
  induction members.map (·.1) ++ others.map (·.1) with
  | nil => exact .nil
  | cons name rest ih => exact insertName_ascending name ih

/-- Of two ways, the first goes on with a smaller name where they part. -/
inductive PartsBefore : List String → List String → Prop where
  | here {a b : String} {rest others : List String} (before : a < b) :
      PartsBefore (a :: rest) (b :: others)
  | later {name : String} {rest others : List String} (after : PartsBefore rest others) :
      PartsBefore (name :: rest) (name :: others)

namespace PartsBefore

variable {keys others : List String}

theorem lt (parts : PartsBefore keys others) : keys < others := by
  induction parts with
  | here before => exact List.cons_lt_cons_iff.mpr (.inl before)
  | later _ ih => exact List.cons_lt_cons_iff.mpr (.inr ⟨rfl, ih⟩)

/-- Ways that part are no parts of each other. -/
theorem not_prefix (parts : PartsBefore keys others) : ¬ keys <+: others ∧ ¬ others <+: keys := by
  induction parts with
  | @here a b rest others before =>
    simp only [List.cons_prefix_cons, not_and]
    exact ⟨fun same => absurd (same ▸ before) (String.lt_irrefl _),
      fun same => absurd (same ▸ before) (String.lt_irrefl _)⟩
  | later _ ih => simpa only [List.cons_prefix_cons, true_and] using ih

end PartsBefore

/-! ## Differences below a name -/

/-- A difference of the values under a name, as one of the objects that hold them. -/
def underName (name : String) (difference : Difference) : Difference :=
  { difference with keys := name :: difference.keys }

/-- Where a comparison begins only leads to what it finds. -/
theorem differences_from (desired observed : Json) (keys : List String) :
    desired.differences keys observed
      = (desired.differences [] observed).map fun d => { d with keys := keys ++ d.keys } := by
  induction desired, observed using byComparison generalizing keys with
  | whole desired observed compared =>
    rw [compared, compared]
    unfold wholeDifference
    split <;> simp
  | objects members others ih =>
    rw [differences_obj, differences_obj, List.map_flatMap]
    congr 1
    funext name
    rw [ih name, ih name ([] ++ [name]), List.map_map]
    simp [Function.comp_def]

/-- Two objects differ below every name of one of them where the values under the name do. -/
theorem differences_below (members others : List (String × Json)) :
    (Json.obj members).differences [] (.obj others)
      = (unionNames members others).flatMap fun name =>
          ((memberOf members name).differences [] (memberOf others name)).map (underName name) := by
  rw [differences_obj]
  congr 1
  funext name
  rw [differences_from]
  rfl

/-- The differences come in order, and their ways part. -/
theorem differences_part (desired observed : Json) :
    (desired.differences [] observed).Pairwise fun a b => PartsBefore a.keys b.keys := by
  induction desired, observed using byComparison with
  | whole desired observed compared =>
    rw [compared, wholeDifference]
    split
    · exact .nil
    · exact List.pairwise_singleton _ _
  | objects members others ih =>
    rw [differences_below, List.pairwise_flatMap]
    constructor
    · intro name _
      rw [List.pairwise_map]
      exact (ih name).imp .later
    · refine (unionNames_ascending members others).imp fun {a b} before x inA y inB => ?_
      obtain ⟨d, -, rfl⟩ := List.mem_map.mp inA
      obtain ⟨e, -, rfl⟩ := List.mem_map.mp inB
      exact .here before

/-- A difference holds what the two documents have at its place, which are two values. -/
theorem values_of_mem_differences {desired observed : Json} {difference : Difference}
    (found : difference ∈ desired.differences [] observed) :
    difference.desired = desired.valueAt difference.keys ∧
      difference.observed = observed.valueAt difference.keys ∧
      difference.desired ≠ difference.observed := by
  induction desired, observed using byComparison generalizing difference with
  | whole desired observed compared =>
    rw [compared, mem_wholeDifference] at found
    obtain ⟨apart, rfl⟩ := found
    exact ⟨rfl, rfl, apart⟩
  | objects members others ih =>
    rw [differences_below, List.mem_flatMap] at found
    obtain ⟨name, -, found⟩ := found
    obtain ⟨d, inside, rfl⟩ := List.mem_map.mp found
    exact ih name inside

/-! ## Patching -/

/-- A patch below a name changes the value under that name alone. -/
theorem patched_below (name : String) (differences : List Difference)
    (members : List (String × Json)) :
    ∃ after, (Json.obj members).patched (differences.map (underName name)) = .obj after ∧
      ∀ other, memberOf after other =
        if other = name then (memberOf members name).patched differences
        else memberOf members other := by
  induction differences generalizing members with
  | nil =>
    refine ⟨members, rfl, fun other => ?_⟩
    split
    case isTrue same => rw [same]; rfl
    case isFalse => rfl
  | cons d rest ih =>
    obtain ⟨after, done, values⟩ := ih
      (setMember name ((memberOf members name).replaceAt d.keys d.desired) members)
    refine ⟨after, done, fun other => ?_⟩
    rw [values, memberOf_setMember, memberOf_setMember, if_pos rfl]
    split <;> rfl

/-- Patches below different names change the value under each of them on its own. -/
theorem patched_flatMap {names : List String} (distinct : names.Nodup)
    (differences : String → List Difference) (members : List (String × Json)) :
    ∃ after, (Json.obj members).patched
        (names.flatMap fun name => (differences name).map (underName name)) = .obj after ∧
      ∀ other, memberOf after other =
        if other ∈ names then (memberOf members other).patched (differences other)
        else memberOf members other := by
  induction names generalizing members with
  | nil => exact ⟨members, rfl, fun other => by simp⟩
  | cons name rest ih =>
    obtain ⟨fresh, distinct⟩ := List.nodup_cons.mp distinct
    obtain ⟨middle, first, own⟩ := patched_below name (differences name) members
    obtain ⟨after, later, others⟩ := ih distinct middle
    refine ⟨after, ?_, fun other => ?_⟩
    · rw [List.flatMap_cons, patched, List.foldl_append]
      rw [patched] at first later
      rw [first, later]
    · rw [others, own]
      by_cases same : other = name
      · rw [if_neg (same ▸ fresh), if_pos same, if_pos (same ▸ List.mem_cons_self), same]
      · simp only [same, if_false, List.mem_cons, false_or]

/-- Putting the desired value in the place of every difference makes the observed document agree with
the desired one. -/
theorem patched_differences (desired observed : Json) :
    (observed.patched (desired.differences [] observed)).Agrees desired := by
  induction desired, observed using byComparison with
  | whole desired observed compared =>
    rw [compared, wholeDifference]
    split
    case isTrue same =>
      subst same
      exact .same desired
    case isFalse => exact .same desired
  | objects members others ih =>
    have distinct : (unionNames members others).Nodup := by
      refine (unionNames_ascending members others).imp fun {a b} before same => ?_
      exact String.lt_irrefl b (same ▸ before)
    obtain ⟨after, done, values⟩ := patched_flatMap distinct
      (fun name => (memberOf members name).differences [] (memberOf others name)) others
    rw [differences_below, done]
    refine .under fun name => ?_
    rw [values]
    split
    case isTrue => exact ih name
    case isFalse absent =>
      -- A name that neither object has stands for `null` in both.
      rw [mem_unionNames, not_or] at absent
      rw [memberOf_of_not_mem absent.1, memberOf_of_not_mem absent.2]
      exact .same .null

end Json

open Json Difference in
/-- **The differences are a complete patch without overlaps.** Of any two specifications, the paths are
pairwise distinct and none leads to another; they come in the order of the names that lead to them; each is
split into these names again, and holds what the two written specifications have at its place, which are
two values; and putting in every place what is desired there makes the observed document agree with the
desired one. -/
theorem Delta.between_is_patch (desired observed : BucketSpec) :
    let delta := Delta.between desired observed
    delta.paths.Nodup ∧
    (delta.differences.Pairwise fun a b =>
      leadsTo a.path b.path = false ∧ leadsTo b.path a.path = false) ∧
    (delta.differences.map (·.keys)).Pairwise (· < ·) ∧
    (∀ d ∈ delta.differences, d.path.toList.splitOn '.' = ("spec" :: d.keys).map String.toList ∧
      d.desired = (write desired).valueAt d.keys ∧ d.observed = (write observed).valueAt d.keys ∧
      d.desired ≠ d.observed) ∧
    ((write observed).patched delta.differences).Agrees (write desired) := by
  intro delta
  have compared : delta.differences = (write desired).differences [] (write observed) := by
    simp only [delta, Delta.between]
  have plain {d : Difference} (found : d ∈ delta.differences) : d.HasPlainKeys :=
    Delta.hasPlainKeys found
  have parts : delta.differences.Pairwise fun a b => PartsBefore a.keys b.keys := by
    rw [compared]
    exact differences_part _ _
  have apart : delta.differences.Pairwise fun a b =>
      leadsTo a.path b.path = false ∧ leadsTo b.path a.path = false := by
    refine parts.imp_of_mem fun {a b} inA inB parted => ?_
    rw [← Bool.not_eq_true, leadsTo_iff_prefix (plain inA) (plain inB),
      ← Bool.not_eq_true, leadsTo_iff_prefix (plain inB) (plain inA)]
    exact parted.not_prefix
  refine ⟨?_, apart, ?_, fun d found => ⟨splitOn_path (plain found), ?_⟩, ?_⟩
  · -- A path leads to itself, so paths that lead nowhere near each other are distinct.
    refine List.pairwise_map.mpr (apart.imp fun {a b} leads same => ?_)
    have itself : leadsTo a.path b.path = true := leadsTo_iff.mpr ⟨[], by simp [same], by simp⟩
    rw [leads.1] at itself
    cases itself
  · exact List.pairwise_map.mpr (parts.imp PartsBefore.lt)
  · rw [compared] at found
    exact values_of_mem_differences found
  · rw [compared]
    exact patched_differences _ _

end BucketSteward

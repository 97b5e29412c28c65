import BucketSteward.Proofs.Delta

/-! Names without a point. The objects that a specification is written as have such names at every depth
that a comparison goes to, so the path of a difference is split into its names again where its points
are, and of two paths one leads to the other exactly when its names begin the other's. -/
namespace BucketSteward
open Form Json

/-! ## Documents -/

namespace Json

/-- No name in an object holds a point, at any depth outside of lists. -/
inductive PlainNames : Json → Prop where
  | obj {members : List (String × Json)} (names : ∀ member ∈ members, '.' ∉ member.1.toList)
      (values : ∀ member ∈ members, PlainNames member.2) : PlainNames (.obj members)
  | plain {document : Json} (plain : ∀ members, document ≠ .obj members) : PlainNames document

namespace PlainNames

variable {members others : List (String × Json)} {document desired observed : Json}

theorem name (named : PlainNames (.obj members)) {member : String × Json} (among : member ∈ members) :
    '.' ∉ member.1.toList := by
  cases named with
  | obj names _ => exact names member among
  | plain plain => exact absurd rfl (plain members)

theorem value (named : PlainNames (.obj members)) {member : String × Json} (among : member ∈ members) :
    PlainNames member.2 := by
  cases named with
  | obj _ values => exact values member among
  | plain plain => exact absurd rfl (plain members)

/-- What is under a name of an object has plain names, also when it is absent. -/
theorem memberOf (named : PlainNames (.obj members)) (name : String) :
    PlainNames (memberOf members name) := by
  rcases memberOf_eq members name with ⟨member, among, -, value⟩ | ⟨-, null⟩
  · rw [← value]
    exact named.value among
  · rw [null]
    exact .plain (by simp)

theorem mem_unionNames (named : PlainNames (.obj members)) (also : PlainNames (.obj others))
    {name : String} (among : name ∈ unionNames members others) : '.' ∉ name.toList := by
  rcases Json.mem_unionNames.mp among with inside | inside <;>
    obtain ⟨member, there, rfl⟩ := List.mem_map.mp inside
  · exact named.name there
  · exact also.name there

/-- The names that lead to a difference are names of the two documents. -/
theorem differences (named : PlainNames desired) (also : PlainNames observed) {keys : List String}
    (plain : ∀ key ∈ keys, '.' ∉ key.toList) {difference : Difference}
    (found : difference ∈ desired.differences keys observed) :
    ∀ key ∈ difference.keys, '.' ∉ key.toList := by
  induction desired, observed using byComparison generalizing keys with
  | whole desired observed compared =>
    rw [compared, mem_wholeDifference] at found
    obtain ⟨-, rfl⟩ := found
    exact plain
  | objects members others ih =>
    rw [differences_obj, List.mem_flatMap] at found
    obtain ⟨name, among, found⟩ := found
    refine ih name (named.memberOf name) (also.memberOf name) (fun key inside => ?_) found
    rcases List.mem_append.mp inside with before | last
    · exact plain key before
    · rw [List.mem_singleton.mp last]
      exact named.mem_unionNames also among

end PlainNames

end Json

/-! ## Written forms -/

/-- A form that writes documents with plain names. -/
class PlainForm (α : Type) [JsonForm α] : Prop where
  plain (value : α) : (write value).PlainNames

instance : PlainForm String := ⟨fun _ => .plain (by simp [write])⟩

instance : PlainForm Bool := ⟨fun _ => .plain (by simp [write])⟩

instance {α : Type} [JsonForm α] : PlainForm (List α) := ⟨fun _ => .plain (by simp [write])⟩

/-- A member whose value is written with plain names. -/
def Form.Field.IsPlain {ρ : Type} (field : Form.Field ρ) : Prop :=
  ∀ r, (field.write r).PlainNames

section Records
variable {ρ β : Type} [JsonForm β] [PlainForm β] (name : String)

@[simp] theorem optional_isPlain (get : ρ → Option β) (set : ρ → Option β → ρ) :
    (Form.optional name get set).IsPlain := by
  intro r
  simp only [Form.optional]
  cases get r with
  | none => exact .plain (by simp)
  | some value => exact PlainForm.plain value

@[simp] theorem required_isPlain (get : ρ → β) (set : ρ → β → ρ) : (required name get set).IsPlain :=
  fun r => PlainForm.plain (get r)

/-- A record is written with plain names when its members have such names and values written so. -/
theorem PlainForm.record {blank : ρ} {fields : List (Form.Field ρ)}
    (names : ∀ field ∈ fields, '.' ∉ field.name.toList := by decide)
    (values : ∀ field ∈ fields, field.IsPlain := by simp) :
    @PlainForm ρ (Form.record blank fields) := by
  let _ := Form.record blank fields
  refine ⟨fun r => .obj (fun member among => ?_) fun member among => ?_⟩ <;>
    obtain ⟨field, inside, rfl⟩ := List.mem_map.mp among
  · exact names field inside
  · exact values field inside r

end Records

instance : PlainForm AccelerateConfiguration := .record
instance : PlainForm RequestPaymentConfiguration := .record
instance : PlainForm VersioningConfiguration := .record
instance : PlainForm LoggingEnabled := .record
instance : PlainForm BucketLoggingStatus := .record
instance : PlainForm EventBridgeConfiguration := .record
instance : PlainForm NotificationConfiguration := .record
instance : PlainForm CorsConfiguration := .record
instance : PlainForm ServerSideEncryptionConfiguration := .record
instance : PlainForm BucketLifecycleConfiguration := .record
instance : PlainForm OwnershipControls := .record
instance : PlainForm PublicAccessBlockConfiguration := .record
instance : PlainForm ReplicationConfiguration := .record
instance : PlainForm Tagging := .record
instance : PlainForm ErrorDocument := .record
instance : PlainForm IndexDocument := .record
instance : PlainForm RedirectAllRequestsTo := .record
instance : PlainForm WebsiteConfiguration := .record
instance : PlainForm BucketInfo := .record
instance : PlainForm LocationInfo := .record
instance : PlainForm CreateBucketConfiguration := .record
instance : PlainForm BucketSpec := .record

/-! ## Paths -/

namespace Difference

/-- The names that lead to a difference hold no point. -/
def HasPlainKeys (difference : Difference) : Prop :=
  ∀ key ∈ difference.keys, '.' ∉ key.toList

variable {a b : Difference}

/-- A path is split into its names where its points are. -/
theorem splitOn_path (plain : a.HasPlainKeys) :
    a.path.toList.splitOn '.' = ("spec" :: a.keys).map String.toList := by
  have point : ".".toList = ['.'] := rfl
  rw [path, String.toList_intercalate, point]
  refine List.splitOn_intercalate '.' (fun part among => ?_) (by simp)
  obtain ⟨key, inside, rfl⟩ := List.mem_map.mp among
  rcases List.mem_cons.mp inside with rfl | inside
  · decide
  · exact plain key inside

/-- The text of a way from `spec` on: a point before each of its names. -/
def stepsText (keys : List String) : List Char :=
  keys.flatMap fun key => '.' :: key.toList

theorem stepsText_cons (key : String) (keys : List String) :
    stepsText (key :: keys) = '.' :: (key.toList ++ stepsText keys) := rfl

theorem path_toList (difference : Difference) :
    difference.path.toList = "spec".toList ++ stepsText difference.keys := by
  have steps (first : String) (keys : List String) :
      (".".intercalate (first :: keys)).toList = first.toList ++ stepsText keys := by
    induction keys generalizing first with
    | nil => simp [stepsText]
    | cons key rest ih =>
      rw [String.intercalate_cons_cons, String.toList_append, String.toList_append, ih]
      simp [stepsText]
  exact steps "spec" difference.keys

/-- Of two ways with plain names, the text of one goes on with a point, or ends, where the text of the
other ends exactly when its names begin the other's. -/
theorem stepsText_extends_iff {keys others : List String} (plain : ∀ key ∈ keys, '.' ∉ key.toList)
    (also : ∀ key ∈ others, '.' ∉ key.toList) :
    (∃ rest : List Char, stepsText others = stepsText keys ++ rest ∧ ∀ c ∈ rest.head?, c = '.') ↔
      keys <+: others := by
  have pointed (keys : List String) (rest : List Char) (point : ∀ c ∈ rest.head?, c = '.') :
      ∀ c ∈ (stepsText keys ++ rest).head?, c = '.' := by
    cases keys with
    | nil => simpa [stepsText] using point
    | cons key keys => simp [stepsText]
  induction keys generalizing others with
  | nil =>
    refine iff_of_true ⟨stepsText others, rfl, ?_⟩ List.nil_prefix
    simpa using pointed others [] (by simp)
  | cons key keys ih =>
    cases others with
    | nil => simp [stepsText]
    | cons other others =>
      have ownPlain := plain key List.mem_cons_self
      have otherPlain := also other List.mem_cons_self
      have later := ih (fun key among => plain key (List.mem_cons_of_mem _ among))
        fun key among => also key (List.mem_cons_of_mem _ among)
      rw [List.cons_prefix_cons]
      refine Iff.trans ?_ (and_congr_right fun _ => later)
      simp only [stepsText_cons, List.cons_append, List.append_assoc, List.cons.injEq, true_and]
      constructor
      · rintro ⟨rest, same, point⟩
        have names : other.toList = key.toList := by
          refine eq_of_append_eq otherPlain ownPlain ?_ (pointed keys rest point) same
          simpa using pointed others [] (by simp)
        rw [names, List.append_cancel_left_eq] at same
        exact ⟨(String.toList_inj.mp names).symm, rest, same, point⟩
      · rintro ⟨rfl, rest, same, point⟩
        exact ⟨rest, by rw [same], point⟩

/-- One path leads to another exactly when its names begin the other's. -/
theorem leadsTo_iff_prefix (plain : a.HasPlainKeys) (also : b.HasPlainKeys) :
    Delta.leadsTo a.path b.path = true ↔ a.keys <+: b.keys := by
  rw [Delta.leadsTo_iff, ← stepsText_extends_iff plain also, path_toList, path_toList]
  simp only [List.append_assoc, List.append_cancel_left_eq]

end Difference

/-- The differences of two specifications have plain names. -/
theorem Delta.hasPlainKeys {desired observed : BucketSpec} {difference : Difference}
    (found : difference ∈ (Delta.between desired observed).differences) : difference.HasPlainKeys := by
  have start : ∀ key ∈ ([] : List String), '.' ∉ key.toList := by simp
  simp only [Delta.between] at found
  exact PlainNames.differences (PlainForm.plain desired) (PlainForm.plain observed) start found

end BucketSteward

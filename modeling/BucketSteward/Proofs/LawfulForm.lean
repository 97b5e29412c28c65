import BucketSteward.Proofs.Difference
import BucketSteward.Proofs.Timestamp

/-! A JSON form is lawful when it loses nothing: a value is read back from what it is written as,
is never written as `null`, which would read as an absent member, and has the same written form as
any value that it does not differ from. The form of a record is lawful when the forms of its
members are, so that two values of a lawful form differ somewhere exactly when they are two. -/
namespace BucketSteward
open Form Json

/-- A JSON form that loses nothing. -/
class LawfulForm (α : Type) [JsonForm α] : Prop where
  read?_write (value : α) : read? (write value) = some value
  write_ne_null (value : α) : write value ≠ .null
  /-- Values that differ nowhere are written alike, although an absent member and one that is
  `null` would not differ either. -/
  write_eq_of_differences {a b : α} {keys : List String}
    (same : (write a).differences keys (write b) = []) : write a = write b

namespace LawfulForm

variable {α : Type} [JsonForm α] [LawfulForm α]

theorem write_injective {a b : α} (same : write a = write b) : a = b := by
  have read := read?_write a
  rw [same, read?_write b] at read
  exact (Option.some.inj read).symm

/-- Two values differ somewhere exactly when they are two. -/
theorem differences_eq_nil_iff {a b : α} {keys : List String} :
    (write a).differences keys (write b) = [] ↔ a = b :=
  ⟨fun same => write_injective (write_eq_of_differences same), fun same => same ▸ differences_self _ _⟩

/-- A form whose documents are no objects is lawful when it is read back. -/
theorem of_plain {α : Type} [JsonForm α] (read : ∀ value : α, read? (write value) = some value)
    (present : ∀ value : α, write value ≠ .null)
    (plain : ∀ (value : α) members, write value ≠ .obj members) : LawfulForm α where
  read?_write := read
  write_ne_null := present
  write_eq_of_differences same := by
    rwa [differences_of_plain (plain _), wholeDifference_eq_nil] at same

end LawfulForm

/-! ## Simple values and lists -/

instance : LawfulForm String :=
  .of_plain (fun _ => rfl) (by simp [write]) (by simp [write])

instance : LawfulForm Bool :=
  .of_plain (fun _ => rfl) (by simp [write]) (by simp [write])

instance : LawfulForm Int32 := by
  refine .of_plain (fun value => ?_) (by simp [write]) (by simp [write])
  have lower := value.le_toInt
  have upper := value.toInt_lt
  simp only [read?, write, Int32.ofInt_toInt]
  rw [if_pos (by omega)]

instance : LawfulForm Int64 := by
  refine .of_plain (fun value => ?_) (by simp [write]) (by simp [write])
  have lower := value.le_toInt
  have upper := value.toInt_lt
  simp only [read?, write, Int64.ofInt_toInt]
  rw [if_pos (by omega)]

instance : LawfulForm Timestamp :=
  .of_plain Timestamp.read?_write (by simp [write]) (by simp [write])

instance {α : Type} [JsonForm α] [LawfulForm α] : LawfulForm (List α) := by
  refine .of_plain (fun items => ?_) (by simp [write]) (by simp [write])
  simp only [read?, write]
  induction items with
  | nil => rfl
  | cons item items ih => simp [LawfulForm.read?_write, ih]

/-! ## Records -/

namespace Form.Field

/-- A member that is written alike for two records that do not differ in it. -/
def Faithful {ρ : Type} (field : Form.Field ρ) : Prop :=
  ∀ {a b : ρ} {keys : List String},
    (field.write a).differences keys (field.write b) = [] → field.write a = field.write b

end Form.Field

section Members
variable {ρ β : Type} [JsonForm β] [LawfulForm β] (name : String)

/-- An optional member differs exactly where its values do. -/
theorem differences_optional (get : ρ → Option β) (set : ρ → Option β → ρ) {a b : ρ}
    {keys : List String} :
    ((Form.optional name get set).write a).differences keys ((Form.optional name get set).write b) = []
      ↔ get a = get b := by
  simp only [Form.optional]
  cases get a with
  | none =>
    cases get b with
    | none => simp [differences_of_plain, wholeDifference_eq_nil]
    | some value =>
      simp only [reduceCtorEq, iff_false]
      rw [differences_of_plain (by simp), wholeDifference_eq_nil]
      exact (LawfulForm.write_ne_null value).symm
  | some value =>
    cases get b with
    | none =>
      simp only [reduceCtorEq, iff_false]
      intro same
      have written := LawfulForm.write_ne_null value
      cases shape : write value with
      | obj members =>
        rw [shape, differences, wholeDifference_eq_nil] at same
        · cases same
        · simp
      | _ =>
        rw [shape, differences_of_plain (by simp), wholeDifference_eq_nil] at same
        exact written (shape.trans same)
    | some other => simp [LawfulForm.differences_eq_nil_iff]

@[simp] theorem optional_faithful (get : ρ → Option β) (set : ρ → Option β → ρ) :
    (Form.optional name get set).Faithful := by
  intro a b keys same
  simp only [Form.optional, (differences_optional name get set).mp same]

@[simp] theorem required_faithful (get : ρ → β) (set : ρ → β → ρ) : (required name get set).Faithful :=
  LawfulForm.write_eq_of_differences

/-- An optional member is read as what is kept of its value, also when it is absent. -/
theorem read?_optional_of {ρ β : Type} [JsonForm β] (kept : β → β) (name : String)
    (get : ρ → Option β) (set : ρ → Option β → ρ)
    (read : ∀ value : β, JsonForm.read? (write value) = some (kept value))
    (present : ∀ value : β, write value ≠ .null) (a r : ρ) :
    (Form.optional name get set).read? ((Form.optional name get set).write a) r
      = some (set r ((get a).map kept)) := by
  simp only [Form.optional]
  cases get a with
  | none => rfl
  | some value =>
    have written := present value
    cases shape : write value with
    | null => exact absurd shape written
    | _ => simp [read]

/-- An optional member is read back, also when it is absent. -/
@[simp] theorem read?_optional (get : ρ → Option β) (set : ρ → Option β → ρ) (a r : ρ) :
    (Form.optional name get set).read? ((Form.optional name get set).write a) r = some (set r (get a)) := by
  rw [read?_optional_of id name get set LawfulForm.read?_write LawfulForm.write_ne_null,
    Option.map_id_apply]

@[simp] theorem read?_required (get : ρ → β) (set : ρ → β → ρ) (a r : ρ) :
    (required name get set).read? ((required name get set).write a) r = some (set r (get a)) := by
  simp [required, LawfulForm.read?_write]

end Members

section Records
variable {ρ : Type} {fields : List (Form.Field ρ)}

/-- The members of a written record. -/
def writtenMembers (fields : List (Form.Field ρ)) (r : ρ) : List (String × Json) :=
  fields.map fun field => (field.name, field.write r)

theorem memberOf_writtenMembers {field : Form.Field ρ} (distinct : (fields.map (·.name)).Nodup)
    (member : field ∈ fields) (r : ρ) :
    memberOf (writtenMembers fields r) field.name = field.write r := by
  induction fields with
  | nil => cases member
  | cons own rest ih =>
    obtain ⟨fresh, distinct⟩ := List.nodup_cons.mp distinct
    simp only [memberOf, writtenMembers, List.map_cons, Keyed.lookup_cons_ite] at ih ⊢
    rcases List.mem_cons.mp member with rfl | member
    · rw [if_pos rfl]
      rfl
    · have other : field.name ≠ own.name := fun same =>
        fresh (List.mem_map.mpr ⟨field, member, same⟩)
      rw [if_neg other]
      exact ih distinct member

/-- Reading by name finds every member in its place. -/
theorem readByName?_eq_readInOrder? (members : List (String × Json)) (r blank : ρ)
    (found : ∀ field ∈ fields, memberOf members field.name = field.write r) :
    readByName? members blank fields = readInOrder? blank fields (fields.map (·.write r)) := by
  induction fields generalizing blank with
  | nil => rfl
  | cons field rest ih =>
    simp only [readByName?, List.map_cons, readInOrder?, found field List.mem_cons_self]
    congr 1
    funext next
    exact ih next fun other member => found other (List.mem_cons_of_mem _ member)

/-- A written record is read member by member. -/
theorem readByName?_writtenMembers (distinct : (fields.map (·.name)).Nodup) (r blank : ρ) :
    readByName? (writtenMembers fields r) blank fields
      = readInOrder? blank fields (fields.map (·.write r)) :=
  readByName?_eq_readInOrder? _ r blank fun _ member => memberOf_writtenMembers distinct member r

/-- Two written records differ where one of their members does. -/
theorem differences_record (distinct : (fields.map (·.name)).Nodup) {a b : ρ} {keys : List String} :
    (Json.obj (writtenMembers fields a)).differences keys (.obj (writtenMembers fields b)) = [] ↔
      ∀ field ∈ fields,
        (field.write a).differences (keys ++ [field.name]) (field.write b) = [] := by
  have names (r : ρ) : (writtenMembers fields r).map (·.1) = fields.map (·.name) := by
    simp [writtenMembers]
  rw [differences_obj, List.flatMap_eq_nil_iff]
  simp only [mem_unionNames, names, or_self, List.forall_mem_map]
  refine forall₂_congr fun field member => ?_
  rw [memberOf_writtenMembers distinct member, memberOf_writtenMembers distinct member]

/-- A record's form is lawful when its members have different names, are each written alike where
they do not differ, and are all read back. For a given record all three are settled by evaluation
once the forms of its members are known to be lawful. -/
theorem LawfulForm.record {blank : ρ} (distinct : (fields.map (·.name)).Nodup := by decide)
    (faithful : ∀ field ∈ fields, field.Faithful := by simp)
    (restored : ∀ r, readInOrder? blank fields (fields.map (·.write r)) = some r := by
      simp [Form.readInOrder?]) :
    @LawfulForm ρ (Form.record blank fields) := by
  let _ := Form.record blank fields
  refine ⟨fun r => ?_, fun r => by simp [JsonForm.write], fun {a b keys} same => ?_⟩
  · show readByName? (writtenMembers fields r) blank fields = some r
    rw [readByName?_writtenMembers distinct]
    exact restored r
  · show Json.obj (writtenMembers fields a) = .obj (writtenMembers fields b)
    have alike : ∀ field ∈ fields, field.write a = field.write b := fun field member =>
      faithful field member ((differences_record distinct).mp same field member)
    simp only [writtenMembers, Json.obj.injEq]
    exact List.map_congr_left fun field member => by rw [alike field member]

end Records

end BucketSteward

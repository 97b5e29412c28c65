import BucketSteward.Catalogue
import BucketSteward.Proofs.ConfigurationForms

/-! The written form of a type is what the cluster keeps of a resource. Every type that a bucket's
specification is made of is written without a loss. A status loses the fractions of its times: what
is read back is the status with each time cut to its whole second, and that one stays as it is. -/
namespace BucketSteward
open Form

/-! ## Times of a status -/

namespace Timestamp

/-- A leap second stays one when its fraction is cut off. -/
theorem isLeap_cut (t : Timestamp) : t.cut.isLeap = t.isLeap := by
  by_cases leap : 1000000000 ≤ t.nano
  · simp [isLeap, cut, leap]
  · simp [isLeap, cut, leap, floor]

theorem second_cut (t : Timestamp) : t.cut.second = t.second := by
  unfold cut
  split <;> rfl

theorem nano_cut (t : Timestamp) : t.cut.nano = if 1000000000 ≤ t.nano then 1000000000 else 0 := by
  unfold cut
  split <;> rfl

/-- Cutting leaves no fraction, so there is none to cut off again. -/
@[simp] theorem cut_cut (t : Timestamp) : t.cut.cut = t.cut := by
  have seconds := second_cut t.cut
  have nanos : t.cut.cut.nano = t.cut.nano := by
    rw [nano_cut t.cut, nano_cut t]
    split <;> simp
  cases whole : t.cut.cut
  cases once : t.cut
  simp_all

/-- A time without its fraction is written with whole seconds. -/
theorem write_cut (t : Timestamp) : t.cut.write = t.writeSeconds := by
  have noFraction : t.cut.nano % 1000000000 = 0 := by
    rw [nano_cut]
    split <;> rfl
  simp only [write, writeSeconds, noFraction, writeFraction, ↓reduceIte, List.append_nil, writeWhole,
    second_cut, isLeap_cut]

theorem read?_writeSeconds (t : Timestamp) : read? t.writeSeconds = some t.cut := by
  rw [← write_cut, read?_write]

end Timestamp

/-- The time at its whole second. -/
def ClusterTime.cut (t : ClusterTime) : ClusterTime :=
  ⟨t.instant.cut⟩

/-- The condition as it is kept: with its time at a whole second. -/
def BucketCondition.cut (condition : BucketCondition) : BucketCondition :=
  { condition with lastTransitionTime := condition.lastTransitionTime.map ClusterTime.cut }

/-- The status as it is kept: with every time at a whole second. -/
def BucketStatus.cut (status : BucketStatus) : BucketStatus :=
  { status with conditions := status.conditions.map (·.map BucketCondition.cut) }

theorem ClusterTime.cut_cut (t : ClusterTime) : t.cut.cut = t.cut := by
  simp [cut]

theorem BucketCondition.cut_cut (condition : BucketCondition) :
    condition.cut.cut = condition.cut := by
  simp [cut, Function.comp_def, ClusterTime.cut_cut]

theorem BucketStatus.cut_cut (status : BucketStatus) : status.cut.cut = status.cut := by
  simp [cut, Function.comp_def, BucketCondition.cut_cut]

/-! ## Reading a status back -/

theorem ClusterTime.read?_write (t : ClusterTime) : read? (write t) = some t.cut := by
  simp only [read?, write, Timestamp.read?_writeSeconds, Option.map_some, cut]

theorem BucketCondition.read?_write (condition : BucketCondition) :
    read? (write condition) = some condition.cut := by
  refine (readByName?_writtenMembers (by decide) condition _).trans ?_
  simp [readInOrder?, read?_optional_of ClusterTime.cut _ _ _ ClusterTime.read?_write (fun _ => by simp [write]), cut]

/-- A list is read as what is kept of each of its elements. -/
theorem read?_write_list {α : Type} [JsonForm α] {kept : α → α}
    (read : ∀ value : α, read? (write value) = some (kept value)) (items : List α) :
    read? (write items) = some (items.map kept) := by
  simp only [read?, write]
  induction items with
  | nil => rfl
  | cons item items ih => simp [read, ih]

instance : LawfulForm ResourceMetadata := .record

theorem BucketStatus.read?_write (status : BucketStatus) : read? (write status) = some status.cut := by
  refine (readByName?_writtenMembers (by decide) status _).trans ?_
  simp [readInOrder?, read?_optional_of (List.map _) _ _ _ (read?_write_list BucketCondition.read?_write)
    (fun _ => by simp [write]), cut]

/-! ## All types -/

/-- A form that keeps `kept value` of a value and loses nothing of that. The last rule is about
documents from elsewhere, which need not be written as this form writes. -/
structure Preserves (α : Type) [JsonForm α] (kept : α → α) : Prop where
  read?_write (value : α) : read? (write value) = some (kept value)
  read?_write_again (value : α) : read? (write (kept value)) = some (kept value)
  read?_write_of_read {document : Json} {value : α} :
    read? document = some value → read? (write value) = some (kept value)

theorem Preserves.of {α : Type} [JsonForm α] {kept : α → α}
    (read : ∀ value : α, read? (write value) = some (kept value))
    (again : ∀ value, kept (kept value) = kept value) : Preserves α kept where
  read?_write := read
  read?_write_again value := by rw [read, again]
  read?_write_of_read _ := read _

namespace NamedType
variable (name : String) (α : Type) [JsonForm α] [DecidableEq α] [Inhabited α]

@[simp] theorem name_of : (NamedType.of name α).name = name := rfl

/-- A type whose form is lawful keeps its values whole. -/
@[simp] theorem preserves_of [LawfulForm α] : Preserves (NamedType.of name α).Value id :=
  .of (LawfulForm.read?_write (α := α)) fun _ => rfl

end NamedType

theorem BucketCondition.preserves_cut : Preserves BucketCondition BucketCondition.cut :=
  .of BucketCondition.read?_write BucketCondition.cut_cut

theorem BucketStatus.preserves_cut : Preserves BucketStatus BucketStatus.cut :=
  .of BucketStatus.read?_write BucketStatus.cut_cut

/-- **Writing loses nothing.** Each type that a specification is made of keeps its values whole; a
status and its conditions keep them but for the fractions of their times. -/
theorem forms_lose_nothing :
    (∀ type ∈ catalogue, type.name ≠ "BucketStatus" → type.name ≠ "BucketCondition" →
      Preserves type.Value id) ∧
    Preserves BucketCondition BucketCondition.cut ∧ Preserves BucketStatus BucketStatus.cut := by
  refine ⟨?_, BucketCondition.preserves_cut, BucketStatus.preserves_cut⟩
  -- The two types that are left out are the only ones whose form is not lawful.
  simp [catalogue]

/-- A leap second with a fraction, in a year of five digits, comes back to the nanosecond; in a
status it stays a leap second and loses its fraction. -/
theorem leap_second_of_far_year_kept :
    let leapSecond : Timestamp := ⟨253433923199, 1123456789, by decide, by decide, by decide, by decide⟩
    let whole : Timestamp := ⟨253433923199, 1000000000, by decide, by decide, by decide, by decide⟩
    let expiration : LifecycleExpiration := { date := some leapSecond }
    let status (time : Timestamp) : BucketStatus := {
      conditions := some [{ lastTransitionTime := some ⟨time⟩, status := "True", type := "Ready" }] }
    leapSecond.write = "+10000-12-31T23:59:60.123456789Z" ∧
    NamedType.of "LifecycleExpiration" LifecycleExpiration ∈ catalogue ∧
    read? (write expiration) = some expiration ∧
    read? (write (status leapSecond)) = some (status whole) := by
  intro leapSecond whole expiration status
  have listed : NamedType.of "LifecycleExpiration" LifecycleExpiration ∈ catalogue := by
    simp [catalogue]
  obtain ⟨types, -, ofStatus⟩ := forms_lose_nothing
  refine ⟨by decide +kernel, listed, ?_, ?_⟩
  · exact (types _ listed (by decide) (by decide)).read?_write expiration
  · exact ofStatus.read?_write (status leapSecond)

end BucketSteward

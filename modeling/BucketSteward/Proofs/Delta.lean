import BucketSteward.Proofs.ConfigurationForms

/-! A difference is reported at a part of a specification exactly when the two specifications have
different values there, and none is reported exactly when they are equal. -/
namespace BucketSteward
open Form Json

/-! ## Paths -/

namespace Difference

/-- The path of a place below a member: the member's name, and then nothing or a point. -/
theorem path_of_keys {difference : Difference} {name : String} {rest : List String}
    (keys : difference.keys = name :: rest) :
    ∃ tail : List Char, (∀ c ∈ tail.head?, c = '.') ∧
      difference.path.toList = "spec.".toList ++ (name.toList ++ tail) := by
  rw [path, keys]
  cases rest with
  | nil => exact ⟨[], by simp, by simp⟩
  | cons key rest =>
    refine ⟨'.' :: (".".intercalate (key :: rest)).toList, by simp, ?_⟩
    simp [String.toList_append]

end Difference

/-- Of two names without a point, the texts that begin with them agree up to a point only when the
names do. -/
theorem eq_of_append_eq {name part tail rest : List Char} (plainName : '.' ∉ name)
    (plainPart : '.' ∉ part) (tails : ∀ c ∈ tail.head?, c = '.') (rests : ∀ c ∈ rest.head?, c = '.')
    (same : name ++ tail = part ++ rest) : name = part := by
  rcases List.append_eq_append_iff.mp same with ⟨more, longer, left⟩ | ⟨more, longer, left⟩
  · cases more with
    | nil => simpa using longer.symm
    | cons c more =>
      have point : c = '.' := tails c (by simp [left])
      exact absurd (by simp [longer, point]) plainPart
  · cases more with
    | nil => simpa using longer
    | cons c more =>
      have point : c = '.' := rests c (by simp [left])
      exact absurd (by simp [longer, point]) plainName

namespace Delta

theorem leadsTo_iff {path place : String} :
    leadsTo path place = true ↔
      ∃ rest : List Char, place.toList = path.toList ++ rest ∧ ∀ c ∈ rest.head?, c = '.' := by
  unfold leadsTo
  cases found : Text.afterPrefix? path.toList place.toList with
  | none =>
    simp only [Bool.false_eq_true, false_iff, not_exists, not_and]
    intro rest begins
    rw [Text.afterPrefix?_eq_some_iff.mpr begins] at found
    cases found
  | some rest =>
    have begins := Text.afterPrefix?_eq_some_iff.mp found
    have only {other : List Char} (same : place.toList = path.toList ++ other) : other = rest :=
      (List.append_cancel_left (begins.symm.trans same)).symm
    cases rest with
    | nil => exact ⟨fun _ => ⟨[], by simpa using begins, by simp⟩, fun _ => rfl⟩
    | cons c rest =>
      simp only [beq_iff_eq]
      constructor
      · rintro rfl
        exact ⟨_, begins, by simp⟩
      · rintro ⟨other, same, point⟩
        exact point c (by simp [only same])

/-- The place of a difference lies at or below the member that it was found under. -/
theorem leadsTo_path_iff {difference : Difference} {name part : String} {rest : List String}
    (keys : difference.keys = name :: rest) (plainName : '.' ∉ name.toList)
    (plainPart : '.' ∉ part.toList) :
    leadsTo ("spec." ++ part) difference.path = true ↔ name = part := by
  obtain ⟨tail, tails, path⟩ := Difference.path_of_keys keys
  rw [leadsTo_iff, path, String.toList_append]
  simp only [List.append_assoc, List.append_cancel_left_eq]
  constructor
  · rintro ⟨rest, same, rests⟩
    exact String.toList_inj.mp (eq_of_append_eq plainName plainPart tails rests same)
  · rintro rfl
    exact ⟨tail, rfl, tails⟩

variable {a b : BucketSpec}

/-- The members of a written specification have names without a point. -/
theorem write_spec (spec : BucketSpec) :
    ∃ members, write spec = .obj members ∧ ∀ name ∈ members.map (·.1), '.' ∉ name.toList := by
  refine ⟨_, rfl, ?_⟩
  simp only [List.map_cons, List.map_nil, Form.optional, required]
  decide

/-- A part differs exactly when the members written under its name do. -/
theorem touches_iff_member {part : String} (plain : '.' ∉ part.toList) :
    (between a b).touches part = true ↔
      ((write a).member part).differences [part] ((write b).member part) ≠ [] := by
  obtain ⟨members, left, plainLeft⟩ := write_spec a
  obtain ⟨others, right, plainRight⟩ := write_spec b
  have named {name : String} (among : name ∈ unionNames members others) : '.' ∉ name.toList :=
    (mem_unionNames.mp among).elim (plainLeft name) (plainRight name)
  simp only [touches, differsAt, paths, between, left, right, differences_obj, List.nil_append,
    member, List.any_map, List.any_eq_true, List.mem_flatMap, Function.comp_apply]
  constructor
  · rintro ⟨difference, ⟨name, among, found⟩, leads⟩
    obtain ⟨rest, keys⟩ := keys_prefix_of_mem_differences _ found
    have same := (leadsTo_path_iff keys.symm (named among) plain).mp leads
    subst same
    exact List.ne_nil_of_mem found
  · intro differs
    obtain ⟨difference, found⟩ := List.exists_mem_of_ne_nil _ differs
    obtain ⟨rest, keys⟩ := keys_prefix_of_mem_differences _ found
    refine ⟨difference, ⟨part, ?_, found⟩, (leadsTo_path_iff keys.symm plain plain).mpr rfl⟩
    rw [mem_unionNames]
    by_contra absent
    rw [not_or] at absent
    rw [memberOf_of_not_mem absent.1, memberOf_of_not_mem absent.2] at differs
    exact differs (differences_self _ _)

/-- An optional member is reported exactly when its values are two. -/
theorem touches_optional {β : Type} [JsonForm β] [LawfulForm β] (part : String)
    (get : BucketSpec → Option β) (plain : '.' ∉ part.toList)
    (found : ∀ spec, (write spec).member part = (Form.optional part get fun spec _ => spec).write spec) :
    (between a b).touches part = true ↔ get a ≠ get b := by
  rw [touches_iff_member plain, found, found, ne_eq, differences_optional]

theorem touches_setting (setting : Setting) :
    (between a b).touches setting.member = true ↔ a.setting setting ≠ b.setting setting := by
  cases setting with
  | accelerate => exact touches_optional _ BucketSpec.accelerate (by decide) fun _ => rfl
  | logging => exact touches_optional _ BucketSpec.logging (by decide) fun _ => rfl
  | notification => exact touches_optional _ BucketSpec.notification (by decide) fun _ => rfl
  | requestPayment => exact touches_optional _ BucketSpec.requestPayment (by decide) fun _ => rfl
  | versioning => exact touches_optional _ BucketSpec.versioning (by decide) fun _ => rfl

theorem touches_document (document : Document) :
    (between a b).touches document.member = true ↔ a.document document ≠ b.document document := by
  cases document with
  | cors => exact touches_optional _ BucketSpec.cors (by decide) fun _ => rfl
  | encryption => exact touches_optional _ BucketSpec.encryption (by decide) fun _ => rfl
  | lifecycle => exact touches_optional _ BucketSpec.lifecycle (by decide) fun _ => rfl
  | ownershipControls => exact touches_optional _ BucketSpec.ownershipControls (by decide) fun _ => rfl
  | publicAccessBlock => exact touches_optional _ BucketSpec.publicAccessBlock (by decide) fun _ => rfl
  | replication => exact touches_optional _ BucketSpec.replication (by decide) fun _ => rfl
  | tagging => exact touches_optional _ BucketSpec.tagging (by decide) fun _ => rfl
  | website => exact touches_optional _ BucketSpec.website (by decide) fun _ => rfl

theorem touches_collection (collection : Collection) :
    (between a b).touches collection.member = true ↔
      a.collection collection ≠ b.collection collection := by
  cases collection with
  | analytics => exact touches_optional _ BucketSpec.analytics (by decide) fun _ => rfl
  | intelligentTiering =>
    exact touches_optional _ BucketSpec.intelligentTiering (by decide) fun _ => rfl
  | inventory => exact touches_optional _ BucketSpec.inventory (by decide) fun _ => rfl
  | metrics => exact touches_optional _ BucketSpec.metrics (by decide) fun _ => rfl

/-- The texts of the ACL are reported one by one. -/
theorem touches_aclTexts :
    ((between a b).touches "acl" = true ↔ a.acl ≠ b.acl) ∧
    ((between a b).touches "grantFullControl" = true ↔ a.grantFullControl ≠ b.grantFullControl) ∧
    ((between a b).touches "grantRead" = true ↔ a.grantRead ≠ b.grantRead) ∧
    ((between a b).touches "grantReadACP" = true ↔ a.grantReadAcp ≠ b.grantReadAcp) ∧
    ((between a b).touches "grantWrite" = true ↔ a.grantWrite ≠ b.grantWrite) ∧
    ((between a b).touches "grantWriteACP" = true ↔ a.grantWriteAcp ≠ b.grantWriteAcp) :=
  ⟨touches_optional _ BucketSpec.acl (by decide) fun _ => rfl,
    touches_optional _ BucketSpec.grantFullControl (by decide) fun _ => rfl,
    touches_optional _ BucketSpec.grantRead (by decide) fun _ => rfl,
    touches_optional _ BucketSpec.grantReadAcp (by decide) fun _ => rfl,
    touches_optional _ BucketSpec.grantWrite (by decide) fun _ => rfl,
    touches_optional _ BucketSpec.grantWriteAcp (by decide) fun _ => rfl⟩

/-- Nothing differs exactly between equal specifications. -/
theorem isEmpty_between : (between a b).isEmpty = true ↔ a = b := by
  simp only [isEmpty, between, List.isEmpty_iff]
  exact LawfulForm.differences_eq_nil_iff

end Delta

end BucketSteward

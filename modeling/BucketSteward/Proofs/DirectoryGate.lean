import BucketSteward.Proofs.Scope

/-! The gate before directory buckets. A specification that asks one for what it can not carry is refused
before the first call, and the refusal names every such member; so is one whose bucket has no account to
be addressed with. No call of a pass that is let through is one that directory buckets do not know, and no
pass over any other bucket makes a call that is meant for them. -/
namespace BucketSteward

open Program Form

/-! ## What a specification states -/

theorem isDirectoryName_iff {name : String} :
    isDirectoryName name = true ↔ ∃ stem, name = stem ++ "--x-s3" := by
  rw [isDirectoryName, Text.hasSuffix_iff]
  constructor
  · rintro ⟨stem, same⟩
    refine ⟨String.ofList stem, String.toList_inj.mp ?_⟩
    rw [String.toList_append, String.toList_ofList]
    exact same.symm
  · rintro ⟨stem, rfl⟩
    exact ⟨stem.toList, String.toList_append.symm⟩

namespace BucketSpec

/-- The members that a specification is written as. -/
def written (spec : BucketSpec) : List (String × Json) :=
  match write spec with
  | .obj members => members
  | _ => []

/-- The names of the members that a specification states, in the order in which it is written. -/
def stated (spec : BucketSpec) : List String :=
  (spec.written.filter fun member => !member.2.isNull).map (·.1)

/-- The members that a directory bucket can carry. -/
def directoryMembers : List String :=
  ["name", "createBucketConfiguration", "encryption", "lifecycle", "policy", "tagging"]

/-- An optional member is written as `null` exactly when it is absent. -/
theorem not_isNull_optional {ρ β : Type} [JsonForm β] [LawfulForm β] (name : String)
    (get : ρ → Option β) (set : ρ → Option β → ρ) (r : ρ) :
    (!((Form.optional name get set).write r).isNull) = (get r).isSome := by
  simp only [Form.optional]
  cases get r with
  | none => rfl
  | some value =>
    have present := LawfulForm.write_ne_null value
    simp only
    cases shape : write value with
    | null => exact absurd shape present
    | _ => rfl

/-- The members that a directory bucket can not carry, each with whether it is stated. -/
theorem generalParts_eq (spec : BucketSpec) :
    spec.generalParts = (spec.written.filter fun member => !directoryMembers.contains member.1).map
      fun member => (member.1, !member.2.isNull) := by
  have named {β : Type} [JsonForm β] (name : String) (get : BucketSpec → Option β)
      (set : BucketSpec → Option β → BucketSpec) : (Form.optional name get set).name = name := rfl
  have nameFirst {β : Type} [JsonForm β] (name : String) (get : BucketSpec → β)
      (set : BucketSpec → β → BucketSpec) : (Form.required name get set).name = name := rfl
  simp [written, write, named, nameFirst, directoryMembers, not_isNull_optional, generalParts]

/-- What a directory bucket is refused for is all that is stated beyond what it can carry. -/
theorem unsupported_eq (spec : BucketSpec) :
    spec.unsupported = spec.stated.filter (!directoryMembers.contains ·) := by
  simp only [unsupported, generalParts_eq, stated, List.filter_map, List.map_map, List.filter_filter]
  exact congrArg (List.map Prod.fst) (List.filter_congr fun member _ => Bool.and_comm _ _)

end BucketSpec

/-! ## The calls on either kind of bucket -/

namespace Call

/-- A call that is made for a directory bucket. -/
def FitsDirectory : Call → Prop
  | listDirectoryBuckets | getPolicy _ | deletePolicy _ | listTags _ _ | tag _ _ _ | untag _ _ _ => True
  | createBucket creation => creation.grants = {} ∧ creation.objectLock = none
  | getDocument d _ | putDocument d _ _ | deleteDocument d _ => d = .encryption ∨ d = .lifecycle
  | putPolicy _ _ confirm => confirm = none
  | _ => False

/-- A call that is made for any other bucket. -/
def FitsGeneral : Call → Prop
  | listDirectoryBuckets | listTags _ _ | tag _ _ _ | untag _ _ _ => False
  | putPolicy _ _ confirm => confirm = some false
  | _ => True

/-- A call of a pass over a directory bucket whose specification it can carry. -/
theorem fitsDirectory_of_asks {location : Location} {desired : BucketSpec} {adoption : AdoptionPolicy}
    {call : Call} (asks : desired.Asks location adoption call)
    (directory : isDirectoryName desired.name = true) (bare : desired.unsupported = []) :
    call.FitsDirectory := by
  have unspoken : ∀ part ∈ desired.generalParts, part.2 = false := by
    simpa [BucketSpec.unsupported] using bare
  simp only [BucketSpec.generalParts, List.forall_mem_cons, Option.isSome_eq_false_iff,
    Option.isNone_iff_eq_none] at unspoken
  rcases asks with rfl | ⟨-, rfl⟩ | on
  · simp [listingBeside, directory, FitsDirectory]
  · simp [FitsDirectory, AclGrants.ofNewSpec, nonBlank, unspoken]
  · cases call with
    | getDocument d bucket | putDocument d bucket content | deleteDocument d bucket =>
      exact on.2 directory
    | putPolicy bucket policy confirm => exact on.2.trans (if_pos directory)
    | createBucket _ | deleteBucket _ | listBuckets => exact on.elim
    | getSetting _ _ | putSetting _ _ _ | getObjectLock _ | putObjectLock _ _ | getAcl _ | putAcl _ _
    | listItems _ _ | putItem _ _ _ | deleteItem _ _ _ => simp [IsOn, directory] at on
    | _ => trivial

/-- A call of a pass over any other bucket. -/
theorem fitsGeneral_of_asks {location : Location} {desired : BucketSpec} {adoption : AdoptionPolicy}
    {call : Call} (asks : desired.Asks location adoption call)
    (general : isDirectoryName desired.name = false) : call.FitsGeneral := by
  rcases asks with rfl | ⟨-, rfl⟩ | on
  · simp [listingBeside, general, FitsGeneral]
  · trivial
  · cases call with
    | putPolicy bucket policy confirm => exact on.2.trans (if_neg (by simp [general]))
    | listDirectoryBuckets => exact on
    | listTags _ _ | tag _ _ _ | untag _ _ _ => simp [IsOn, general] at on
    | _ => trivial

end Call

/-! ## The gate -/

namespace Pass

variable {σ : Type} (serve : Service Storage σ) (location : Location) (desired : BucketSpec)
  (adoption : AdoptionPolicy) (state : σ)

/-- A pass that is refused asks nothing and leaves everything as it is. -/
theorem sync_refused {fault : Fault}
    (refused : (do
      desired.validate
      bucketArn desired.name location.region location.account) = .error fault) :
    (sync location desired adoption).run serve state = (.error fault, state) ∧
      (sync location desired adoption).trace serve state = [] := by
  rw [sync_eq, refused]
  exact ⟨rfl, rfl⟩

/-- A specification of a directory bucket is refused, unasked, for exactly the members that such a bucket
can not carry, in their order, and then for want of an account; what is let through makes only calls
that directory buckets know and says nothing on locking oneself out of them. A pass over any other
bucket makes no call that is meant for directory buckets and always says that nobody is to lock itself
out. -/
theorem directory_gate :
    let pass := sync location desired adoption
    let refused := desired.stated.filter (!BucketSpec.directoryMembers.contains ·)
    (∀ stem, desired.name = stem ++ "--x-s3" →
      (refused ≠ [] →
        pass.run serve state = (.error (.invalid ("directory bucket " ++ desired.name
          ++ " does not support the following fields: " ++ ", ".intercalate refused)), state) ∧
        pass.trace serve state = []) ∧
      (refused = [] → location.account = none →
        pass.run serve state = (.error (.missingAccount desired.name), state) ∧
        pass.trace serve state = []) ∧
      (refused = [] → location.account ≠ none →
        pass.Steps serve (fun call _ => call.FitsDirectory) state)) ∧
    ((∀ stem, desired.name ≠ stem ++ "--x-s3") →
      pass.Steps serve (fun call _ => call.FitsGeneral) state) := by
  intro pass refused
  have unsupported : desired.unsupported = refused := desired.unsupported_eq
  have steps : pass.Steps serve (fun call _ => desired.Asks location adoption call) state :=
    (sync_uses location desired adoption).steps serve state
  refine ⟨fun stem named => ?_, fun other => ?_⟩
  · have directory : isDirectoryName desired.name = true := isDirectoryName_iff.mpr ⟨stem, named⟩
    refine ⟨fun asked => ?_, fun bare homeless => ?_, fun bare _ => ?_⟩
    · refine sync_refused serve location desired adoption state ?_
      rw [← unsupported] at asked ⊢
      simp [BucketSpec.validate, directory, asked]
      rfl
    · refine sync_refused serve location desired adoption state ?_
      rw [← unsupported] at bare
      simp [BucketSpec.validate, bare, bucketArn, directory, homeless]
      rfl
    · rw [← unsupported] at bare
      exact fun step among => Call.fitsDirectory_of_asks (steps step among) directory bare
  · have general : isDirectoryName desired.name = false := by
      rw [Bool.eq_false_iff, Ne, isDirectoryName_iff]
      rintro ⟨stem, named⟩
      exact other stem named
    exact fun step among => Call.fitsGeneral_of_asks (steps step among) general

/-- Of a directory bucket with CORS, a website and a policy the first two are refused together. With the
policy alone it wants an account and is then let through; the policy is put without a word on locking
oneself out, which the policy of another bucket comes with. -/
theorem policy_passes_the_gate :
    let desired : BucketSpec := { name := "logs--usw2-az1--x-s3", policy := some "words" }
    let wider := { desired with cors := some {}, website := some {} }
    let other := { desired with name := "logs" }
    let here : Location := ⟨some "123456789012", "us-west-2"⟩
    let nowhere : Location := ⟨none, "us-west-2"⟩
    (sync nowhere wider .adopt).run Store.serve {} = (.error (.invalid ("directory bucket "
      ++ "logs--usw2-az1--x-s3 does not support the following fields: cors, website")), {}) ∧
    (sync nowhere desired .adopt).run Store.serve {}
      = (.error (.missingAccount "logs--usw2-az1--x-s3"), {}) ∧
    (Call.putPolicy desired.name "words" none
        ∈ ((sync here desired .adoptOrCreate).trace Store.serve {}).map (·.1) ∧
      (sync here desired .adoptOrCreate).Steps Store.serve (fun call _ => call.FitsDirectory) {}) ∧
    Call.putPolicy other.name "words" (some false)
        ∈ ((sync here other .adoptOrCreate).trace Store.serve {}).map (·.1) ∧
      (sync here other .adoptOrCreate).Steps Store.serve (fun call _ => call.FitsGeneral) {} := by
  intro desired wider other here nowhere
  have named : desired.name = "logs--usw2-az1" ++ "--x-s3" := rfl
  have refused : wider.stated.filter (!BucketSpec.directoryMembers.contains ·) = ["cors", "website"] := by
    decide +kernel
  have bare : desired.stated.filter (!BucketSpec.directoryMembers.contains ·) = [] := rfl
  have general : ∀ stem, other.name ≠ stem ++ "--x-s3" := fun stem same => by
    have directory := isDirectoryName_iff.mpr ⟨stem, same⟩
    revert directory
    decide +kernel
  obtain ⟨gate, -⟩ := directory_gate Store.serve nowhere wider .adopt {}
  obtain ⟨told, -⟩ := (gate _ named).1 (by rw [refused]; simp)
  obtain ⟨homeless, -⟩ := directory_gate Store.serve nowhere desired .adopt {}
  obtain ⟨through, -⟩ := directory_gate Store.serve here desired .adoptOrCreate {}
  obtain ⟨-, free⟩ := directory_gate Store.serve here other .adoptOrCreate {}
  refine ⟨?_, ((homeless _ named).2.1 bare rfl).1, ⟨?_, (through _ named).2.2 bare (by simp [here])⟩, ?_,
    free general⟩
  · rw [told, refused]
    decide +kernel
  · decide +kernel
  · decide +kernel

end Pass

end BucketSteward

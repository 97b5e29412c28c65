import BucketSteward.Proofs.Settling

/-! The calls that a pass over a bucket makes, whatever it is answered. It lists the buckets of the kind
that the name belongs to, it creates the bucket if it may, and all other calls are on that bucket and on
parts that its kind has (`BucketSpec.Asks`). -/
namespace BucketSteward

open Program

/-! ## The calls of a pass -/

/-- The listing of the buckets of the kind that a name belongs to. -/
def Call.listingBeside (name : String) : Call :=
  if isDirectoryName name then .listDirectoryBuckets else .listBuckets

/-- The calls that follow a search: the creation of the bucket, if it may be created, and calls on it. -/
def BucketSpec.Owns (desired : BucketSpec) (location : Location) (adoption : AdoptionPolicy)
    (call : Call) : Prop :=
  (adoption ≠ .adopt ∧ call = .createBucket desired.creation) ∨ call.IsOn location desired.name

/-- The calls that a pass may make. -/
def BucketSpec.Asks (desired : BucketSpec) (location : Location) (adoption : AdoptionPolicy)
    (call : Call) : Prop :=
  call = .listingBeside desired.name ∨ desired.Owns location adoption call

namespace BucketSpec.Asks

variable {location : Location} {desired : BucketSpec} {adoption : AdoptionPolicy} {call : Call}

theorem not_deleted {bucket : String}
    (asks : desired.Asks location adoption (.deleteBucket bucket)) : False := by
  rcases asks with listing | ⟨-, creation⟩ | on
  · unfold Call.listingBeside at listing
    split at listing <;> cases listing
  · cases creation
  · exact on

/-- A pass creates its own bucket, and only if it may. -/
theorem created {creation : BucketCreation}
    (asks : desired.Asks location adoption (.createBucket creation)) :
    adoption ≠ .adopt ∧ creation.bucket = desired.name := by
  rcases asks with listing | ⟨may, created⟩ | on
  · unfold Call.listingBeside at listing
    split at listing <;> cases listing
  · cases created
    exact ⟨may, rfl⟩
  · exact on.elim

/-- Of a pass, whatever is no listing and no creation is on its own bucket. -/
theorem isOn (asks : desired.Asks location adoption call) {part : Part}
    (about : call.part? = some part) : call.IsOn location desired.name := by
  rcases asks with rfl | ⟨-, rfl⟩ | on
  · unfold Call.listingBeside at about
    split at about <;> cases about
  · cases about
  · exact on

theorem written {bucket : String} {effect : StoredBucket → StoredBucket}
    (asks : desired.Asks location adoption call) (writes : call.effect? = some (bucket, effect)) :
    bucket = desired.name := by
  cases call with
  | deletePolicy _ =>
    cases writes
    exact asks.isOn rfl
  | putSetting _ _ _ | putDocument _ _ _ | deleteDocument _ _ | putPolicy _ _ _ | putObjectLock _ _
  | putAcl _ _ | putItem _ _ _ | deleteItem _ _ _ =>
    cases writes
    exact (asks.isOn rfl).1
  | _ => cases writes

end BucketSpec.Asks

namespace Pass

variable {allowed : Call → Prop} {location : Location} {desired observed : BucketSpec}
  {adoption : AdoptionPolicy} {name : String}

/-- Writing parts that a bucket has makes calls on that bucket. -/
theorem writeParts_uses (location : Location) (desired observed : BucketSpec) {parts : List Part}
    (there : ∀ part ∈ parts, part.existsOn desired.name = true) :
    (writeParts location desired observed parts).Uses (Call.IsOn location desired.name) :=
  (writeParts_obeys location desired observed parts).uses.mono
    fun _ ⟨part, among, _, _, on⟩ => on (there part among)

theorem create_uses (location : Location) (desired : BucketSpec) (may : adoption ≠ .adopt) :
    (create location desired).Uses (desired.Owns location adoption) := by
  refine (call_uses (.inl ⟨may, rfl⟩)).bind fun created => Uses.bind ?_ fun _ => .done _
  refine Uses.bind ((writeParts_uses location desired _ ?_).mono fun _ => .inr) fun _ => .done _
  intro part among
  exact (Bool.and_eq_true_iff.mp (List.mem_filter.mp among).2).1

theorem update_uses (location : Location) (desired observed : BucketSpec) (delta : Delta) :
    (update location desired observed delta).Uses (Call.IsOn location desired.name) := by
  refine writeParts_uses location desired observed ?_
  intro part among
  exact (Bool.and_eq_true_iff.mp (List.mem_filter.mp among).2).1

/-- Normalizing keeps the name, so the work is on the bucket that is desired. -/
theorem settle_uses (location : Location) (desired observed : BucketSpec) :
    (settle location desired observed).Uses (Call.IsOn location desired.name) := by
  have named : (desired.normalizedDesired observed).name = desired.name := rfl
  rw [settle_eq]
  split
  · exact .done _
  · refine Uses.bind ?_ fun written => .done _
    rw [← named]
    exact update_uses _ _ _ _

/-- After its search a pass creates the bucket, if it may, and makes calls on it. -/
theorem conclude_uses (location : Location) (desired : BucketSpec) (adoption : AdoptionPolicy)
    (arn : String) (found : Option BucketSpec) :
    (conclude location desired adoption arn found).Uses (desired.Owns location adoption) := by
  cases found with
  | none =>
    simp only [conclude]
    split
    case isTrue => exact .done _
    case isFalse may => exact (create_uses location desired may).bind fun _ => .done _
  | some observed =>
    refine Uses.bind ?_ fun outcome => .done _
    exact (settle_uses location desired observed).mono fun _ on => .inr on

theorem listBeside_uses (asked : allowed (.listingBeside name)) : (listBeside name).Uses allowed := by
  unfold listBeside
  unfold Call.listingBeside at asked
  split
  case isTrue directory =>
    rw [if_pos directory] at asked
    exact (callUnless_uses asked).bind fun _ => .done _
  case isFalse general =>
    rw [if_neg general] at asked
    exact (callUnless_uses asked).bind fun _ => .done _

/-- All that follows the listing. A bucket that is not listed is missing, and so is one that goes away
while it is read. -/
def workOn (location : Location) (desired : BucketSpec) (adoption : AdoptionPolicy) (arn : String)
    (listed : Bool) : Pass Synced :=
  (if listed then
    (some <$> readObserved location desired).handle fun fault => .done (unlessGone fault)
  else .done (.ok none)).bind (conclude location desired adoption arn)

/-- Of the listing a pass keeps only whether the name of the bucket is among the others. -/
theorem sync_eq_workOn (location : Location) (desired : BucketSpec) (adoption : AdoptionPolicy) :
    sync location desired adoption =
      (Program.done do
        desired.validate
        bucketArn desired.name location.region location.account).bind fun arn =>
          ((·.contains desired.name) <$> listBeside desired.name).bind
            (workOn location desired adoption arn) := by
  rw [sync_eq]
  congr 1
  funext arn
  rw [find_eq, bind_assoc]
  exact (bind_assoc (listBeside desired.name) (fun names => .done (.ok (names.contains desired.name)))
    (workOn location desired adoption arn)).symm

/-- After the listing a pass creates the bucket, if it may, and makes calls on it. -/
theorem workOn_uses (location : Location) (desired : BucketSpec) (adoption : AdoptionPolicy)
    (arn : String) (listed : Bool) :
    (workOn location desired adoption arn listed).Uses (desired.Owns location adoption) := by
  refine Uses.bind ?_ fun found => conclude_uses location desired adoption arn found
  split
  · refine Uses.handle (Uses.bind ?_ fun _ => .done _) fun _ => .done _
    exact (readObserved_obeys location desired).uses.mono fun _ allowed => .inr allowed.2
  · exact .done _

/-- A pass lists the buckets of the kind, creates the bucket, if it may, and makes calls on it. -/
theorem sync_uses (location : Location) (desired : BucketSpec) (adoption : AdoptionPolicy) :
    (sync location desired adoption).Uses (desired.Asks location adoption) := by
  rw [sync_eq_workOn]
  refine Uses.bind (.done _) fun arn => Uses.bind ?_ fun listed => ?_
  · exact (listBeside_uses (.inl rfl)).bind fun names => .done _
  · exact (workOn_uses location desired adoption arn listed).mono fun _ => .inr

end Pass

end BucketSteward

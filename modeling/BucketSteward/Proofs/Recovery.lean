import BucketSteward.Proofs.Discipline
import BucketSteward.Store

/-! Which failed calls a pass over a bucket goes on after. Reading goes on after the codes that say
that a part was never configured, and searching also after the one that says that the bucket is not
there; writing only after a tag service that knows no tags. Every other failed call is the last of
the pass, and the pass fails with its error. -/
namespace BucketSteward

theorem ApiError.hasCode_iff {e : ApiError} {codes : List String} :
    e.hasCode codes = true ↔ ∃ code ∈ codes, e.code = some code := by
  unfold hasCode
  cases e.code with
  | none => simp
  | some code => simp

namespace Discipline

/-- Reading a bucket changes nothing and goes on where a part was never configured. -/
def reading (location : Location) (bucket : String) : Discipline where
  allows call := call.mutates = false ∧ call.IsOn location bucket
  recovers call e := e.hasCode call.unconfiguredCodes = true
  ends _ e fault := fault = .api e

/-- Writing one part makes only calls on that part, on the bucket if its kind has the part, and reads only
the tags of a resource. -/
def writing (location : Location) (bucket : String) (part : Part) : Discipline where
  allows call := call.part? = some part ∧ (call.mutates = true ∨ call.isTagListing = true) ∧
    (part.existsOn bucket = true → call.IsOn location bucket)
  recovers call e := call.isTagListing = true ∧ e.hasCode ["NoSuchTagSet"] = true
  ends _ e fault := fault = .api e

/-- Writing parts one after the other, each under its name. -/
def writingParts (location : Location) (bucket : String) (parts : List Part) : Discipline where
  allows call := ∃ part ∈ parts, (writing location bucket part).allows call
  recovers call e := call.isTagListing = true ∧ e.hasCode ["NoSuchTagSet"] = true
  ends call e fault := fault = call.workFault e

/-- All the work on a bucket, once it was searched. -/
def working : Discipline where
  allows call := call.part? = none ∨ call.mutates = true ∨ call.isTagListing = true
  recovers call e := call.isTagListing = true ∧ e.hasCode ["NoSuchTagSet"] = true
  ends call e fault := fault = call.workFault e

end Discipline

namespace Pass

open Discipline

variable {α σ : Type} {rule : Discipline} {label : CallLabel}

theorem obeys_call {call : Call} (allowed : rule.allows call)
    (ends : ∀ e, rule.ends call e (.api e)) : Obeys rule (Pass.call label call) := by
  rw [call_eq]
  refine .ask allowed (fun e => .inr ⟨.api e, .note _ .done, ends e⟩) fun answer => .note _ ?_
  cases answer <;> exact .done _

theorem obeys_callUnless {codes : List String} {call : Call} (allowed : rule.allows call)
    (recovers : ∀ e, e.hasCode codes = true → rule.recovers call e)
    (ends : ∀ e, rule.ends call e (.api e)) : Obeys rule (callUnless codes label call) := by
  rw [callUnless_eq]
  refine .ask allowed (fun e => ?_) fun answer => .note _ ?_
  · by_cases known : e.hasCode codes = true
    · exact .inl (recovers e known)
    · refine .inr ⟨.api e, .note _ ?_, ends e⟩
      simp only [if_neg known]
      exact .done
  · rcases answer with e | reply
    · simp only
      split <;> exact .done _
    · exact .done _

/-! ## Reading -/

section Reading
variable {location : Location} {bucket : String}

theorem reading_call {call : Call} (reads : call.mutates = false) (on : call.IsOn location bucket) :
    Obeys (reading location bucket) (Pass.call label call) :=
  obeys_call ⟨reads, on⟩ fun _ => rfl

theorem reading_callUnless {codes : List String} {call : Call} (reads : call.mutates = false)
    (on : call.IsOn location bucket)
    (unconfigured : ∀ e : ApiError, e.hasCode codes = true → e.hasCode call.unconfiguredCodes = true) :
    Obeys (reading location bucket) (callUnless codes label call) :=
  obeys_callUnless ⟨reads, on⟩ unconfigured fun _ => rfl

theorem readDocument_obeys {document : Document}
    (fits : isDirectoryName bucket = true → document = .encryption ∨ document = .lifecycle) :
    Obeys (reading location bucket) (readDocument label document bucket) := by
  have on : Call.IsOn location bucket (.getDocument document bucket) := ⟨rfl, fits⟩
  refine (reading_callUnless rfl on fun e known => ?_).bind fun _ => .done _
  cases document <;> exact known

theorem readPolicy_obeys : Obeys (reading location bucket) (readPolicy label bucket) := by
  have on : Call.IsOn location bucket (.getPolicy bucket) := rfl
  exact (reading_callUnless rfl on fun _ known => known).bind fun _ => .done _

theorem readDirectoryBucket_obeys (directory : isDirectoryName bucket = true) {spec : BucketSpec}
    (named : spec.name = bucket) :
    Obeys (reading location bucket) (readDirectoryBucket location spec) := by
  subst named
  refine (readDocument_obeys fun _ => .inl rfl).bind fun encryption => ?_
  refine (readDocument_obeys fun _ => .inr rfl).bind fun lifecycle => ?_
  refine readPolicy_obeys.bind fun policy => ?_
  cases target : location.tagTarget spec.name with
  | error fault => exact .done _
  | ok address =>
    have on : Call.IsOn location spec.name (.listTags address.1 address.2) := ⟨directory, target⟩
    exact ((reading_callUnless rfl on fun _ known => known).bind fun _ => .done _).bind
      fun tagging => .done _

theorem readGeneralBucket_obeys (general : isDirectoryName bucket = false) {spec : BucketSpec}
    (named : spec.name = bucket) : Obeys (reading location bucket) (readGeneralBucket spec) := by
  subst named
  have document (d : Document) {label : CallLabel} :
      Obeys (reading location spec.name) (readDocument label d spec.name) :=
    readDocument_obeys fun directory => by simp [general] at directory
  have setting (s : Setting) {label : CallLabel} :
      Obeys (reading location spec.name) (readSetting label s spec.name) :=
    reading_call rfl ⟨rfl, general⟩
  have items (c : Collection) : Obeys (reading location spec.name) (readItems c spec.name) :=
    reading_call rfl ⟨rfl, general⟩
  have accelerate {label : CallLabel} :
      Obeys (reading location spec.name) (readAccelerate label spec.name) := by
    have on : Call.IsOn location spec.name (.getSetting .accelerate spec.name) := ⟨rfl, general⟩
    exact (reading_callUnless rfl on fun _ known => known).bind fun _ => .done _
  have acl : Call.IsOn location spec.name (.getAcl spec.name) := ⟨rfl, general⟩
  have objectLock : Call.IsOn location spec.name (.getObjectLock spec.name) := ⟨rfl, general⟩
  refine accelerate.bind fun accelerate => ?_
  refine (items .analytics).bind fun analytics => ?_
  refine (reading_call rfl acl).bind fun acl => ?_
  refine (document .cors).bind fun cors => ?_
  refine (document .encryption).bind fun encryption => ?_
  refine (items .intelligentTiering).bind fun intelligentTiering => ?_
  refine (items .inventory).bind fun inventory => ?_
  refine (document .lifecycle).bind fun lifecycle => ?_
  refine (setting .logging).bind fun logging => ?_
  refine (items .metrics).bind fun metrics => ?_
  refine (setting .notification).bind fun notification => ?_
  refine (document .ownershipControls).bind fun ownershipControls => ?_
  refine readPolicy_obeys.bind fun policy => ?_
  refine (document .publicAccessBlock).bind fun publicAccessBlock => ?_
  refine (document .replication).bind fun replication => ?_
  refine (setting .requestPayment).bind fun requestPayment => ?_
  refine (document .tagging).bind fun tagging => ?_
  refine (setting .versioning).bind fun versioning => ?_
  refine (document .website).bind fun website => ?_
  exact ((reading_callUnless rfl objectLock fun _ known => known).bind fun _ => .done _).bind
    fun objectLock => .done _

/-- Observing a bucket reads that bucket and nothing else. -/
theorem readObserved_obeys (location : Location) (desired : BucketSpec) :
    Obeys (reading location desired.name) (readObserved location desired) := by
  unfold readObserved
  split
  case isTrue directory => exact readDirectoryBucket_obeys directory rfl
  case isFalse general => exact readGeneralBucket_obeys (by simpa using general) rfl

end Reading

/-! ## Writing -/

section Writing
variable {location : Location} {bucket : String}

theorem writing_call {part : Part} {call : Call} (own : call.part? = some part)
    (change : call.mutates = true) (on : part.existsOn bucket = true → call.IsOn location bucket) :
    Obeys (writing location bucket part) (Pass.call label call) :=
  obeys_call ⟨own, .inl change, on⟩ fun _ => rfl

section Tags
variable {account arn : String} (directory : isDirectoryName bucket = true)
  (target : location.tagTarget bucket = .ok (account, arn))
include directory target

theorem currentTags_obeys :
    Obeys (writing location bucket (.document .tagging)) (currentTags account arn) := by
  refine Obeys.bind (obeys_callUnless ?_ ?_ fun _ => rfl) fun _ => .done _
  · exact ⟨rfl, .inr rfl, fun _ => ⟨directory, target⟩⟩
  · exact fun _ known => ⟨rfl, known⟩

theorem untag_obeys (keys : List String) :
    Obeys (writing location bucket (.document .tagging)) (untag account arn keys) := by
  unfold untag
  split
  · exact .done _
  · exact writing_call rfl rfl fun _ => ⟨directory, target⟩

theorem syncResourceTags_obeys (desired : Option Tagging) :
    Obeys (writing location bucket (.document .tagging)) (syncResourceTags account arn desired) := by
  have current := currentTags_obeys directory target
  have untag := untag_obeys directory target
  unfold syncResourceTags
  split
  · refine current.bind fun set => (untag _).bind fun _ => ?_
    split
    · exact .done _
    · exact writing_call rfl rfl fun _ => ⟨directory, target⟩
  · exact current.bind fun set => untag _

end Tags

theorem syncDocument_obeys {document : Document}
    (fits : (Part.document document).existsOn bucket = true → isDirectoryName bucket = true →
      document = .encryption ∨ document = .lifecycle) (desired : Option document.Content) :
    Obeys (writing location bucket (.document document)) (syncDocument document bucket desired) := by
  unfold syncDocument
  split <;> exact writing_call rfl rfl fun there => ⟨rfl, fits there⟩

theorem syncPolicy_obeys (desired : Option String) :
    Obeys (writing location bucket .policy)
      (syncPolicy bucket desired (isDirectoryName bucket)) := by
  unfold syncPolicy
  split
  · exact writing_call rfl rfl fun _ => ⟨rfl, rfl⟩
  · exact writing_call rfl rfl fun _ => rfl

theorem carryOut_obeys (collection : Collection) (plan : List (ItemAction × collection.Item)) :
    Obeys (writing location bucket (.collection collection)) (carryOut collection bucket plan) := by
  have general (there : (Part.collection collection).existsOn bucket = true) :
      bucket = bucket ∧ isDirectoryName bucket = false := ⟨rfl, Part.general_of_existsOn rfl there⟩
  induction plan with
  | nil => exact .done _
  | cons step rest ih =>
    obtain ⟨action, item⟩ := step
    cases action with
    | keep => exact ih
    | put | update | delete =>
      exact (writing_call rfl rfl general).bind fun _ => ih.bind fun _ => .done _

/-- Writing a part makes calls on that part only. -/
theorem write_obeys (location : Location) (desired observed : BucketSpec) (part : Part) :
    Obeys (writing location desired.name part) (part.write location desired observed) := by
  have general {part : Part} (missing : part.isDirectoryPart = false)
      (there : part.existsOn desired.name = true) :
      desired.name = desired.name ∧ isDirectoryName desired.name = false :=
    ⟨rfl, Part.general_of_existsOn missing there⟩
  have kind {d : Document} (other : d ≠ .tagging)
      (there : (Part.document d).existsOn desired.name = true)
      (directory : isDirectoryName desired.name = true) : d = .encryption ∨ d = .lifecycle := by
    cases d <;> simp_all [Part.existsOn, Part.isDirectoryPart]
  cases part with
  | setting s => exact (writing_call rfl rfl (general rfl)).bind fun _ => .done _
  | collection c => exact carryOut_obeys c _
  | policy => exact (syncPolicy_obeys _).bind fun _ => .done _
  | objectLock => exact (writing_call rfl rfl (general rfl)).bind fun _ => .done _
  | acl => exact (writing_call rfl rfl (general rfl)).bind fun _ => .done _
  | document d =>
    cases d with
    | tagging =>
      simp only [Part.write]
      split
      case isTrue directory =>
        cases target : location.tagTarget desired.name with
        | error fault => exact .done _
        | ok address => exact (syncResourceTags_obeys directory target _).bind fun _ => .done _
      case isFalse plain =>
        exact (syncDocument_obeys (fun _ directory => absurd directory plain) _).bind fun _ => .done _
    | _ => exact (syncDocument_obeys (kind (by simp)) _).bind fun _ => .done _

/-- Writing parts makes calls on those parts only, and a failed one ends it with a fault that names
the part. -/
theorem writeParts_obeys (location : Location) (desired observed : BucketSpec) (parts : List Part) :
    Obeys (writingParts location desired.name parts) (writeParts location desired observed parts) := by
  induction parts with
  | nil => exact .done _
  | cons part rest ih =>
    have first : Obeys (writingParts location desired.name (part :: rest))
        (under part.property (part.write location desired observed)) := by
      refine (write_obeys location desired observed part).mapFault.mono ?_ ?_ ?_
      · exact fun call allowed => ⟨part, List.mem_cons_self, allowed⟩
      · exact fun _ _ recovered => recovered
      · rintro call e fault ⟨own, -⟩ ⟨source, rfl, rfl⟩
        simp only [writingParts, Call.workFault, own]
    refine first.bind fun written => Obeys.bind (ih.mono ?_ ?_ ?_) fun names => .done _
    · exact fun call ⟨other, among, allowed⟩ => ⟨other, List.mem_cons_of_mem _ among, allowed⟩
    · exact fun _ _ recovered => recovered
    · exact fun _ _ _ _ ended => ended

end Writing

/-! ## Searching -/

section Search
variable {serve : Service Storage σ} {state there : σ} {before after : List (Call × σ)}
  {call : Call} {e : ApiError} {location : Location} {desired : BucketSpec}

theorem callUnless_trace (codes : List String) (request : Call) :
    (callUnless codes label request).trace serve state = [(request, state)] := by
  rw [callUnless_eq, Program.trace, Program.trace]
  split
  · rfl
  · split <;> rfl

theorem callUnless_run (codes : List String) (request : Call) :
    (callUnless codes label request).run serve state = (match (serve request state).1 with
      | .ok reply => .ok (some reply)
      | .error e => if e.hasCode codes then .ok none else .error (.api e), (serve request state).2) := by
  rw [callUnless_eq, Program.run]
  rcases serve request state with ⟨e | reply, next⟩
  · by_cases known : e.hasCode codes = true <;> simp [known, Program.run]
  · rfl

theorem callUnless_failed {codes : List String} {request : Call}
    (asked : (callUnless codes label request).trace serve state = before ++ (call, there) :: after)
    (failed : (serve call there).1 = .error e) :
    after = [] ∧ ((callUnless codes label request).run serve state).1
      = if e.hasCode codes then .ok none else .error (.api e) := by
  rw [callUnless_trace, List.singleton_eq_append_iff] at asked
  simp only [List.cons_ne_nil, and_false, or_false, List.cons.injEq, Prod.mk.injEq] at asked
  obtain ⟨rfl, ⟨rfl, rfl⟩, rfl⟩ := asked
  rw [callUnless_run, failed]
  exact ⟨rfl, rfl⟩

/-- The listing is one call, and a store that knows no bucket lists none. -/
theorem listBeside_eq (bucket : String) :
    ∃ (label : CallLabel) (request : Call) (names : Option request.Reply → List String),
      names none = [] ∧
        listBeside bucket = names <$> callUnless [ApiError.noSuchBucket] label request := by
  unfold listBeside
  split
  · exact ⟨_, .listDirectoryBuckets, (·.getD []), rfl, rfl⟩
  · exact ⟨_, .listBuckets, (·.getD []), rfl, rfl⟩

theorem listBeside_failed {bucket : String}
    (asked : (listBeside bucket).trace serve state = before ++ (call, there) :: after)
    (failed : (serve call there).1 = .error e) :
    after = [] ∧ ((listBeside bucket).run serve state).1
      = if e.hasCode [ApiError.noSuchBucket] then .ok [] else .error (.api e) := by
  obtain ⟨label, request, names, nobody, listing⟩ := listBeside_eq bucket
  rw [listing, Program.trace_map] at asked
  obtain ⟨last, outcome⟩ := callUnless_failed asked failed
  rw [listing, Program.run_map, outcome]
  refine ⟨last, ?_⟩
  split
  · rw [← nobody]
    rfl
  · rfl

/-- What becomes of a fault that reading a listed bucket ended with. -/
def unlessGone : Fault → Except Fault (Option BucketSpec)
  | .api e => if e.hasCode [ApiError.noSuchBucket] then .ok none else .error (.api e)
  | fault => .error fault

/-- A listed bucket is read, and one that goes away counts as missing. -/
theorem find_eq (location : Location) (desired : BucketSpec) :
    find location desired = (listBeside desired.name).bind fun names =>
      if names.contains desired.name then
        (some <$> readObserved location desired).handle fun fault => .done (unlessGone fault)
      else .done (.ok none) := by
  have recover : (fun fault : Fault => match fault with
      | .api e =>
        if e.hasCode [ApiError.noSuchBucket] then (pure none : Pass (Option BucketSpec))
        else throw (Fault.api e)
      | fault => throw fault) = fun fault => .done (unlessGone fault) := by
    funext fault
    cases fault with
    | api e =>
      simp only [unlessGone]
      split <;> rfl
    | _ => rfl
  rw [← recover]
  rfl

/-- A search only reads. -/
theorem find_reads (location : Location) (desired : BucketSpec) :
    (find location desired).Uses fun call : Call => call.mutates = false := by
  have listing {label : CallLabel} {request : Call} (reads : request.mutates = false) :
      (callUnless [ApiError.noSuchBucket] label request).Uses
        fun call : Call => call.mutates = false :=
    callUnless_uses reads
  rw [find_eq]
  refine Program.Uses.bind ?_ fun names => ?_
  · unfold listBeside
    split
    · exact (listing rfl).bind fun _ => .done _
    · exact (listing rfl).bind fun _ => .done _
  · split
    · refine Program.Uses.handle (Program.Uses.bind ?_ fun _ => .done _) fun _ => .done _
      exact (readObserved_obeys location desired).uses.mono fun _ allowed => allowed.1
    · exact .done _

/-- A call that fails in a search is a reading of something unconfigured, or the last of the
search; what it says then is that the bucket is missing, or it is the fault of the search. -/
theorem find_failed {location : Location} {desired : BucketSpec}
    (asked : (find location desired).trace serve state = before ++ (call, there) :: after)
    (failed : (serve call there).1 = .error e) :
    e.hasCode call.unconfiguredCodes = true ∨
      after = [] ∧ ((find location desired).run serve state).1 = unlessGone (.api e) := by
  rw [find_eq] at asked ⊢
  rcases Program.cut_bind asked with
    ⟨within, listing, rest⟩ | ⟨earlier, names, middle, ran, -, reading⟩
  · obtain ⟨rfl, outcome⟩ := listBeside_failed listing failed
    refine .inr ?_
    rw [Program.run_bind]
    rcases ran : (listBeside desired.name).run serve state with ⟨fault | names, middle⟩
    · simp only [ran] at rest outcome
      by_cases gone : e.hasCode [ApiError.noSuchBucket] = true
      · simp [gone] at outcome
      · rw [if_neg gone] at outcome
        obtain rfl := Except.error.inj outcome
        exact ⟨rest, by simp [unlessGone, gone]⟩
    · simp only [ran] at rest outcome
      by_cases gone : e.hasCode [ApiError.noSuchBucket] = true
      · rw [if_pos gone] at outcome
        obtain rfl := Except.ok.inj outcome
        exact ⟨by simpa [Program.trace] using rest, by simp [unlessGone, gone, Program.run]⟩
      · simp [gone] at outcome
  · rw [Program.run_bind, ran]
    split at reading
    case isTrue listed =>
      simp only [if_pos listed, Program.trace_handle_done, Program.run_handle_done, Program.trace_map,
        Program.run_map] at reading ⊢
      rcases (readObserved_obeys location desired).failed_call reading failed with
        recovered | ⟨rfl, fault, ended, rfl⟩
      · exact .inl recovered
      · rw [ended]
        exact .inr ⟨rfl, rfl⟩
    case isFalse => simp [Program.trace] at reading

end Search

/-! ## A whole pass -/

/-- What a pass does with what its search found. -/
def conclude (location : Location) (desired : BucketSpec) (adoption : AdoptionPolicy) (arn : String) :
    Option BucketSpec → Pass Synced
  | none =>
      if adoption = .adopt then throw (mayNotCreate desired.name)
      else do
        let created ← create location desired
        pure ⟨.created, arn, created⟩
  | some observed => do
      let outcome ← settle location desired observed
      pure ⟨outcome, arn, none⟩

/-- A pass is refused, or it searches the bucket and goes on with what it found. -/
theorem sync_eq (location : Location) (desired : BucketSpec) (adoption : AdoptionPolicy) :
    sync location desired adoption =
      (Program.done do
        desired.validate
        bucketArn desired.name location.region location.account).bind fun arn =>
          (find location desired).bind (conclude location desired adoption arn) := by
  unfold sync
  cases desired.validate with
  | error fault => rfl
  | ok _ =>
    cases bucketArn desired.name location.region location.account with
    | error fault => rfl
    | ok arn =>
      show (find location desired).bind _ = (find location desired).bind _
      congr 1

theorem writeParts_works (location : Location) (desired observed : BucketSpec) (parts : List Part) :
    Obeys working (writeParts location desired observed parts) := by
  refine (writeParts_obeys location desired observed parts).mono ?_ ?_ ?_
  · exact fun call ⟨_, _, _, change, _⟩ => Or.inr change
  · exact fun _ _ recovered => recovered
  · exact fun _ _ _ _ ended => ended

theorem create_obeys (location : Location) (desired : BucketSpec) :
    Obeys working (create location desired) := by
  refine Obeys.bind (obeys_call (Or.inl rfl) fun _ => rfl) fun created => ?_
  refine Obeys.bind ?_ fun _ => .done _
  exact (writeParts_works _ _ _ _).bind fun _ => .done _

/-- A bucket without differences is in sync; another one is updated where it differs. -/
theorem settle_eq (location : Location) (desired observed : BucketSpec) :
    let wanted := desired.normalizedDesired observed
    let found := desired.normalizedObserved observed
    settle location desired observed =
      if (Delta.between wanted found).isEmpty then .done (.ok .inSync)
      else (update location wanted found (Delta.between wanted found)).bind fun written =>
        .done (.ok (if written.isEmpty then .inSync else .updated written)) := by
  intro wanted found
  unfold settle
  rfl

theorem settle_obeys (location : Location) (desired observed : BucketSpec) :
    Obeys working (settle location desired observed) := by
  rw [settle_eq]
  by_cases same : (Delta.between (desired.normalizedDesired observed)
      (desired.normalizedObserved observed)).isEmpty = true
  · rw [if_pos same]
    exact .done _
  · rw [if_neg same]
    exact Obeys.bind (writeParts_works _ _ _ _) fun written => .done _

theorem conclude_obeys (location : Location) (desired : BucketSpec) (adoption : AdoptionPolicy)
    (arn : String) (found : Option BucketSpec) :
    Obeys working (conclude location desired adoption arn found) := by
  cases found with
  | none =>
    simp only [conclude]
    split
    · exact .done _
    · exact (create_obeys location desired).bind fun _ => .done _
  | some observed =>
    simp only [conclude]
    exact Obeys.bind (settle_obeys location desired observed) fun outcome => .done _

/-- No error of a service is swallowed. A failed call of the search says that what it reads was
never configured, or that the bucket is missing, and then nothing more is read of it; a failed call
of the work after it says that a resource has no tags; and any other failed call is the last of the
pass, which fails with its error, under the name of the part that was being written. -/
theorem failed_call_recovered_or_last {location : Location} {desired : BucketSpec}
    {adoption : AdoptionPolicy} {serve : Service Storage σ} {state there : σ}
    {before after : List (Call × σ)} {call : Call} {e : ApiError}
    (asked : (sync location desired adoption).trace serve state = before ++ (call, there) :: after)
    (failed : (serve call there).1 = .error e) :
    let search := find location desired
    let outcome := ((sync location desired adoption).run serve state).1
    (∃ within, search.trace serve state = before ++ (call, there) :: within ∧
      ((∃ code ∈ call.unconfiguredCodes, e.code = some code) ∨
        (e.code = some "NoSuchBucket" ∧ within = [] ∧ (search.run serve state).1 = .ok none) ∨
        (after = [] ∧ outcome = .error (.api e)))) ∨
    ∃ work, before = search.trace serve state ++ work ∧
      ((call.isTagListing = true ∧ e.code = some "NoSuchTagSet") ∨
        (after = [] ∧ outcome = .error (call.workFault e))) := by
  intro search outcome
  have result : outcome = ((sync location desired adoption).run serve state).1 := rfl
  rw [sync_eq] at asked result
  cases accepted : (do
      desired.validate
      bucketArn desired.name location.region location.account) with
  | error fault => simp [accepted, Program.bind, Program.trace] at asked
  | ok arn =>
    simp only [accepted, Program.bind] at asked result
    rw [Program.run_bind] at result
    rcases Program.cut_bind asked with ⟨within, searched, rest⟩ | ⟨work, found, middle, ran, earlier, worked⟩
    · refine .inl ⟨within, searched, ?_⟩
      rcases find_failed searched failed with recovered | ⟨last, ended⟩
      · exact .inl (ApiError.hasCode_iff.mp recovered)
      · simp only [unlessGone] at ended
        by_cases gone : e.hasCode [ApiError.noSuchBucket] = true
        · rw [if_pos gone] at ended
          exact .inr (.inl ⟨by simpa [ApiError.noSuchBucket] using ApiError.hasCode_iff.mp gone, last, ended⟩)
        · rw [if_neg gone] at ended
          refine .inr (.inr ?_)
          rcases ran : (find location desired).run serve state with ⟨fault | found, middle⟩
          · rw [ran] at ended rest result
            obtain rfl := Except.error.inj ended
            subst last
            exact ⟨rest, result⟩
          · rw [ran] at ended
            cases ended
    · refine .inr ⟨work, earlier, ?_⟩
      rcases (conclude_obeys location desired adoption arn found).failed_call worked failed with
        ⟨listing, known⟩ | ⟨last, fault, ended, rfl⟩
      · exact .inl ⟨listing, by simpa using ApiError.hasCode_iff.mp known⟩
      · refine .inr ⟨last, ?_⟩
        rw [result, ran]
        exact ended

/-- A policy that is refused when a bucket is updated is the last thing that is sent. -/
theorem refused_policy_is_last :
    let store : Store := {
      buckets := Keyed.ofList [("ledger", {})]
      failures := Keyed.ofList [("PutBucketPolicy", "MalformedPolicy")] }
    let pass := sync ⟨none, "eu-west-1"⟩ { name := "ledger", policy := some "words" } .adopt
    let earlier := (pass.trace Store.serve store).take 21
    let there := { store with calls := earlier.map (·.1) }
    let refusal : ApiError := ⟨"PutBucketPolicy", some "MalformedPolicy", "injected failure"⟩
    pass.trace Store.serve store = earlier ++ [(.putPolicy "ledger" "words" (some false), there)] ∧
      (Store.serve (.putPolicy "ledger" "words" (some false)) there).1 = .error refusal ∧
      (pass.run Store.serve store).1 = .error (.property "Policy" (.api refusal)) := by
  intro store pass earlier there refusal
  have asked : pass.trace Store.serve store =
      earlier ++ [(.putPolicy "ledger" "words" (some false), there)] := by decide +kernel
  have failed : (Store.serve (.putPolicy "ledger" "words" (some false)) there).1 = .error refusal := by
    decide +kernel
  refine ⟨asked, failed, ?_⟩
  rcases failed_call_recovered_or_last asked failed with ⟨within, searched, -⟩ | ⟨work, -, outcome⟩
  · have longer := congrArg List.length searched
    have shorter : ((find ⟨none, "eu-west-1"⟩ { name := "ledger", policy := some "words" }).trace
      Store.serve store).length = 21 := by decide +kernel
    have full : earlier.length = 21 := by decide +kernel
    rw [List.length_append, shorter, full] at longer
    simp at longer
  · rcases outcome with ⟨listing, -⟩ | ⟨-, ended⟩
    · cases listing
    · exact ended

end Pass

end BucketSteward

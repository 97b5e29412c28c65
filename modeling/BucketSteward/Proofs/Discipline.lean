import BucketSteward.Proofs.Trace
import BucketSteward.Sync.Bucket

/-! What a pass may do whatever it is answered: which calls it makes, after which failed calls it
goes on, and with which fault every other failed call ends it at once. A discipline is a property of
the text of a pass, kept by sequencing, and each reading and each writing of a part obeys one; what
it says about runs follows for any service (`Obeys.failed_call`). -/
namespace BucketSteward

/-! ## Calls on parts -/

/-- A bucket that has a part which directory buckets have not is a general purpose one. -/
theorem Part.general_of_existsOn {part : Part} {name : String} (missing : part.isDirectoryPart = false)
    (there : part.existsOn name = true) : isDirectoryName name = false := by
  simpa [existsOn, missing] using there

namespace Call

/-- The part that a call reads or writes. -/
def part? : Call → Option Part
  | getSetting s _ | putSetting s _ _ => some (.setting s)
  | getDocument d _ | putDocument d _ _ | deleteDocument d _ => some (.document d)
  | listItems c _ | putItem c _ _ | deleteItem c _ _ => some (.collection c)
  | getPolicy _ | putPolicy _ _ _ | deletePolicy _ => some .policy
  | getObjectLock _ | putObjectLock _ _ => some .objectLock
  | getAcl _ | putAcl _ _ => some .acl
  | listTags _ _ | tag _ _ _ | untag _ _ _ => some (.document .tagging)
  | createBucket _ | deleteBucket _ | listBuckets | listDirectoryBuckets => none

/-- The call is on a bucket and on a part that its kind has. The tags of a directory bucket are those of
its resource name, and its policy comes without a word on locking oneself out. -/
def IsOn (location : Location) (name : String) : Call → Prop
  | createBucket _ | deleteBucket _ | listBuckets | listDirectoryBuckets => False
  | getDocument d bucket | putDocument d bucket _ | deleteDocument d bucket =>
      bucket = name ∧ (isDirectoryName name = true → d = .encryption ∨ d = .lifecycle)
  | getPolicy bucket | deletePolicy bucket => bucket = name
  | putPolicy bucket _ confirm =>
      bucket = name ∧ confirm = if isDirectoryName name then none else some false
  | getSetting _ bucket | putSetting _ bucket _ | getObjectLock bucket | putObjectLock bucket _
  | getAcl bucket | putAcl bucket _ | listItems _ bucket | putItem _ bucket _
  | deleteItem _ bucket _ => bucket = name ∧ isDirectoryName name = false
  | listTags account arn | tag account arn _ | untag account arn _ =>
      isDirectoryName name = true ∧ location.tagTarget name = .ok (account, arn)

/-- The call asks for the tags of a resource. -/
def isTagListing : Call → Bool
  | listTags _ _ => true
  | _ => false

/-- The codes by which the service says that what a call reads was never configured. -/
def unconfiguredCodes : Call → List String
  | getSetting .accelerate _ => ["MethodNotAllowed", "UnsupportedArgument"]
  | getDocument .cors _ => ["NoSuchCORSConfiguration"]
  | getDocument .encryption _ => ["ServerSideEncryptionConfigurationNotFoundError"]
  | getDocument .lifecycle _ => ["NoSuchLifecycleConfiguration"]
  | getDocument .ownershipControls _ => ["OwnershipControlsNotFoundError"]
  | getDocument .publicAccessBlock _ => ["NoSuchPublicAccessBlockConfiguration"]
  | getDocument .replication _ => ["ReplicationConfigurationNotFoundError"]
  | getDocument .tagging _ => ["NoSuchTagSet"]
  | getDocument .website _ => ["NoSuchWebsiteConfiguration"]
  | getPolicy _ => ["NoSuchBucketPolicy"]
  | getObjectLock _ => ["ObjectLockConfigurationNotFoundError"]
  | listTags _ _ => ["NoSuchTagSet"]
  | _ => []

/-- The fault that a failed call of the work on a bucket ends a pass with: one on a part names the
property that the part is reported as. -/
def workFault (call : Call) (e : ApiError) : Fault :=
  match call.part? with
  | some part => .property part.property (.api e)
  | none => .api e

end Call

/-! ## Disciplines -/

/-- The calls of a pass, the failed calls it goes on after, and the faults that others end it
with. -/
structure Discipline where
  allows : Call → Prop
  recovers : Call → ApiError → Prop
  ends : Call → ApiError → Fault → Prop

namespace Pass

variable {α β σ : Type} {label : CallLabel}

theorem call_eq (label : CallLabel) (call : Call) :
    Pass.call label call = Program.ask (I := Storage) call fun answer =>
      .note (I := Storage) ⟨label, failure? answer⟩ <|
        match answer with
        | .ok reply => .done (.ok reply)
        | .error e => .done (.error (.api e)) := rfl

theorem steps_call {serve : Service Storage σ} {holds : Call → σ → Prop} {call : Call} {state : σ} :
    (Pass.call label call).Steps serve holds state ↔ holds call state := by
  rw [call_eq, Program.steps_ask, and_iff_left_iff_imp]
  intro _
  rw [Program.steps_note]
  rcases (serve call state).1 with e | reply <;> exact Program.steps_done _ _

theorem run_call {serve : Service Storage σ} {call : Call} {state after : σ} {reply : call.Reply}
    (ran : (Pass.call label call).run serve state = (.ok reply, after)) :
    serve call state = (.ok reply, after) := by
  rw [call_eq, Program.run] at ran
  rcases served : serve call state with ⟨e | answer, next⟩
  · rw [served] at ran
    cases ran
  · rw [served] at ran
    cases ran
    rfl

theorem call_succeeds {serve : Service Storage σ} {call : Call} {state after : σ} {reply : call.Reply}
    (served : serve call state = (.ok reply, after)) :
    (Pass.call label call).Succeeds serve state [call] reply after := by
  rw [call_eq]
  constructor
  · rw [Program.run, served]
    rfl
  · rw [Program.trace, served]
    rfl

theorem callUnless_eq (codes : List String) (label : CallLabel) (call : Call) :
    callUnless codes label call = Program.ask (I := Storage) call fun answer =>
      .note (I := Storage) ⟨label, failure? answer⟩ <|
        match answer with
        | .ok reply => .done (.ok (some reply))
        | .error e => if e.hasCode codes then .done (.ok none) else .done (.error (.api e)) := rfl

theorem callUnless_succeeds {serve : Service Storage σ} {codes : List String} {call : Call}
    {state after : σ} {reply : call.Reply} (served : serve call state = (.ok reply, after)) :
    (callUnless codes label call).Succeeds serve state [call] (some reply) after := by
  rw [callUnless_eq]
  constructor
  · rw [Program.run, served]
    rfl
  · rw [Program.trace, served]
    rfl

theorem call_uses {allowed : Call → Prop} {call : Call} (asked : allowed call) :
    (Pass.call label call).Uses allowed := by
  rw [call_eq]
  refine .ask asked fun answer => .note _ ?_
  cases answer <;> exact .done _

theorem callUnless_uses {allowed : Call → Prop} {codes : List String} {call : Call}
    (asked : allowed call) : (callUnless codes label call).Uses allowed := by
  rw [callUnless_eq]
  refine .ask asked fun answer => .note _ ?_
  rcases answer with e | reply
  · simp only
    split <;> exact .done _
  · exact .done _

/-- The pass makes no more calls and ends with a fault. -/
inductive EndsWith (fault : Fault) : Pass α → Prop where
  | done : EndsWith fault (.done (.error fault))
  | note (entry : EndedCall) {rest : Pass α} (next : EndsWith fault rest) :
      EndsWith fault (.note entry rest)

namespace EndsWith

variable {fault : Fault} {pass : Pass α}

theorem bind (ends : EndsWith fault pass) (next : α → Pass β) : EndsWith fault (pass.bind next) := by
  induction ends with
  | done => exact .done
  | note entry _ ih => exact .note entry ih

theorem mapFault (ends : EndsWith fault pass) (f : Fault → Fault) :
    EndsWith (f fault) (pass.mapFault f) := by
  induction ends with
  | done => exact .done
  | note entry _ ih => exact .note entry ih

theorem run (ends : EndsWith fault pass) (serve : Service Storage σ) (state : σ) :
    pass.run serve state = (.error fault, state) ∧ pass.trace serve state = [] := by
  induction ends with
  | done => exact ⟨rfl, rfl⟩
  | note entry _ ih => exact ih

end EndsWith

/-- The pass keeps to a discipline whatever it is answered. -/
inductive Obeys (rule : Discipline) : Pass α → Prop where
  | done (result : Except Fault α) : Obeys rule (.done result)
  | ask {call : Call} {rest : Except ApiError call.Reply → Pass α} (allowed : rule.allows call)
      (failed : ∀ e, rule.recovers call e ∨
        ∃ fault, EndsWith fault (rest (.error e)) ∧ rule.ends call e fault)
      (next : ∀ answer, Obeys rule (rest answer)) : Obeys rule (.ask call rest)
  | note (entry : EndedCall) {rest : Pass α} (next : Obeys rule rest) : Obeys rule (.note entry rest)

namespace Obeys

variable {rule other : Discipline} {pass : Pass α}

theorem bind {next : α → Pass β} (first : Obeys rule pass) (second : ∀ value, Obeys rule (next value)) :
    Obeys rule (pass >>= next) := by
  induction first with
  | done result =>
    cases result with
    | ok value => exact second value
    | error fault => exact .done _
  | @ask call rest allowed failed _ ih =>
    refine .ask allowed (fun e => ?_) ih
    rcases failed e with recovered | ⟨fault, ended, due⟩
    · exact .inl recovered
    · exact .inr ⟨fault, ended.bind next, due⟩
  | note entry _ ih => exact .note entry ih

theorem mono (obeys : Obeys rule pass) (allows : ∀ call, rule.allows call → other.allows call)
    (recovers : ∀ call e, rule.recovers call e → other.recovers call e)
    (ends : ∀ call e fault, rule.allows call → rule.ends call e fault → other.ends call e fault) :
    Obeys other pass := by
  induction obeys with
  | done result => exact .done result
  | ask allowed failed _ ih =>
    refine .ask (allows _ allowed) (fun e => ?_) ih
    rcases failed e with recovered | ⟨fault, ended, due⟩
    · exact .inl (recovers _ e recovered)
    · exact .inr ⟨fault, ended, ends _ e fault allowed due⟩
  | note entry _ ih => exact .note entry ih

/-- Renaming the fault of a pass renames the faults that failed calls end it with. -/
theorem mapFault {f : Fault → Fault} (obeys : Obeys rule pass) :
    Obeys { rule with ends := fun call e fault => ∃ source, rule.ends call e source ∧ fault = f source }
      (pass.mapFault f) := by
  induction obeys with
  | done result => cases result <;> exact .done _
  | @ask call rest allowed failed _ ih =>
    refine .ask allowed (fun e => ?_) ih
    rcases failed e with recovered | ⟨fault, ended, due⟩
    · exact .inl recovered
    · exact .inr ⟨f fault, ended.mapFault f, fault, due, rfl⟩
  | note entry _ ih => exact .note entry ih

theorem uses (obeys : Obeys rule pass) : pass.Uses rule.allows := by
  induction obeys with
  | done result => exact .done result
  | ask allowed _ _ ih => exact .ask allowed ih
  | note entry _ ih => exact .note entry ih

/-- In a run, a failed call is one that the pass may go on after, or it is the last call and the
pass ends with the fault that is due. -/
theorem failed_call (obeys : Obeys rule pass) {serve : Service Storage σ} {state there : σ}
    {before after : List (Call × σ)} {call : Call} {e : ApiError}
    (asked : pass.trace serve state = before ++ (call, there) :: after)
    (failed : (serve call there).1 = .error e) :
    rule.recovers call e ∨
      after = [] ∧ ∃ fault, (pass.run serve state).1 = .error fault ∧ rule.ends call e fault := by
  induction obeys generalizing state before with
  | done result => simp [Program.trace] at asked
  | @ask request rest _ recovery _ ih =>
    cases before with
    | nil =>
      simp only [Program.trace, List.nil_append, List.cons.injEq, Prod.mk.injEq] at asked
      obtain ⟨⟨rfl, rfl⟩, asked⟩ := asked
      rcases recovery e with recovered | ⟨fault, ended, due⟩
      · exact .inl recovered
      · obtain ⟨result, silent⟩ := ended.run serve (serve request state).2
        rw [failed, silent] at asked
        simp only [Program.run, failed, result]
        exact .inr ⟨asked.symm, fault, rfl, due⟩
    | cons step before =>
      simp only [Program.trace, List.cons_append, List.cons.injEq] at asked
      exact ih _ asked.2
  | note _ _ ih => exact ih asked

end Obeys

end Pass

end BucketSteward

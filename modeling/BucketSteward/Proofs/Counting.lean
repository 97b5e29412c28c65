import BucketSteward.Proofs.Recovery
import BucketSteward.Proofs.Serving
import Mathlib.Algebra.GroupWithZero.Nat
import Mathlib.Data.List.Forall2
import Mathlib.Data.List.TakeWhile

/-! Every call is counted once, under the name that it is logged under, that name's verb and how it
ended. Whoever makes a call says what it is to be counted under, and the store logs it under a name of
its own, so the labels of all calls are compared with those names. A pass counts its calls when each of
them is noted once, at once and under a label that tells it (`Pass.CountsCalls`); every pass of the
steward does. So after any sequence of passes with one set of counters, whatever fails in them, the
counters of an operation are the calls of it in the log, spread over the ways in which they ended. -/
namespace BucketSteward

open Program

/-! ## The words of a call -/

namespace Verb

/-- What an operation does, by the first word of its name. -/
def ofOperation (operation : String) : Option Verb :=
  let words := [("Create", create), ("Get", readOne), ("List", readMany), ("Put", update), ("Tag", update),
    ("Delete", delete), ("Untag", delete)]
  (words.find? fun word => Text.hasPrefix word.1 operation).map (·.2)

theorem word_injective {a b : Verb} (same : a.word = b.word) : a = b := by
  cases a <;> cases b <;> first | rfl | exact absurd same (by decide)

end Verb

/-- The operation that an entry of the log names; what follows a colon is the id of an item. -/
def loggedOperation (entry : String) : String :=
  String.ofList (entry.toList.takeWhile (· != ':'))

/-- The word that tells how a call ended. -/
def endedWith {α : Type} : Except ApiError α → String
  | .ok _ => "ok"
  | .error ⟨_, some code, _⟩ => code
  | .error ⟨_, none, _⟩ => "Unknown"

theorem outcomeWord_failure {α : Type} (answer : Except ApiError α) :
    outcomeWord (Pass.failure? answer) = endedWith answer := by
  rcases answer with ⟨operation, code, message⟩ | reply
  · cases code <;> rfl
  · rfl

namespace Call

/-- There is no colon in the name of an operation, and its first word says what the operation does. -/
theorem operation_regular (call : Call) :
    call.operation.toList.all (· != ':') = true ∧ (Verb.ofOperation call.operation).isSome = true := by
  cases call with
  | getSetting s _ | putSetting s _ _ =>
    dsimp only [operation]
    cases s <;> decide
  | getDocument d _ | putDocument d _ _ | deleteDocument d _ =>
    dsimp only [operation]
    cases d <;> decide
  | listItems c _ | putItem c _ _ | deleteItem c _ _ =>
    dsimp only [operation]
    cases c <;> decide
  | _ =>
    dsimp only [operation]
    decide

/-- The operation of a call can be read off its entry in the log, whatever the id in it. -/
theorem loggedOperation_listing (call : Call) : loggedOperation call.listing = call.operation := by
  have plain := List.all_eq_true.mp call.operation_regular.1
  unfold loggedOperation listing
  cases call.itemId? with
  | none => simp only [List.takeWhile_eq_self_iff.mpr plain, String.ofList_toList]
  | some id =>
    have colon : ":".toList = [':'] := rfl
    simp only [String.toList_append, List.append_assoc, colon]
    rw [List.takeWhile_append_of_pos plain]
    simp

end Call

/-! ## Tallies -/

namespace Tally

/-- The sum of the counts under labels that have a property. -/
def total (property : List String → Bool) (tally : Tally) : Nat :=
  ((tally.counts.filter fun entry => property entry.1).map (·.2)).sum

/-- One more event adds one to every total that it belongs to. -/
theorem total_raise (property : List String → Bool) (tally : Tally) (labels : List String) :
    (tally.raise labels).total property = tally.total property + if property labels then 1 else 0 := by
  obtain ⟨counts⟩ := tally
  simp only [raise, total]
  induction counts with
  | nil => by_cases own : property labels = true <;> simp [raiseIn, own]
  | cons entry rest ih =>
    simp only [raiseIn]
    split
    case isTrue same =>
      subst same
      by_cases own : property entry.1 = true
      · simp only [List.filter_cons, own, if_true, List.map_cons, List.sum_cons]
        omega
      · simp [own]
    case isFalse =>
      by_cases other : property entry.1 = true
      · simp only [List.filter_cons, other, if_true, List.map_cons, List.sum_cons, ih]
        omega
      · simpa [List.filter_cons, other] using ih

variable (events : List (List String)) (tally : Tally)

theorem total_foldl (property : List String → Bool) :
    (events.foldl raise tally).total property = tally.total property + events.countP property := by
  induction events generalizing tally with
  | nil => simp
  | cons event rest ih =>
    rw [List.foldl_cons, ih, total_raise, List.countP_cons]
    omega

theorem count_foldl (labels : List String) :
    (events.foldl raise tally).count labels = tally.count labels + events.count labels := by
  induction events generalizing tally with
  | nil => simp
  | cons event rest ih =>
    rw [List.foldl_cons, ih, count_raise, List.count_cons]
    by_cases same : labels = event
    · simp only [same, beq_self_eq_true, if_true]
      omega
    · have other : (event == labels) = false := beq_eq_false_iff_ne.mpr (Ne.symm same)
      simp [same, other]

end Tally

/-- The calls of an operation, summed over the verbs and outcomes that they are counted under. -/
def Counters.callsTo (counters : Counters) (operation : String) : Nat :=
  counters.apiCalls.total fun labels => labels[1]? == some operation

/-! ## Labels -/

/-- A label tells an operation: it has its name and its verb. -/
def CallLabel.Tells (label : CallLabel) (operation : String) : Prop :=
  label.operation = operation ∧ Verb.ofOperation operation = some label.verb

theorem Setting.putLabel_tells (setting : Setting) :
    setting.putLabel.Tells ("Put" ++ setting.resource) := by
  cases setting <;> exact ⟨rfl, rfl⟩

theorem Document.putLabel_tells (document : Document) :
    document.putLabel.Tells ("Put" ++ document.resource) := by
  cases document <;> exact ⟨rfl, rfl⟩

theorem Document.deleteLabel_tells (document : Document) :
    document.deleteLabel.Tells ("Delete" ++ document.deletedResource) := by
  cases document <;> exact ⟨rfl, rfl⟩

namespace Collection

variable (collection : Collection)

theorem listOperation_tells :
    CallLabel.Tells ⟨.readMany, collection.listOperation⟩ ("List" ++ collection.resource ++ "s") := by
  cases collection <;> exact ⟨rfl, rfl⟩

theorem putOperation_tells :
    CallLabel.Tells ⟨.update, collection.putOperation⟩ ("Put" ++ collection.resource) := by
  cases collection <;> exact ⟨rfl, rfl⟩

theorem deleteOperation_tells :
    CallLabel.Tells ⟨.delete, collection.deleteOperation⟩ ("Delete" ++ collection.resource) := by
  cases collection <;> exact ⟨rfl, rfl⟩

end Collection

/-! ## Passes that count their calls -/

namespace Pass

variable {α β σ : Type} {label : CallLabel} {call : Call} {pass : Pass α}

/-- Whatever it is answered, the pass notes every call as soon as it has ended, under a label that tells
the call, and it notes nothing else. -/
inductive CountsCalls : Pass α → Prop where
  | done (result : Except Fault α) : CountsCalls (.done result)
  | call {label : CallLabel} {call : Call} {rest : Except ApiError call.Reply → Pass α}
      (tells : label.Tells call.operation) (next : ∀ answer, CountsCalls (rest answer)) :
      CountsCalls (.ask call fun answer => .note ⟨label, failure? answer⟩ (rest answer))

namespace CountsCalls

theorem bind {next : α → Pass β} (first : CountsCalls pass) (second : ∀ value, CountsCalls (next value)) :
    CountsCalls (pass.bind next) := by
  induction first with
  | done result =>
    cases result with
    | ok value => exact second value
    | error fault => exact .done _
  | call tells _ ih => exact .call tells ih

theorem handle {recover : Fault → Pass α} (first : CountsCalls pass)
    (second : ∀ fault, CountsCalls (recover fault)) : CountsCalls (pass.handle recover) := by
  induction first with
  | done result =>
    cases result with
    | ok value => exact .done _
    | error fault => exact second fault
  | call tells _ ih => exact .call tells ih

theorem map (first : CountsCalls pass) (f : α → β) : CountsCalls (f <$> pass) :=
  first.bind fun _ => .done _

/-- In a run, the notes are those of the calls, in their order. -/
theorem notes_eq (counts : CountsCalls pass) (serve : Service Storage σ) (state : σ) :
    List.Forall₂ (fun (step : Call × σ) (ended : EndedCall) => ended.label.Tells step.1.operation ∧
      ended.error = failure? (serve step.1 step.2).1) (pass.trace serve state)
      (pass.notes serve state) := by
  induction counts generalizing state with
  | done result => exact .nil
  | call tells _ ih => exact .cons ⟨tells, rfl⟩ (ih _ _)

end CountsCalls

theorem call_counts (tells : label.Tells call.operation) : CountsCalls (Pass.call label call) := by
  rw [call_eq]
  refine .call tells fun answer => ?_
  cases answer <;> exact .done _

theorem callUnless_counts {codes : List String} (tells : label.Tells call.operation) :
    CountsCalls (callUnless codes label call) := by
  rw [callUnless_eq]
  refine .call tells fun answer => ?_
  rcases answer with e | reply
  · simp only
    split <;> exact .done _
  · exact .done _

/-! ### Reading -/

section Reading
variable (bucket : String)

theorem readSetting_counts {setting : Setting} (tells : label.Tells ("Get" ++ setting.resource)) :
    CountsCalls (readSetting label setting bucket) :=
  call_counts tells

theorem readDocument_counts {document : Document} (tells : label.Tells ("Get" ++ document.resource)) :
    CountsCalls (readDocument label document bucket) :=
  (callUnless_counts tells).map _

theorem readPolicy_counts (tells : label.Tells "GetBucketPolicy") :
    CountsCalls (readPolicy label bucket) :=
  (callUnless_counts tells).map _

theorem readAccelerate_counts (tells : label.Tells "GetBucketAccelerateConfiguration") :
    CountsCalls (readAccelerate label bucket) :=
  (callUnless_counts tells).map _

theorem readObjectLock_counts (tells : label.Tells "GetObjectLockConfiguration") :
    CountsCalls (readObjectLock label bucket) :=
  (callUnless_counts tells).map _

theorem readAcl_counts : CountsCalls (readAcl bucket) :=
  call_counts (show CallLabel.Tells _ "GetBucketAcl" from ⟨rfl, rfl⟩)

theorem readItems_counts (collection : Collection) : CountsCalls (readItems collection bucket) :=
  call_counts collection.listOperation_tells

end Reading

section Tags
variable (account arn : String)

theorem getResourceTags_counts : CountsCalls (getResourceTags account arn) :=
  (callUnless_counts (show CallLabel.Tells _ "ListTagsForResource" from ⟨rfl, rfl⟩)).map _

theorem currentTags_counts : CountsCalls (currentTags account arn) :=
  (callUnless_counts (show CallLabel.Tells _ "ListTagsForResource" from ⟨rfl, rfl⟩)).map _

theorem untag_counts (keys : List String) : CountsCalls (untag account arn keys) := by
  unfold untag
  split
  · exact .done _
  · exact call_counts (show CallLabel.Tells _ "UntagResource" from ⟨rfl, rfl⟩)

theorem putResourceTags_counts (desired : List Tag) :
    CountsCalls (putResourceTags account arn desired) := by
  refine (currentTags_counts account arn).bind fun current => ?_
  refine (untag_counts account arn _).bind fun _ => ?_
  split
  · exact .done _
  · exact call_counts (show CallLabel.Tells _ "TagResource" from ⟨rfl, rfl⟩)

theorem deleteResourceTags_counts : CountsCalls (deleteResourceTags account arn) :=
  (currentTags_counts account arn).bind fun _ => untag_counts account arn _

theorem syncResourceTags_counts (desired : Option Tagging) :
    CountsCalls (syncResourceTags account arn desired) := by
  unfold syncResourceTags
  split
  · exact putResourceTags_counts account arn _
  · exact deleteResourceTags_counts account arn

end Tags

theorem ofExcept_counts (result : Except Fault α) : CountsCalls (ofExcept result) :=
  .done result

theorem readDirectoryBucket_counts (location : Location) (spec : BucketSpec) :
    CountsCalls (readDirectoryBucket location spec) := by
  refine (readDocument_counts spec.name ⟨rfl, rfl⟩).bind fun encryption => ?_
  refine (readDocument_counts spec.name ⟨rfl, rfl⟩).bind fun lifecycle => ?_
  refine (readPolicy_counts spec.name ⟨rfl, rfl⟩).bind fun policy => ?_
  refine (ofExcept_counts _).bind fun target => ?_
  exact (getResourceTags_counts target.1 target.2).bind fun tagging => .done _

theorem readGeneralBucket_counts (spec : BucketSpec) : CountsCalls (readGeneralBucket spec) := by
  refine (readAccelerate_counts _ ⟨rfl, rfl⟩).bind fun accelerate => ?_
  refine (readItems_counts _ .analytics).bind fun analytics => ?_
  refine (readAcl_counts _).bind fun acl => ?_
  refine (readDocument_counts _ ⟨rfl, rfl⟩).bind fun cors => ?_
  refine (readDocument_counts _ ⟨rfl, rfl⟩).bind fun encryption => ?_
  refine (readItems_counts _ .intelligentTiering).bind fun intelligentTiering => ?_
  refine (readItems_counts _ .inventory).bind fun inventory => ?_
  refine (readDocument_counts _ ⟨rfl, rfl⟩).bind fun lifecycle => ?_
  refine (readSetting_counts _ ⟨rfl, rfl⟩).bind fun logging => ?_
  refine (readItems_counts _ .metrics).bind fun metrics => ?_
  refine (readSetting_counts _ ⟨rfl, rfl⟩).bind fun notification => ?_
  refine (readDocument_counts _ ⟨rfl, rfl⟩).bind fun ownershipControls => ?_
  refine (readPolicy_counts _ ⟨rfl, rfl⟩).bind fun policy => ?_
  refine (readDocument_counts _ ⟨rfl, rfl⟩).bind fun publicAccessBlock => ?_
  refine (readDocument_counts _ ⟨rfl, rfl⟩).bind fun replication => ?_
  refine (readSetting_counts _ ⟨rfl, rfl⟩).bind fun requestPayment => ?_
  refine (readDocument_counts _ ⟨rfl, rfl⟩).bind fun tagging => ?_
  refine (readSetting_counts _ ⟨rfl, rfl⟩).bind fun versioning => ?_
  refine (readDocument_counts _ ⟨rfl, rfl⟩).bind fun website => ?_
  exact (readObjectLock_counts _ ⟨rfl, rfl⟩).bind fun objectLock => .done _

theorem readObserved_counts (location : Location) (desired : BucketSpec) :
    CountsCalls (readObserved location desired) := by
  unfold readObserved
  split
  · exact readDirectoryBucket_counts location _
  · exact readGeneralBucket_counts _

/-! ### Writing -/

section Writing
variable (bucket : String)

theorem syncSetting_counts (setting : Setting) (desired : Option setting.Value) :
    CountsCalls (syncSetting setting bucket desired) :=
  call_counts setting.putLabel_tells

theorem syncDocument_counts (document : Document) (desired : Option document.Content) :
    CountsCalls (syncDocument document bucket desired) := by
  unfold syncDocument
  split
  · exact call_counts document.putLabel_tells
  · exact call_counts document.deleteLabel_tells

theorem syncPolicy_counts (desired : Option String) (directory : Bool) :
    CountsCalls (syncPolicy bucket desired directory) := by
  unfold syncPolicy
  split
  · exact call_counts (show CallLabel.Tells _ "PutBucketPolicy" from ⟨rfl, rfl⟩)
  · exact call_counts (show CallLabel.Tells _ "DeleteBucketPolicy" from ⟨rfl, rfl⟩)

theorem syncObjectLock_counts (desired : Option Bool) : CountsCalls (syncObjectLock bucket desired) :=
  call_counts (show CallLabel.Tells _ "PutObjectLockConfiguration" from ⟨rfl, rfl⟩)

theorem syncAcl_counts (desired : BucketSpec) : CountsCalls (syncAcl desired) :=
  call_counts (show CallLabel.Tells _ "PutBucketAcl" from ⟨rfl, rfl⟩)

theorem carryOut_counts (collection : Collection) (plan : List (ItemAction × collection.Item)) :
    CountsCalls (carryOut collection bucket plan) := by
  induction plan with
  | nil => exact .done _
  | cons step rest ih =>
    obtain ⟨action, item⟩ := step
    cases action with
    | keep => exact ih
    | put | update =>
      exact (call_counts collection.putOperation_tells).bind fun _ => ih.bind fun _ => .done _
    | delete =>
      exact (call_counts collection.deleteOperation_tells).bind fun _ => ih.bind fun _ => .done _

end Writing

section Parts
variable (location : Location) (desired observed : BucketSpec)

theorem write_counts (part : Part) : CountsCalls (part.write location desired observed) := by
  cases part with
  | setting s => exact (syncSetting_counts _ s _).bind fun _ => .done _
  | collection c => exact carryOut_counts _ c _
  | policy => exact (syncPolicy_counts _ _ _).bind fun _ => .done _
  | objectLock => exact (syncObjectLock_counts _ _).bind fun _ => .done _
  | acl => exact (syncAcl_counts _).bind fun _ => .done _
  | document d =>
    cases d with
    | tagging =>
      simp only [Part.write]
      split
      · refine (ofExcept_counts _).bind fun target => ?_
        exact (syncResourceTags_counts target.1 target.2 _).bind fun _ => .done _
      · exact (syncDocument_counts _ .tagging _).bind fun _ => .done _
    | _ => exact (syncDocument_counts _ _ _).bind fun _ => .done _

theorem writeParts_counts (parts : List Part) :
    CountsCalls (writeParts location desired observed parts) := by
  induction parts with
  | nil => exact .done _
  | cons part rest ih =>
    have first : CountsCalls (under part.property (part.write location desired observed)) :=
      (write_counts location desired observed part).handle fun _ => .done _
    exact first.bind fun _ => ih.bind fun _ => .done _

theorem create_counts : CountsCalls (create location desired) := by
  refine (call_counts (show CallLabel.Tells _ "CreateBucket" from ⟨rfl, rfl⟩)).bind
    fun created => ?_
  refine CountsCalls.bind ?_ fun _ => .done _
  exact (writeParts_counts location desired _ _).bind fun _ => .done _

theorem listBeside_counts (bucket : String) : CountsCalls (listBeside bucket) := by
  unfold listBeside
  split
  · exact (callUnless_counts ⟨rfl, rfl⟩).map _
  · exact (callUnless_counts ⟨rfl, rfl⟩).map _

theorem find_counts : CountsCalls (find location desired) := by
  rw [find_eq]
  refine (listBeside_counts desired.name).bind fun names => ?_
  split
  · exact ((readObserved_counts location desired).map _).handle fun _ => .done _
  · exact .done _

theorem settle_counts : CountsCalls (settle location desired observed) := by
  unfold settle
  simp only
  split
  · exact .done _
  · exact (writeParts_counts location _ _ _).map _

theorem sync_counts (adoption : AdoptionPolicy) : CountsCalls (sync location desired adoption) := by
  refine (ofExcept_counts _).bind fun _ => (ofExcept_counts _).bind fun arn => ?_
  refine (find_counts location desired).bind fun found => ?_
  cases found with
  | none =>
    simp only
    split
    · exact .done _
    · exact (create_counts location desired).map _
  | some seen => exact (settle_counts location desired seen).map _

end Parts

theorem delete_counts (bucket : String) : CountsCalls (delete bucket) :=
  (callUnless_counts (show CallLabel.Tells _ "DeleteBucket" from ⟨rfl, rfl⟩)).map _

end Pass

/-! ## One piece of work -/

/-- The labels that a call of a run has to be counted under. -/
def countedAs (step : Call × Store) : List String :=
  [(Verb.ofOperation step.1.operation).elim "" Verb.word, step.1.operation,
    endedWith (Store.serve step.1 step.2).1]

/-- The labels that a noted call is counted under. -/
def EndedCall.labels (ended : EndedCall) : List String :=
  [ended.label.verb.word, ended.label.operation, outcomeWord ended.error]

theorem recordCalls_apiCalls (calls : List EndedCall) (counters : Counters) :
    (calls.foldl Counters.recordCall counters).apiCalls
      = (calls.map EndedCall.labels).foldl Tally.raise counters.apiCalls := by
  induction calls generalizing counters with
  | nil => rfl
  | cons ended rest ih => exact ih _

/-- What a pass that counts its calls does to the log and to the counters: every call is in both once,
under its own words. -/
theorem Pass.CountsCalls.run_counted {α : Type} {pass : Pass α} (counts : pass.CountsCalls)
    (store : Store) (counters : Counters) :
    let steps := pass.trace Store.serve store
    let after := (pass.runNoting Store.serve Counters.recordCall (store, counters)).2
    after.1 = (pass.run Store.serve store).2 ∧ after.1.calls = store.calls ++ steps.map (·.1) ∧
      after.2.apiCalls = (steps.map countedAs).foldl Tally.raise counters.apiCalls := by
  have told : (pass.notes Store.serve store).map EndedCall.labels
      = (pass.trace Store.serve store).map countedAs := by
    rw [← List.forall₂_eq_eq_eq, List.forall₂_map_left_iff, List.forall₂_map_right_iff]
    refine (counts.notes_eq Store.serve store).flip.imp ?_
    rintro ended step ⟨⟨named, verb⟩, error⟩
    rw [EndedCall.labels, countedAs, verb, error, outcomeWord_failure, named]
    rfl
  simp only [runNoting_eq]
  refine ⟨trivial, Store.run_calls pass store, ?_⟩
  rw [recordCalls_apiCalls, told]

/-! ## A session -/

/-- A piece of work that is done on its own. -/
inductive Task where
  | sync (desired : BucketSpec) (adoption : AdoptionPolicy)
  | find (desired : BucketSpec)
  | readObserved (desired : BucketSpec)
  | create (desired : BucketSpec)
  | update (desired observed : BucketSpec) (delta : Delta)
  | delete (bucket : String)
  | syncSetting (setting : Setting) (bucket : String) (desired : Option setting.Value)
  | syncDocument (document : Document) (bucket : String) (desired : Option document.Content)
  | syncPolicy (bucket : String) (desired : Option String) (directory : Bool)
  | syncObjectLock (bucket : String) (desired : Option Bool)
  | syncItems (collection : Collection) (bucket : String) (desired latest : Option (List collection.Item))
  | readItems (collection : Collection) (bucket : String)
  | syncAcl (desired : BucketSpec)
  | readAcl (bucket : String)
  | getTags (account arn : String)
  | putTags (account arn : String) (desired : List Tag)
  | deleteTags (account arn : String)
  | syncTags (account arn : String) (desired : Option Tagging)

namespace Task

/-- The work of a task, without what it answers. -/
def pass (location : Location) : Task → Pass Unit
  | sync desired adoption => (fun _ => ()) <$> Pass.sync location desired adoption
  | find desired => (fun _ => ()) <$> Pass.find location desired
  | readObserved desired => (fun _ => ()) <$> Pass.readObserved location desired
  | create desired => (fun _ => ()) <$> Pass.create location desired
  | update desired observed delta => (fun _ => ()) <$> Pass.update location desired observed delta
  | delete bucket => Pass.delete bucket
  | syncSetting setting bucket desired => Pass.syncSetting setting bucket desired
  | syncDocument document bucket desired => Pass.syncDocument document bucket desired
  | syncPolicy bucket desired directory => Pass.syncPolicy bucket desired directory
  | syncObjectLock bucket desired => Pass.syncObjectLock bucket desired
  | syncItems collection bucket desired latest =>
      (fun _ => ()) <$> Pass.syncItems collection bucket desired latest
  | readItems collection bucket => (fun _ => ()) <$> Pass.readItems collection bucket
  | syncAcl desired => Pass.syncAcl desired
  | readAcl bucket => (fun _ => ()) <$> Pass.readAcl bucket
  | getTags account arn => (fun _ => ()) <$> Pass.getResourceTags account arn
  | putTags account arn desired => Pass.putResourceTags account arn desired
  | deleteTags account arn => Pass.deleteResourceTags account arn
  | syncTags account arn desired => Pass.syncResourceTags account arn desired

/-- Every task counts the calls that it makes. -/
theorem counts (location : Location) (task : Task) : Pass.CountsCalls (task.pass location) := by
  cases task with
  | sync desired adoption => exact (Pass.sync_counts location desired adoption).map _
  | find desired => exact (Pass.find_counts location desired).map _
  | readObserved desired => exact (Pass.readObserved_counts location desired).map _
  | create desired => exact (Pass.create_counts location desired).map _
  | update desired observed delta => exact (Pass.writeParts_counts location desired observed _).map _
  | delete bucket => exact Pass.delete_counts bucket
  | syncSetting setting bucket desired => exact Pass.syncSetting_counts bucket setting desired
  | syncDocument document bucket desired => exact Pass.syncDocument_counts bucket document desired
  | syncPolicy bucket desired directory => exact Pass.syncPolicy_counts bucket desired directory
  | syncObjectLock bucket desired => exact Pass.syncObjectLock_counts bucket desired
  | syncItems collection bucket desired latest =>
    exact (Pass.carryOut_counts bucket collection _).map _
  | readItems collection bucket => exact (Pass.readItems_counts bucket collection).map _
  | syncAcl desired => exact Pass.syncAcl_counts desired
  | readAcl bucket => exact (Pass.readAcl_counts bucket).map _
  | getTags account arn => exact (Pass.getResourceTags_counts account arn).map _
  | putTags account arn desired => exact Pass.putResourceTags_counts account arn desired
  | deleteTags account arn => exact Pass.deleteResourceTags_counts account arn
  | syncTags account arn desired => exact Pass.syncResourceTags_counts account arn desired

end Task

/-- Tasks one after the other, each with the operations that are made to fail meanwhile. -/
abbrev Session := List (Keyed String × Task)

namespace Session

variable (location : Location)

/-- The store and the counters at the end. A task that fails does not keep the next from being done. -/
def run : Session → Store × Counters → Store × Counters
  | [], state => state
  | (failures, task) :: rest, (store, counters) =>
      let start := ({ store with failures }, counters)
      run rest ((task.pass location).runNoting Store.serve Counters.recordCall start).2

/-- All calls that are made, each with the store that it finds. -/
def steps : Session → Store → List (Call × Store)
  | [], _ => []
  | (failures, task) :: rest, store =>
      let start := { store with failures }
      (task.pass location).trace Store.serve start
        ++ steps rest ((task.pass location).run Store.serve start).2

/-- Every call of a session is in the log and in the counters once. -/
theorem run_kept (session : Session) (store : Store) (counters : Counters) :
    (session.run location (store, counters)).1.calls
        = store.calls ++ (session.steps location store).map (·.1) ∧
      (session.run location (store, counters)).2.apiCalls
        = ((session.steps location store).map countedAs).foldl Tally.raise counters.apiCalls := by
  induction session generalizing store counters with
  | nil => simp [run, steps]
  | cons entry rest ih =>
    obtain ⟨failures, task⟩ := entry
    obtain ⟨left, logged, raised⟩ :=
      (task.counts location).run_counted { store with failures } counters
    simp only [run, steps, List.map_append, List.foldl_append]
    rw [← left, ← raised, ← List.append_assoc, ← logged]
    exact ih _ _

/-- Labels stand for the calls of their operation that ended as they say, if they have the verb of the
operation, and otherwise for no call. -/
theorem countedAs_eq_iff {step : Call × Store} {verb : Verb} {operation outcome : String} :
    countedAs step = [verb.word, operation, outcome] ↔ Verb.ofOperation operation = some verb ∧
      step.1.operation = operation ∧ endedWith (Store.serve step.1 step.2).1 = outcome := by
  obtain ⟨own, known⟩ := Option.isSome_iff_exists.mp step.1.operation_regular.2
  simp only [countedAs, known, Option.elim_some, List.cons.injEq, and_true]
  constructor
  · rintro ⟨word, rfl, rfl⟩
    exact ⟨known.trans (congrArg some (Verb.word_injective word)), rfl, rfl⟩
  · rintro ⟨own, rfl, rfl⟩
    exact ⟨congrArg Verb.word (Option.some.inj (known.symm.trans own)), rfl, rfl⟩

/-- Beginning with fresh counters, after any tasks in any order and whatever is made to fail: the counters
of an operation sum up to its entries in the log, and each counter is the number of the calls of its
operation that ended as it says; no operation is counted under two verbs. -/
theorem calls_counted_once (session : Session) (store : Store) :
    let steps := session.steps location store
    let after := (session.run location (store, {})).1
    let counters := (session.run location (store, {})).2
    after.calls = store.calls ++ steps.map (·.1) ∧
    (∀ operation, counters.callsTo operation
      = ((after.calls.drop store.calls.length).map Call.listing).countP
          fun entry => loggedOperation entry == operation) ∧
    ∀ verb operation outcome, counters.apiCalls.count [verb.word, operation, outcome]
      = if Verb.ofOperation operation = some verb then
          steps.countP fun step => step.1.operation == operation &&
            endedWith (Store.serve step.1 step.2).1 == outcome
        else 0 := by
  intro steps after counters
  obtain ⟨logged, raised⟩ := run_kept location session store {}
  have made : after.calls.drop store.calls.length = steps.map (·.1) := by
    rw [logged, List.drop_left]
  refine ⟨logged, fun operation => ?_, fun verb operation outcome => ?_⟩
  · have fresh : Tally.total (fun labels => labels[1]? == some operation) {} = 0 := rfl
    rw [made, Counters.callsTo, raised, Tally.total_foldl, fresh, Nat.zero_add]
    simp only [List.countP_map]
    refine List.countP_congr fun step _ => ?_
    simp [countedAs, Call.loggedOperation_listing]
  · have fresh : Tally.count {} [verb.word, operation, outcome] = 0 := rfl
    rw [raised, Tally.count_foldl, fresh, Nat.zero_add, List.count, List.countP_map]
    split
    case isTrue own =>
      refine List.countP_congr fun step _ => ?_
      simp [countedAs_eq_iff, own]
    case isFalse other =>
      refine List.countP_eq_zero.mpr fun step _ => ?_
      simp [countedAs_eq_iff, other]

end Session

end BucketSteward

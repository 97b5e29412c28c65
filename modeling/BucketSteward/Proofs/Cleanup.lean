import BucketSteward.Proofs.DeletionChoice
import BucketSteward.Proofs.Recovery
import BucketSteward.Proofs.Serving
import BucketSteward.Proofs.Turns

/-! Letting go of a bucket. A bucket that is to be kept is not even asked about; one that is to be deleted is
deleted with one call, and it counts as gone when the call succeeds or says that there is no such bucket.
Only then is the finalizer removed, and doing it all again changes nothing more. -/
namespace BucketSteward

open Program

/-! ## Deleting a bucket -/

namespace Pass

/-- The bucket is gone: it was deleted, or there is none of that name. -/
def Gone (answer : Except ApiError Unit) : Prop :=
  answer = .ok () ∨ ∃ e, answer = .error e ∧ e.code = some ApiError.noSuchBucket

variable {σ : Type} {storage : Service Storage σ} {bucket : String} {state : σ}

theorem delete_succeeds (gone : Gone (storage (.deleteBucket bucket) state).1) :
    (delete bucket).Succeeds storage state [.deleteBucket bucket] () (storage (.deleteBucket bucket) state).2 := by
  have asked : ∃ value, (callUnless [ApiError.noSuchBucket] ⟨.delete, "DeleteBucket"⟩
      (.deleteBucket bucket)).Succeeds storage state [.deleteBucket bucket] value (storage (.deleteBucket bucket) state).2 := by
    rcases gone with deleted | ⟨e, answer, code⟩
    · exact ⟨_, callUnless_succeeds (Prod.ext deleted rfl)⟩
    · have known : e.hasCode [ApiError.noSuchBucket] = true :=
        ApiError.hasCode_iff.mpr ⟨_, List.mem_cons_self, code⟩
      refine ⟨none, ?_, ?_⟩
      · rw [callUnless_run, answer]
        simp only [known, if_true]
      · rw [callUnless_trace, List.map_singleton]
  obtain ⟨value, asked⟩ := asked
  exact asked.bind (.done () _)

theorem delete_fails {e : ApiError} (answer : (storage (.deleteBucket bucket) state).1 = .error e)
    (other : e.code ≠ some ApiError.noSuchBucket) :
    (delete bucket).Fails storage state [.deleteBucket bucket] (.api e)
      (storage (.deleteBucket bucket) state).2 := by
  have unknown : ¬ e.hasCode [ApiError.noSuchBucket] = true := by
    intro known
    obtain ⟨code, among, coded⟩ := ApiError.hasCode_iff.mp known
    exact other (List.mem_singleton.mp among ▸ coded)
  have failed : (callUnless [ApiError.noSuchBucket] ⟨.delete, "DeleteBucket"⟩
      (.deleteBucket bucket)).Fails storage state [.deleteBucket bucket] (.api e) (storage (.deleteBucket bucket) state).2 := by
    constructor
    · rw [callUnless_run, answer]
      simp only [unknown, Bool.false_eq_true, if_false]
    · rw [callUnless_trace, List.map_singleton]
  exact failed.bind _

end Pass

namespace Store

variable (store : Store) (bucket : String)

/-- Deleting a bucket fails as it was made to; otherwise it removes the bucket, or there is none. -/
theorem serve_deleteBucket :
    let served := serve (.deleteBucket bucket) store
    (∃ code, store.failures.get? "DeleteBucket" = some code ∧
      served = (.error ⟨"DeleteBucket", some code, "injected failure"⟩, store.log (.deleteBucket bucket))) ∨
    (store.failures.get? "DeleteBucket" = none ∧ store.buckets.get? bucket ≠ none ∧
      served = (.ok (), { store.log (.deleteBucket bucket) with buckets := store.buckets.erase bucket })) ∨
    (store.failures.get? "DeleteBucket" = none ∧ store.buckets.get? bucket = none ∧
      served = (.error (notFound "DeleteBucket" ApiError.noSuchBucket), store.log (.deleteBucket bucket))) := by
  intro served
  rcases serve_cases store (.deleteBucket bucket) with ⟨code, injected, failed⟩ | ⟨spared, performed⟩
  · exact .inl ⟨code, injected, failed⟩
  · by_cases there : store.buckets.contains bucket = true
    · refine .inr (.inl ⟨spared, fun none => ?_, performed.trans (if_pos there)⟩)
      simp [Keyed.contains, none] at there
    · exact .inr (.inr ⟨spared, by simpa [Keyed.contains] using there, performed.trans (if_neg there)⟩)

/-- Deleting a bucket leaves every other bucket, all tags and which calls fail as they are. -/
theorem deleteBucket_keeps :
    let after := (serve (.deleteBucket bucket) store).2
    after = { store with buckets := after.buckets, calls := after.calls } ∧
      ∀ other, other ≠ bucket → after.buckets.get? other = store.buckets.get? other := by
  rcases store.serve_deleteBucket bucket with ⟨code, -, served⟩ | ⟨-, -, served⟩ | ⟨-, -, served⟩ <;>
    rw [served]
  · exact ⟨rfl, fun _ _ => rfl⟩
  · exact ⟨rfl, fun other apart => (Keyed.get?_erase _ _ _).trans (if_neg apart)⟩
  · exact ⟨rfl, fun _ _ => rfl⟩

/-- There is no such bucket, or every deletion is made to say that there is none. -/
def Lacks (store : Store) (bucket : String) : Prop :=
  store.failures.get? "DeleteBucket" = some ApiError.noSuchBucket ∨
    (store.failures.get? "DeleteBucket" = none ∧ store.buckets.get? bucket = none)

variable {store bucket}

theorem lacks_of_gone (gone : Pass.Gone (serve (.deleteBucket bucket) store).1) :
    (serve (.deleteBucket bucket) store).2.Lacks bucket := by
  rcases store.serve_deleteBucket bucket with ⟨code, injected, served⟩ | ⟨spared, -, served⟩ |
    ⟨spared, absent, served⟩ <;> rw [served] at gone ⊢
  · obtain ⟨e, answer, known⟩ := gone.resolve_left nofun
    cases answer
    exact .inl (injected.trans known)
  · exact .inr ⟨spared, (Keyed.get?_erase _ _ _).trans (if_pos rfl)⟩
  · exact .inr ⟨spared, absent⟩

/-- Deleting a bucket that is gone says so, and changes nothing but the log. -/
theorem Lacks.delete (lacks : store.Lacks bucket) :
    Pass.Gone (serve (.deleteBucket bucket) store).1 ∧
      (serve (.deleteBucket bucket) store).2 = store.log (.deleteBucket bucket) := by
  rcases store.serve_deleteBucket bucket with ⟨code, injected, served⟩ | ⟨spared, there, served⟩ |
    ⟨spared, absent, served⟩ <;> rw [served]
  · refine ⟨.inr ⟨_, rfl, ?_⟩, rfl⟩
    rcases lacks with known | ⟨spared, -⟩
    · exact injected.symm.trans known
    · cases injected.symm.trans spared
  · rcases lacks with injected | ⟨-, absent⟩
    · cases injected.symm.trans spared
    · exact absurd absent there
  · exact ⟨.inr ⟨_, rfl, rfl⟩, rfl⟩

end Store

namespace Turn

open DeletionPolicy (Decided levels resolve resolve_eq_iff)

variable {σ τ : Type} {storage : Service Storage σ} {cluster : Service Cluster τ} {policy : Policy}
  {resource : BucketResource} {annotations : Option (Keyed String)} {state : σ}

/-- The cluster takes every event about the resource. Where the resource does not decide, it has the
annotations of its namespace, or there is no such namespace. -/
structure Serves (cluster : Service Cluster τ) (resource : BucketResource)
    (annotations : Option (Keyed String)) : Prop where
  events : ∀ event, Answers cluster (.publish resource.subject event) (.ok ())
  home : resource.deletionPolicy? = none → Answers cluster (.getNamespace resource.home) (.ok annotations) ∨
    annotations = none ∧ ∃ e, e.isNotFound = true ∧ Answers cluster (.getNamespace resource.home) (.error e)

def deletionEvent (resource : BucketResource) : Event where
  reason := "DeleteRequested"
  note := "Delete `" ++ resource.name ++ "`"
  action := "Deleting"

/-- What a cleanup asks the cluster: the namespace is asked only if the resource does not decide. -/
def opening (resource : BucketResource) : List Surroundings.Request :=
  .inr (.publish resource.subject (deletionEvent resource)) ::
    if resource.deletionPolicy?.isNone then [.inr (.getNamespace resource.home)] else []

section Decision
variable (storage : Service Storage σ) (state : σ) (other : τ)

theorem namespaceAnnotations_succeeds (undecided : resource.deletionPolicy? = none)
    (serves : Serves cluster resource annotations) :
    (namespaceAnnotations resource.home).Succeeds (storage.beside cluster) (state, other)
      [.inr (.getNamespace resource.home)] annotations
      (state, (cluster (.getNamespace resource.home) other).2) := by
  rcases serves.home undecided with found | ⟨rfl, e, missing, refused⟩
  · exact (ask_succeeds storage state other found).bind (.done annotations _)
  · have answered := ask_succeeds storage state other refused
    refine answered.bind ?_
    simp only [missing, if_true]
    exact .done none _

/-- The policy is found by asking for the namespace alone, and only where it is needed. -/
theorem deletionPolicy_succeeds (policy : Policy) (serves : Serves cluster resource annotations) :
    ∃ final, (deletionPolicy policy resource).Succeeds (storage.beside cluster) (state, other)
      (if resource.deletionPolicy?.isNone then [.inr (.getNamespace resource.home)] else [])
      (resolve resource.deletionPolicy? annotations policy.deletion) (state, final) := by
  unfold deletionPolicy
  cases own : resource.deletionPolicy? with
  | some decided => exact ⟨other, .done decided _⟩
  | none =>
    have known := namespaceAnnotations_succeeds storage state other own serves
    exact ⟨_, known.bind (.done _ _)⟩

end Decision

/-- What is done with the bucket once the policy is known. -/
def letGo (resource : BucketResource) : DeletionPolicy → Turn Next
  | .delete => (pass (Pass.delete resource.spec.name)).bind fun _ => pure .afterChange
  | .retain => pure .afterChange

theorem cleanup_eq (policy : Policy) (resource : BucketResource) :
    cleanup policy resource = ((publish resource (deletionEvent resource)).bind fun _ =>
      deletionPolicy policy resource).bind (letGo resource) := by
  rw [bind_assoc]
  refine congrArg (Program.bind _) (funext fun _ => congrArg (Program.bind _) (funext fun decision => ?_))
  cases decision <;> rfl

section Outcome
variable (state : σ) (other : τ) (serves : Serves cluster resource annotations)

include serves in
theorem decision_succeeds (storage : Service Storage σ) (policy : Policy) :
    ∃ final, ((publish resource (deletionEvent resource)).bind fun _ =>
        deletionPolicy policy resource).Succeeds (storage.beside cluster) (state, other) (opening resource)
      (resolve resource.deletionPolicy? annotations policy.deletion) (state, final) := by
  have reported := demand_succeeds storage state other (serves.events (deletionEvent resource)) .cluster
  obtain ⟨final, known⟩ := deletionPolicy_succeeds storage state _ policy serves
  exact ⟨final, reported.bind known⟩

include serves

/-- A bucket that is to be kept is not asked about. -/
theorem cleanup_retains (storage : Service Storage σ)
    (kept : resolve resource.deletionPolicy? annotations policy.deletion = .retain) :
    ∃ final, (cleanup policy resource).Succeeds (storage.beside cluster) (state, other) (opening resource)
      .afterChange (state, final) := by
  obtain ⟨final, decided⟩ := decision_succeeds state other serves storage policy
  rw [kept] at decided
  have done : (letGo resource .retain).Succeeds (storage.beside cluster) (state, final) []
      Next.afterChange (state, final) := .done _ _
  have whole := decided.bind done
  rw [List.append_nil] at whole
  exact ⟨final, cleanup_eq policy resource ▸ whole⟩

/-- A bucket that is to be deleted is deleted with one call, and the cleanup is done when it is gone. -/
theorem cleanup_deletes
    (deleted : resolve resource.deletionPolicy? annotations policy.deletion = .delete)
    (gone : Pass.Gone (storage (.deleteBucket resource.spec.name) state).1) :
    ∃ final, (cleanup policy resource).Succeeds (storage.beside cluster) (state, other)
      (opening resource ++ [.inl (.deleteBucket resource.spec.name)]) .afterChange
      ((storage (.deleteBucket resource.spec.name) state).2, final) := by
  obtain ⟨final, decided⟩ := decision_succeeds state other serves storage policy
  rw [deleted] at decided
  have done := (Pass.delete_succeeds gone).onLeft cluster final
  exact ⟨final, cleanup_eq policy resource ▸ decided.bind (done.bind (.done Next.afterChange _))⟩

/-- When the call fails otherwise, so does the cleanup. -/
theorem cleanup_fails {e : ApiError}
    (deleted : resolve resource.deletionPolicy? annotations policy.deletion = .delete)
    (answer : (storage (.deleteBucket resource.spec.name) state).1 = .error e)
    (there : e.code ≠ some ApiError.noSuchBucket) :
    ∃ final, (cleanup policy resource).Fails (storage.beside cluster) (state, other)
      (opening resource ++ [.inl (.deleteBucket resource.spec.name)]) (.api e)
      ((storage (.deleteBucket resource.spec.name) state).2, final) := by
  obtain ⟨final, decided⟩ := decision_succeeds state other serves storage policy
  rw [deleted] at decided
  have failed := (Pass.delete_fails answer there).onLeft cluster final
  exact ⟨final, cleanup_eq policy resource ▸ decided.bind_fails (failed.bind _)⟩

/-- How a cleanup ends: the bucket is kept, or it is gone, or the call to delete it failed. -/
theorem cleanup_cases (storage : Service Storage σ) (policy : Policy) :
    let call : Call := .deleteBucket resource.spec.name
    let deletes := Decided policy.deletion (levels resource annotations) .delete
    ∃ final,
      (¬ deletes ∧ (cleanup policy resource).Succeeds (storage.beside cluster) (state, other)
        (opening resource) .afterChange (state, final)) ∨
      (deletes ∧ Pass.Gone (storage call state).1 ∧
        (cleanup policy resource).Succeeds (storage.beside cluster) (state, other)
          (opening resource ++ [.inl call]) .afterChange ((storage call state).2, final)) ∨
      (deletes ∧ ¬ Pass.Gone (storage call state).1 ∧
        ∃ fault, (cleanup policy resource).Fails (storage.beside cluster) (state, other)
          (opening resource ++ [.inl call]) fault ((storage call state).2, final)) := by
  intro call deletes
  by_cases decided : resolve resource.deletionPolicy? annotations policy.deletion = .delete
  · have delete : deletes := resolve_eq_iff.mp decided
    by_cases gone : Pass.Gone (storage call state).1
    · obtain ⟨final, done⟩ := cleanup_deletes state other serves decided gone
      exact ⟨final, .inr (.inl ⟨delete, gone, done⟩)⟩
    · have answered : ∃ e, (storage call state).1 = .error e ∧ e.code ≠ some ApiError.noSuchBucket := by
        cases answer : (storage call state).1 with
        | ok reply => exact absurd (.inl answer) gone
        | error e => exact ⟨e, rfl, fun known => gone (.inr ⟨e, answer, known⟩)⟩
      obtain ⟨e, answer, there⟩ := answered
      obtain ⟨final, failed⟩ := cleanup_fails state other serves decided answer there
      exact ⟨final, .inr (.inr ⟨delete, gone, _, failed⟩)⟩
  · have kept : resolve resource.deletionPolicy? annotations policy.deletion = .retain := by
      cases same : resolve resource.deletionPolicy? annotations policy.deletion with
      | delete => exact absurd same decided
      | retain => rfl
    obtain ⟨final, done⟩ := cleanup_retains state other serves storage kept
    exact ⟨final, .inl ⟨fun delete => decided (resolve_eq_iff.mpr delete), done⟩⟩

end Outcome

/-! ## The finalizer -/

section Finalizer
variable {location : Location} {now : ClusterTime} {index : Nat} {name : String}
  {asked : List Surroundings.Request} {start : σ × τ}

/-- The request that removes the finalizer from its place. -/
def release (resource : BucketResource) (name : String) (index : Nat) : ClusterRequest :=
  .patchFinalizers resource.home name (removingPatch index)

/-- A resource that is being deleted and has the finalizer at a place, so that the finalizer can be removed. -/
structure Releasable (resource : BucketResource) (name : String) (index : Nat) : Prop where
  found : resource.finalizers.findIdx? (· == finalizerName) = some index
  deleting : resource.isBeingDeleted = true
  named : resource.metadata.name = some name
  sendable : (release resource name index).defect? = none

theorem guarded_deleting (releasable : Releasable resource name index) (apply cleanup : Turn Next) :
    guarded resource apply cleanup = (cleanup.mapFault .cleanupFailed).bind fun next =>
      (demand .removeFinalizer (release resource name index)).bind fun _ => pure next := by
  rw [guarded, releasable.found, releasable.deleting]
  simp only [named, releasable.named]
  rfl

/-- The finalizer is removed after a cleanup that is done. -/
theorem release_mem_of_succeeds (releasable : Releasable resource name index) {next : Next} {after : σ × τ}
    (done : (cleanup policy resource).Succeeds (storage.beside cluster) start asked next after) :
    .inr (release resource name index)
      ∈ ((reconcile policy location now resource).trace (storage.beside cluster) start).map (·.1) := by
  have first : .inr (release resource name index)
      ∈ ((demand .removeFinalizer (release resource name index)).trace (storage.beside cluster) after).map (·.1) := by
    rw [demand, bind_eq, trace_bind, ask, releasable.sendable, List.map_append]
    exact List.mem_append_left _ List.mem_cons_self
  rw [reconcile, guarded_deleting releasable, trace_handle, List.map_append, trace_bind,
    (done.mapFault Fault.cleanupFailed).run, List.map_append]
  apply List.mem_append_left
  apply List.mem_append_right
  simp only [trace_bind, List.map_append]
  exact List.mem_append_left _ first

/-- The finalizer stays after a cleanup that failed. -/
theorem release_not_mem_of_fails (releasable : Releasable resource name index)
    (serves : Serves cluster resource annotations) {fault : Fault} {state after : σ} {other middle : τ}
    (failed : (cleanup policy resource).Fails (storage.beside cluster) (state, other) asked fault
      (after, middle)) (spared : .inr (release resource name index) ∉ asked) :
    .inr (release resource name index)
      ∉ ((reconcile policy location now resource).trace (storage.beside cluster) (state, other)).map (·.1) := by
  have stopped := guarded_deleting releasable (apply policy location now resource) (cleanup policy resource)
    ▸ (failed.mapFault Fault.cleanupFailed).bind _
  obtain ⟨final, ended⟩ := reconcile_fails serves.events stopped
  rw [ended.trace, List.mem_append, not_or]
  exact ⟨spared, by simp [release]⟩

end Finalizer

/-! ## The cleanup of a store -/

theorem opening_calls (resource : BucketResource) : (opening resource).filterMap (·.getLeft?) = [] := by
  unfold opening
  split <;> rfl

theorem opening_calls_concat (resource : BucketResource) (call : Call) :
    (opening resource ++ [.inl call] : List Surroundings.Request).filterMap (·.getLeft?) = [call] := by
  rw [List.filterMap_append, opening_calls]
  rfl

theorem release_not_mem (resource : BucketResource) (name : String) (index : Nat) (call : Call) :
    .inr (release resource name index) ∉ opening resource ++ [.inl call] := by
  unfold opening
  split <;> simp [release]

/-- Where nothing is to be deleted, or the bucket is gone already, a cleanup is done and changes nothing but
the log. -/
theorem cleanup_settled {store : Store} (serves : Serves cluster resource annotations) (state : τ)
    (settled : ¬ Decided policy.deletion (levels resource annotations) .delete ∨
      store.Lacks resource.spec.name) :
    ∃ after final, (cleanup policy resource).run (Store.serve.beside cluster) (store, state)
      = (.ok .afterChange, after, final) ∧ after = { store with calls := after.calls } := by
  obtain ⟨final, ⟨-, done⟩ | ⟨delete, -, done⟩ | ⟨delete, there, -⟩⟩ :=
    cleanup_cases store state serves Store.serve policy
  · exact ⟨store, final, done.run, rfl⟩
  · obtain ⟨-, log⟩ := (settled.resolve_left (not_not_intro delete)).delete
    rw [log] at done
    exact ⟨_, final, done.run, rfl⟩
  · exact absurd (settled.resolve_left (not_not_intro delete)).delete.1 there

/-- **A cleanup deletes the bucket exactly when that is decided.** Whatever the annotations, the default, the
store and its failures, while the cluster serves the resource: the bucket is deleted with one call exactly
when the first level that names a policy says so, or the default where none does, and otherwise no call is
made and the store is left alone. The cleanup is done exactly when nothing was to be deleted or the bucket
is gone, and exactly then is the finalizer removed. Every other bucket, all tags and which calls fail are
left as they are. And once it is done, it is done whenever it is repeated, and nothing but the log changes. -/
theorem cleanup_as_decided (policy : Policy) (resource : BucketResource)
    (annotations : Option (Keyed String)) (cluster : Service Cluster τ) (store : Store) (state : τ)
    (serves : Serves cluster resource annotations) :
    let bucket := resource.spec.name
    let serve := Store.serve.beside cluster
    let turn := cleanup policy resource
    let result := turn.run serve (store, state)
    let calls := (turn.trace serve (store, state)).filterMap (·.1.getLeft?)
    let deletes := Decided policy.deletion (levels resource annotations) .delete
    (¬ deletes ↔ Decided policy.deletion (levels resource annotations) .retain) ∧
    (calls = [.deleteBucket bucket] ↔ deletes) ∧
    (¬ deletes → calls = [] ∧ result.2.1 = store) ∧
    ((∃ next, result.1 = .ok next) ↔
      ¬ deletes ∨ Pass.Gone (Store.serve (.deleteBucket bucket) store).1) ∧
    (∀ location now name index, Releasable resource name index →
      (.inr (release resource name index)
          ∈ ((reconcile policy location now resource).trace serve (store, state)).map (·.1) ↔
        ∃ next, result.1 = .ok next)) ∧
    result.2.1 = { store with buckets := result.2.1.buckets, calls := result.2.1.calls } ∧
    (∀ other, other ≠ bucket → result.2.1.buckets.get? other = store.buckets.get? other) ∧
    ∀ next, result.1 = .ok next → ∀ later,
      let again := turn.run serve (result.2.1, later)
      again.1 = .ok next ∧ again.2.1 = { result.2.1 with calls := again.2.1.calls } := by
  intro bucket serve turn result calls deletes
  have either : ¬ deletes ↔ Decided policy.deletion (levels resource annotations) .retain := by
    simp only [deletes, ← resolve_eq_iff]
    cases resolve resource.deletionPolicy? annotations policy.deletion <;> simp
  have made {asked : List Surroundings.Request}
      (traced : (turn.trace serve (store, state)).map (·.1) = asked) : calls = asked.filterMap (·.getLeft?) := by
    rw [← traced, List.filterMap_map]
    rfl
  -- What is left by a cleanup that is done is settled, so nothing but the log changes when it is repeated.
  have repeats {after : Store} {final : τ} (ran : result = (.ok .afterChange, after, final))
      (settled : ¬ deletes ∨ after.Lacks bucket) : ∀ next, result.1 = .ok next → ∀ later,
        let again := turn.run serve (result.2.1, later)
        again.1 = .ok next ∧ again.2.1 = { result.2.1 with calls := again.2.1.calls } := by
    rw [ran]
    rintro next ⟨⟩ later again
    obtain ⟨left, last, ranAgain, same⟩ := cleanup_settled serves later settled
    have ended : again = (.ok .afterChange, left, last) := ranAgain
    rw [ended]
    exact ⟨rfl, same⟩
  obtain ⟨keeps, others⟩ := store.deleteBucket_keeps bucket
  obtain ⟨final, ⟨kept, done⟩ | ⟨delete, gone, done⟩ | ⟨delete, there, fault, failed⟩⟩ :=
    cleanup_cases store state serves Store.serve policy
  · have ran : result = (.ok .afterChange, store, final) := done.run
    have finished : ∃ next, result.1 = .ok next := ⟨_, congrArg Prod.fst ran⟩
    have silent : calls = [] := (made done.trace).trans (opening_calls resource)
    refine ⟨either, iff_of_false (by rw [silent]; exact nofun) kept, fun _ => ⟨silent, by rw [ran]⟩,
      iff_of_true finished (.inl kept), fun location now name index releasable => ?_, by rw [ran],
      fun _ _ => by rw [ran], repeats ran (.inl kept)⟩
    exact iff_of_true (release_mem_of_succeeds releasable done) finished
  · have ran : result = (.ok .afterChange, (Store.serve (.deleteBucket bucket) store).2, final) := done.run
    have finished : ∃ next, result.1 = .ok next := ⟨_, congrArg Prod.fst ran⟩
    have asked : calls = [.deleteBucket bucket] := (made done.trace).trans (opening_calls_concat resource _)
    refine ⟨either, iff_of_true asked delete, fun kept => absurd delete kept,
      iff_of_true finished (.inr gone), fun location now name index releasable => ?_,
      by rw [ran]; exact keeps, by rw [ran]; exact others, repeats ran (.inr (Store.lacks_of_gone gone))⟩
    exact iff_of_true (release_mem_of_succeeds releasable done) finished
  · have ran : result = (.error fault, (Store.serve (.deleteBucket bucket) store).2, final) := failed.run
    have unfinished : ¬ ∃ next, result.1 = .ok next := by simp [ran]
    have asked : calls = [.deleteBucket bucket] := (made failed.trace).trans (opening_calls_concat resource _)
    refine ⟨either, iff_of_true asked delete, fun kept => absurd delete kept,
      iff_of_false unfinished (not_or.mpr ⟨not_not_intro delete, there⟩),
      fun location now name index releasable => ?_, by rw [ran]; exact keeps, by rw [ran]; exact others,
      fun next ended => absurd ⟨next, ended⟩ unfinished⟩
    exact iff_of_false (release_not_mem_of_fails releasable serves failed
      (release_not_mem resource name index _)) unfinished

/-- The resource says nothing that is recognised and its namespace says in its own spelling to delete, so the
bucket is deleted, though the default is to retain it; its neighbour stays, and the finalizer is removed from
the second place. -/
theorem namespace_deletes_the_bucket :
    let now : ClusterTime := ⟨0, 0, by decide, by decide, by decide, by decide⟩
    let resource : BucketResource := {
      metadata := {
        name := some "logs"
        namespaceName := some "team"
        annotations := some (Keyed.ofList [(DeletionPolicy.annotation, "keep")])
        deletionTimestamp := some now
        finalizers := some ["other", finalizerName] }
      spec := { name := "logs" } }
    let policy : Policy := { deletion := .retain }
    let annotations := Keyed.ofList [(DeletionPolicy.namespaceAnnotation, " DELETE\t")]
    let store : Store := { buckets := Keyed.ofList [("logs", {}), ("rows", { policy := some "words" })] }
    let cluster : Service Cluster Unit := fun request state =>
      (match request with
        | .getNamespace _ => .ok (some annotations)
        | .publish _ _ | .patchStatus _ _ _ | .patchFinalizers _ _ _ => .ok (), state)
    let serve := Store.serve.beside cluster
    let turn := cleanup policy resource
    let result := turn.run serve (store, ())
    (turn.trace serve (store, ())).filterMap (·.1.getLeft?) = [.deleteBucket "logs"] ∧
      (∃ next, result.1 = .ok next) ∧
      result.2.1.buckets.get? "rows" = some { policy := some "words" } ∧
      .inr (release resource "logs" 1) ∈ ((reconcile policy ⟨none, "us-east-1"⟩ now resource).trace serve
        (store, ())).map (·.1) := by
  intro now resource policy annotations store cluster
  dsimp only
  have serves : Serves cluster resource (some annotations) := by
    refine ⟨fun event => ⟨?_, fun _ => rfl⟩, fun _ => .inl ⟨by decide +kernel, fun _ => rfl⟩⟩
    show (ClusterRequest.publish resource.subject (deletionEvent resource)).defect? = none
    decide +kernel
  have releasable : Releasable resource "logs" 1 :=
    ⟨by decide +kernel, rfl, rfl, by decide +kernel⟩
  have deletes : Decided policy.deletion (levels resource (some annotations)) .delete :=
    resolve_eq_iff.mp (by decide +kernel)
  obtain ⟨-, asks, -, ends, released, -, others, -⟩ :=
    cleanup_as_decided policy resource _ cluster store () serves
  have gone : Pass.Gone (Store.serve (.deleteBucket "logs") store).1 := .inl (by decide +kernel)
  have done := ends.mpr (.inr gone)
  have beside : store.buckets.get? "rows" = some { policy := some "words" } := rfl
  have apart : "rows" ≠ resource.spec.name := by decide
  refine ⟨asks.mpr deletes, done, (others "rows" apart).trans beside, ?_⟩
  exact (released _ now _ _ releasable).mpr done

end Turn

end BucketSteward

import BucketSteward.Proofs.Discipline
import BucketSteward.Turn

/-! Runs of turns. A pass inside a turn runs as it does alone: it asks the same of the storage service,
ends alike, and leaves the cluster as it is. A request to the cluster that is answered alike in every state
is asked once, and the turn goes on with the answer; so what a turn asks and how it ends is put together
from what its parts do. -/
namespace BucketSteward

/-! ## Faults handled, and programs beside others -/

namespace Program

variable {I J : Interface} {ε δ α σ τ : Type}

section Runs
variable {serve : Service I σ} {program : Program I ε α} {state middle after : σ}
  {asked more : List I.Request} {value : α} {fault : ε}

theorem Succeeds.handle (first : program.Succeeds serve state asked value after)
    (recover : ε → Program I δ α) : (program.handle recover).Succeeds serve state asked value after := by
  constructor
  · rw [run_handle, first.run]
  · rw [trace_handle, first.run, List.append_nil, first.trace]

/-- What is done after a fault is asked after what led to it. -/
theorem Fails.handle {recover : ε → Program I δ α} {other : δ}
    (first : program.Fails serve state asked fault middle)
    (second : (recover fault).Fails serve middle more other after) :
    (program.handle recover).Fails serve state (asked ++ more) other after := by
  constructor
  · rw [run_handle, first.run]
    exact second.run
  · rw [trace_handle, first.run, List.map_append, first.trace]
    exact congrArg _ second.trace

theorem Succeeds.mapFault (first : program.Succeeds serve state asked value after) (f : ε → δ) :
    (program.mapFault f).Succeeds serve state asked value after :=
  first.handle _

theorem Fails.mapFault (first : program.Fails serve state asked fault after) (f : ε → δ) :
    (program.mapFault f).Fails serve state asked (f fault) after := by
  constructor
  · rw [run_mapFault, first.run]
    rfl
  · rw [trace_mapFault, first.trace]

theorem fail_fails (fault : ε) (state : σ) : (fail fault : Program I ε α).Fails serve state [] fault state :=
  ⟨rfl, rfl⟩

theorem run_attempt (serve : Service I σ) (program : Program I ε α) (state : σ) :
    (program.attempt : Program I δ _).run serve state
      = (.ok (program.run serve state).1, (program.run serve state).2) := by
  induction program generalizing state with
  | done result => rfl
  | ask request rest ih => exact ih _ _
  | note entry rest ih => exact ih _

theorem trace_attempt (serve : Service I σ) (program : Program I ε α) (state : σ) :
    (program.attempt : Program I δ _).trace serve state = program.trace serve state := by
  induction program generalizing state with
  | done result => rfl
  | ask request rest ih => exact congrArg _ (ih _ _)
  | note entry rest ih => exact ih _

/-- An attempt that comes to a fault answers it. -/
theorem Fails.attempt (failure : program.Fails serve state asked fault after) :
    (program.attempt : Program I δ _).Succeeds serve state asked (.error fault) after := by
  constructor
  · rw [run_attempt, failure.run]
  · rw [trace_attempt, failure.trace]

end Runs

section Beside
variable (left : Service I σ) (right : Service J τ) (program : Program I ε α) (state : σ) (other : τ)

/-- A program over the first of two services runs as it does alone and leaves the other as it is. -/
theorem run_onLeft : (program.onLeft J).run (left.beside right) (state, other)
    = ((program.run left state).1, (program.run left state).2, other) := by
  induction program generalizing state with
  | done result => rfl
  | ask request rest ih => exact ih _ _
  | note entry rest ih => exact ih _

theorem trace_onLeft : ((program.onLeft J).trace (left.beside right) (state, other)).map (·.1)
    = (program.trace left state).map fun step => .inl step.1 := by
  induction program generalizing state with
  | done result => rfl
  | ask request rest ih => exact congrArg _ (ih _ _)
  | note entry rest ih => exact ih _

variable {left program state} {asked : List I.Request} {value : α} {fault : ε} {after : σ}

theorem Succeeds.onLeft (success : program.Succeeds left state asked value after) :
    (program.onLeft J).Succeeds (left.beside right) (state, other) (asked.map .inl) value
      (after, other) := by
  constructor
  · rw [run_onLeft, success.run]
  · rw [trace_onLeft, ← success.trace, List.map_map]
    rfl

theorem Fails.onLeft (failure : program.Fails left state asked fault after) :
    (program.onLeft J).Fails (left.beside right) (state, other) (asked.map .inl) fault
      (after, other) := by
  constructor
  · rw [run_onLeft, failure.run]
  · rw [trace_onLeft, ← failure.trace, List.map_map]
    rfl

end Beside

end Program

/-! ## Requests to the cluster -/

namespace Turn

open Program

variable {σ τ : Type} {cluster : Service Cluster τ} {request : ClusterRequest} {resource : BucketResource}

/-- A request that can be sent, and that the cluster answers alike in every state. -/
structure Answers (cluster : Service Cluster τ) (request : ClusterRequest)
    (answer : Except ClusterError request.Reply) : Prop where
  sendable : request.defect? = none
  answer : ∀ state, (cluster request state).1 = answer

section Requests
variable (storage : Service Storage σ) (state : σ) (other : τ)

theorem ask_succeeds {answer : Except ClusterError request.Reply}
    (answers : Answers cluster request answer) :
    (ask request).Succeeds (storage.beside cluster) (state, other) [.inr request] answer
      (state, (cluster request other).2) := by
  unfold ask
  rw [answers.sendable]
  refine ⟨?_, rfl⟩
  show (Except.ok (cluster request other).1, _) = _
  rw [answers.answer]

theorem demand_succeeds {reply : request.Reply} (answers : Answers cluster request (.ok reply))
    (asFault : ClusterError → Fault) :
    (demand asFault request).Succeeds (storage.beside cluster) (state, other) [.inr request] reply
      (state, (cluster request other).2) :=
  (ask_succeeds storage state other answers).bind (.done _ _)

end Requests

/-- What a fault is reported as. -/
def failureEvent (fault : Fault) : Event where
  type := .warning
  reason := "FailedReconcile"
  note := fault.note
  action := "Reconcile"

/-- What goes wrong under the finalizer's guard is reported, and then it is the turn's fault. -/
theorem reconcile_fails {storage : Service Storage σ} {policy : Policy} {location : Location}
    {now : ClusterTime} {asked : List Surroundings.Request} {fault : Fault} {start : σ × τ} {after : σ}
    {middle : τ} (events : ∀ event, Answers cluster (.publish resource.subject event) (.ok ()))
    (failed : (guarded resource (apply policy location now resource) (cleanup policy resource)).Fails
      (storage.beside cluster) start asked fault (after, middle)) :
    ∃ final, (reconcile policy location now resource).Fails (storage.beside cluster) start
      (asked ++ [.inr (.publish resource.subject (failureEvent fault))]) fault (after, final) := by
  have reported := demand_succeeds storage after middle (events (failureEvent fault)) .cluster
  exact ⟨_, failed.handle (reported.bind_fails (fail_fails fault _))⟩

end Turn

end BucketSteward

import BucketSteward.Proofs.ConditionHistory
import BucketSteward.Proofs.Recovery
import BucketSteward.Proofs.Turns

/-! Whether a fault is terminal, and what follows from it. The property that was synced and the phase of the
finalizer are layers around a cause, and the cause alone decides. A turn whose pass fails writes its verdict
into the status from the bare fault, and waits by that of the fault inside the finalizer's phase; since a
layer does not count, the two agree: what is shown as terminal is left until the next comparison, and what
is shown as recoverable is soon tried again. -/
namespace BucketSteward

/-! ## Causes and layers -/

/-- What surrounds a fault without being its cause. -/
inductive Layer where
  | property (name : String)
  | apply
  | cleanup

/-- A fault inside a layer. -/
def Layer.around : Layer → Fault → Fault
  | property name, fault => .property name fault
  | apply, fault => .applyFailed fault
  | cleanup, fault => .cleanupFailed fault

namespace Fault

/-- The innermost fault. -/
def cause : Fault → Fault
  | property _ source | applyFailed source | cleanupFailed source => cause source
  | fault => fault

/-- The resource asks for what can not be, an account is missing, or a service answered with one of the
codes that say so. -/
inductive Hopeless (codes : List String) : Fault → Prop where
  | invalid (message : String) : Hopeless codes (.invalid message)
  | missingAccount (bucket : String) : Hopeless codes (.missingAccount bucket)
  | refused {e : ApiError} {code : String} (coded : e.code = some code) (known : code ∈ codes) :
      Hopeless codes (.api e)

/-- The fault is left until the next comparison, whenever that is. -/
def AwaitsResync (policy : Policy) (fault : Fault) : Prop :=
  ∀ seconds, fault.retryAfter { policy with resyncSeconds := seconds } = seconds

/-- The next attempt comes soon, whenever the next comparison is. -/
def RetriesSoon (policy : Policy) (fault : Fault) : Prop :=
  ∀ seconds, fault.retryAfter { policy with resyncSeconds := seconds } = retrySeconds

variable (codes : List String) (policy : Policy) (fault : Fault)

theorem isTerminal_around (layer : Layer) :
    (layer.around fault).isTerminal codes = fault.isTerminal codes := by
  cases layer <;> rfl

/-- Every fault is its cause inside layers. -/
theorem exists_layers : ∃ layers : List Layer, fault = layers.foldr Layer.around fault.cause := by
  have inside (layer : Layer) {source cause : Fault} :
      (∃ layers : List Layer, source = layers.foldr Layer.around cause) →
        ∃ layers : List Layer, layer.around source = layers.foldr Layer.around cause := by
    rintro ⟨layers, rfl⟩
    exact ⟨layer :: layers, rfl⟩
  induction fault with
  | property name source ih => exact inside (.property name) ih
  | applyFailed source ih => exact inside .apply ih
  | cleanupFailed source ih => exact inside .cleanup ih
  | _ => exact ⟨[], rfl⟩

/-- There is no layer around a cause. -/
theorem cause_ne_around (layer : Layer) (inner : Fault) : fault.cause ≠ layer.around inner := by
  induction fault with
  | property name source ih | applyFailed source ih | cleanupFailed source ih => exact ih
  | _ => cases layer <;> exact nofun

/-- The cause alone decides whether a fault is terminal. -/
theorem isTerminal_iff : fault.isTerminal codes = true ↔ fault.cause.Hopeless codes := by
  induction fault with
  | property name source ih | applyFailed source ih | cleanupFailed source ih => exact ih
  | invalid message => exact iff_of_true rfl (.invalid message)
  | missingAccount bucket => exact iff_of_true rfl (.missingAccount bucket)
  | api e =>
    rw [isTerminal, ApiError.hasCode_iff]
    constructor
    · rintro ⟨code, known, coded⟩
      exact .refused coded known
    · intro hopeless
      cases hopeless with
      | refused coded known => exact ⟨_, known, coded⟩
  | unreadable | cluster _ | addFinalizer _ | removeFinalizer _ | unnamedResource | invalidFinalizer =>
    exact iff_of_false Bool.false_ne_true nofun

/-! ## Waiting -/

theorem awaitsResync_iff : fault.AwaitsResync policy ↔ fault.isTerminal policy.terminalCodes = true := by
  unfold AwaitsResync retryAfter
  constructor
  · intro waits
    by_contra recoverable
    have soon := waits (retrySeconds + 1)
    rw [if_neg recoverable] at soon
    exact absurd soon.symm (Nat.succ_ne_self _)
  · intro hopeless seconds
    rw [if_pos hopeless]

theorem retriesSoon_iff : fault.RetriesSoon policy ↔ ¬ fault.isTerminal policy.terminalCodes = true := by
  unfold RetriesSoon retryAfter
  constructor
  · intro soon hopeless
    have waits := soon (retrySeconds + 1)
    rw [if_pos hopeless] at waits
    exact absurd waits (Nat.succ_ne_self _)
  · intro recoverable seconds
    rw [if_neg recoverable]

end Fault

/-! ## What the status shows -/

namespace BucketStatus

open BucketCondition

/-- The status tells what the turn does about a fault. -/
structure Announces (policy : Policy) (status : BucketStatus) (fault : Fault) : Prop where
  terminal : Shows status terminal "True" ↔ fault.AwaitsResync policy
  unsynced : Shows status resourceSynced "False" ↔ fault.AwaitsResync policy
  recoverable : Shows status recoverable "True" ↔ fault.RetriesSoon policy
  unknown : Shows status resourceSynced "Unknown" ↔ fault.RetriesSoon policy

/-- The conditions that a failed pass leaves, each with its status. -/
theorem shows_next_error {previous : Option BucketStatus} {location : Location} {codes : List String}
    {now : ClusterTime} {fault : Fault} {type word : String} :
    Shows (next previous location codes now (.error fault)) type word ↔
      if fault.isTerminal codes then (type = resourceSynced ∧ word = "False") ∨ (type = terminal ∧ word = "True")
      else (type = resourceSynced ∧ word = "Unknown") ∨ (type = recoverable ∧ word = "True") := by
  simp only [Shows, conditionsOf, Option.getD_some, conditions_next, conditionsAfter]
  split <;> simp [transition, eq_comm]

theorem announces_next (policy : Policy) (previous : Option BucketStatus) (location : Location)
    (now : ClusterTime) (fault : Fault) (layer : Layer) :
    Announces policy (next previous location policy.terminalCodes now (.error fault))
      (layer.around fault) := by
  have distinct : resourceSynced ≠ terminal ∧ resourceSynced ≠ recoverable ∧ recoverable ≠ terminal := by
    decide
  constructor <;>
    simp only [shows_next_error, Fault.awaitsResync_iff, Fault.retriesSoon_iff, Fault.isTerminal_around] <;>
    split <;> simp [distinct.2.2.symm, *]

end BucketStatus

/-! ## A turn whose pass fails -/

namespace Turn

open Program

variable {σ τ : Type} {storage : Service Storage σ} {cluster : Service Cluster τ}
  {location : Location} {resource : BucketResource} {fault : Fault} {state after : σ} {calls : List Call}

/-- The cluster takes every event about a resource and every status of it. -/
structure Accepts (cluster : Service Cluster τ) (resource : BucketResource) : Prop where
  events : ∀ event, Answers cluster (.publish resource.subject event) (.ok ())
  statuses : ∀ status, Answers cluster (.patchStatus resource.home resource.name status) (.ok ())

/-- A pass that fails is written into the status, and its fault is the turn's. -/
theorem apply_fails (policy : Policy) (now : ClusterTime) (accepts : Accepts cluster resource)
    (failed : (Pass.sync location resource.spec resource.adoptionPolicy).Fails storage state calls fault after)
    (other : τ) :
    ∃ final, (apply policy location now resource).Fails (storage.beside cluster) (state, other)
      (calls.map .inl ++ [.inr (.patchStatus resource.home resource.name
        (BucketStatus.next resource.status location policy.terminalCodes now (.error fault)))])
      fault (after, final) := by
  have patched := demand_succeeds storage after other (accepts.statuses
    (BucketStatus.next resource.status location policy.terminalCodes now (.error fault))) .cluster
  exact ⟨_, (failed.onLeft cluster other).attempt.bind_fails (patched.bind_fails (fail_fails fault _))⟩

/-- A resource with the finalizer that is not being deleted is brought in line. -/
theorem guarded_kept (guards : finalizerName ∈ resource.finalizers)
    (kept : resource.isBeingDeleted = false) (apply cleanup : Turn Next) :
    guarded resource apply cleanup = apply.mapFault .applyFailed := by
  obtain ⟨index, found⟩ : ∃ index, resource.finalizers.findIdx? (· == finalizerName) = some index := by
    rw [← Option.isSome_iff_exists, List.findIdx?_isSome, List.any_eq_true]
    exact ⟨finalizerName, guards, beq_self_eq_true finalizerName⟩
  rw [guarded, found, kept]

/-- **The verdict on a fault is that of its cause, and status and waiting agree on it.** Every fault is a
cause inside layers, around the cause there is no further layer, and it is terminal exactly when the cause
is hopeless. A status that follows from the fault announces what the turn does about the fault inside the
finalizer's phase. And this is what a turn makes of it: when the pass over a guarded resource fails with the
fault, that status is written, the fault is reported, and the turn fails with the fault inside the phase. -/
theorem verdict_of_cause (policy : Policy) (location : Location) (now : ClusterTime)
    (resource : BucketResource) (storage : Service Storage σ) (cluster : Service Cluster τ) (state : σ)
    (other : τ) (fault : Fault) :
    let status := BucketStatus.next resource.status location policy.terminalCodes now (.error fault)
    (∃ layers : List Layer, fault = layers.foldr Layer.around fault.cause) ∧
    (∀ layer inner, fault.cause ≠ Layer.around layer inner) ∧
    (∀ codes, fault.isTerminal codes = true ↔ fault.cause.Hopeless codes) ∧
    status.Announces policy (.applyFailed fault) ∧
    ∀ calls after, finalizerName ∈ resource.finalizers → resource.isBeingDeleted = false →
      Accepts cluster resource →
      (Pass.sync location resource.spec resource.adoptionPolicy).Fails storage state calls fault after →
      ∃ final, (reconcile policy location now resource).Fails (storage.beside cluster) (state, other)
        (calls.map .inl ++ [.inr (.patchStatus resource.home resource.name status),
          .inr (.publish resource.subject (failureEvent (.applyFailed fault)))])
        (.applyFailed fault) (after, final) := by
  intro status
  refine ⟨fault.exists_layers, fault.cause_ne_around, fun codes => fault.isTerminal_iff codes,
    BucketStatus.announces_next policy _ location now fault .apply, ?_⟩
  intro calls after guards kept accepts failed
  obtain ⟨middle, applied⟩ := apply_fails policy now accepts failed other
  have stopped := guarded_kept guards kept (apply policy location now resource) (cleanup policy resource)
    ▸ applied.mapFault Fault.applyFailed
  obtain ⟨final, ended⟩ := reconcile_fails accepts.events stopped
  rw [List.append_assoc] at ended
  exact ⟨final, ended⟩

/-- A new bucket is given a policy that the service calls malformed. The fault is two layers deep when the
turn ends, and still it is shown as terminal and left until the next comparison. -/
theorem malformed_policy_awaits_resync :
    let policy : Policy := {}
    let now : ClusterTime := ⟨0, 0, by decide, by decide, by decide, by decide⟩
    let resource : BucketResource := {
      metadata := { name := some "logs", finalizers := some ["other", finalizerName] }
      spec := { name := "logs", policy := some "words" } }
    let store : Store := { failures := Keyed.ofList [("PutBucketPolicy", "MalformedPolicy")] }
    let cluster : Service Cluster Unit := fun request state =>
      (match request with
        | .getNamespace _ => .ok none
        | .publish _ _ | .patchStatus _ _ _ | .patchFinalizers _ _ _ => .ok (), state)
    let turn := reconcile policy ⟨none, "us-east-1"⟩ now resource
    let fault := Fault.property "Policy" (.api ⟨"PutBucketPolicy", some "MalformedPolicy", "injected failure"⟩)
    (turn.run (Store.serve.beside cluster) (store, ())).1 = .error (.applyFailed fault) ∧
    (Fault.applyFailed fault).AwaitsResync policy ∧
    ∃ status, .inr (.patchStatus "default" "logs" status)
        ∈ (turn.trace (Store.serve.beside cluster) (store, ())).map (·.1) ∧
      BucketStatus.Shows (some status) BucketCondition.terminal "True" := by
  intro policy now resource store cluster turn fault
  have accepts : Accepts cluster resource := by
    refine ⟨fun event => ⟨?_, fun _ => rfl⟩, fun status => ⟨?_, fun _ => rfl⟩⟩
    · show (ClusterRequest.publish resource.subject (failureEvent fault)).defect? = none
      decide +kernel
    · show (ClusterRequest.patchStatus "default" "logs" default).defect? = none
      decide +kernel
  have result : ((Pass.sync ⟨none, "us-east-1"⟩ resource.spec resource.adoptionPolicy).run Store.serve
      store).1 = .error fault := by decide +kernel
  obtain ⟨-, -, -, announces, turns⟩ := verdict_of_cause policy ⟨none, "us-east-1"⟩ now resource
    Store.serve cluster store () fault
  have awaits : (Fault.applyFailed fault).AwaitsResync policy :=
    (Fault.awaitsResync_iff _ _).mpr (by decide)
  obtain ⟨final, ended⟩ := turns _ _ (by decide) rfl accepts ⟨Prod.ext result rfl, rfl⟩
  refine ⟨congrArg Prod.fst ended.run, awaits, _, ?_, announces.terminal.mpr awaits⟩
  rw [ended.trace]
  exact List.mem_append_right _ List.mem_cons_self

end Turn

end BucketSteward

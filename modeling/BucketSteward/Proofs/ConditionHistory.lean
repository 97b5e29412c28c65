import BucketSteward.Resource.Status
import Mathlib.Data.List.Induction
import Mathlib.Data.List.Nodup

/-! What the status of a bucket tells of all passes over it. The conditions are those that the latest pass
calls for, and each has kept the time of the pass that it stands since: of the first in the longest row of
passes, up to the latest, after each of which the condition was there with this status (`StandsSince`). The
location and the metadata are the last that a pass had to tell. -/
namespace BucketSteward.BucketStatus

open BucketCondition

/-- The time and the result of a pass. -/
abbrev Report := ClusterTime × Except Fault Synced

variable (location : Location) (terminalCodes : List String)

/-- The status after passes that began without one, each from the status that the last had left. -/
def after (passes : List Report) : Option BucketStatus :=
  passes.foldl (fun status pass => some (next status location terminalCodes pass.1 pass.2)) none

theorem after_concat (passes : List Report) (now : ClusterTime) (result : Except Fault Synced) :
    after location terminalCodes (passes ++ [(now, result)])
      = some (next (after location terminalCodes passes) location terminalCodes now result) := by
  simp [after, List.foldl_append]

/-! ## The conditions of one pass -/

/-- The conditions of a status that may be missing. -/
def conditionsOf (status : Option BucketStatus) : List BucketCondition :=
  (status.getD {}).conditions.getD []

/-- The types of the conditions that a result calls for. -/
def typesFor (result : Except Fault Synced) : List String :=
  match result with
  | .ok _ => [resourceSynced]
  | .error fault => [resourceSynced, if fault.isTerminal terminalCodes then terminal else recoverable]

variable {location terminalCodes}

theorem conditions_next (status : Option BucketStatus) (now : ClusterTime) (result : Except Fault Synced) :
    (next status location terminalCodes now result).conditions
      = some (conditionsAfter (conditionsOf status) now terminalCodes result) := by
  cases result <;> rfl

theorem types_conditionsAfter (existing : List BucketCondition) (now : ClusterTime)
    (result : Except Fault Synced) :
    (conditionsAfter existing now terminalCodes result).map (·.type) = typesFor terminalCodes result := by
  rcases result with fault | ⟨outcome, arn, created⟩
  · by_cases hopeless : fault.isTerminal terminalCodes = true <;>
      simp [conditionsAfter, typesFor, hopeless, transition]
  · cases outcome <;> rfl

/-- Every condition is the transition from the one of its type to its status. -/
theorem eq_transition {existing : List BucketCondition} {now : ClusterTime}
    {result : Except Fault Synced} {condition : BucketCondition}
    (among : condition ∈ conditionsAfter existing now terminalCodes result) :
    ∃ reason message,
      condition = transition existing now condition.type condition.status reason message := by
  rcases result with fault | ⟨outcome, arn, created⟩
  · simp only [conditionsAfter] at among
    split at among <;> simp only [List.mem_cons, List.not_mem_nil, or_false] at among <;>
      rcases among with rfl | rfl <;> exact ⟨_, _, rfl⟩
  · cases outcome <;> rw [List.mem_singleton.mp among] <;> exact ⟨_, _, rfl⟩

/-! ## How long a condition has stood -/

/-- A condition of a type is there with a status. -/
def Shows (status : Option BucketStatus) (type word : String) : Prop :=
  ∃ condition ∈ conditionsOf status, condition.type = type ∧ condition.status = word

/-- From a pass on and up to the latest, a condition was there with one status after every pass. -/
def StandsFrom (location : Location) (terminalCodes : List String) (passes : List Report)
    (type word : String) (start : Nat) : Prop :=
  ∀ i, start ≤ i → i < passes.length →
    Shows (after location terminalCodes (passes.take (i + 1))) type word

/-- The longest row of passes up to the latest with a condition of one status begins with a pass. -/
structure StandsSince (location : Location) (terminalCodes : List String) (passes : List Report)
    (type word : String) (start : Nat) : Prop where
  begun : start < passes.length
  stands : StandsFrom location terminalCodes passes type word start
  longest : ∀ earlier, StandsFrom location terminalCodes passes type word earlier → start ≤ earlier

section Extension
variable {passes : List Report} {pass : Report} {type word : String} {start : Nat}

theorem standsFrom_concat (inside : start ≤ passes.length) :
    StandsFrom location terminalCodes (passes ++ [pass]) type word start ↔
      StandsFrom location terminalCodes passes type word start ∧
        Shows (after location terminalCodes (passes ++ [pass])) type word := by
  have before {i : Nat} (earlier : i < passes.length) :
      (passes ++ [pass]).take (i + 1) = passes.take (i + 1) :=
    List.take_append_of_le_length earlier
  have last : (passes ++ [pass]).take (passes.length + 1) = passes ++ [pass] :=
    List.take_of_length_le (by simp)
  constructor
  · intro stands
    refine ⟨fun i from' earlier => ?_, ?_⟩
    · rw [← before earlier]
      exact stands i from' (by simp; omega)
    · rw [← last]
      exact stands passes.length inside (by simp)
  · rintro ⟨stands, now⟩ i from' within
    by_cases earlier : i < passes.length
    · rw [before earlier]
      exact stands i from' earlier
    · obtain rfl : i = passes.length := by
        rw [List.length_append, List.length_singleton] at within
        omega
      rw [last]
      exact now

/-- A condition that keeps its status stands since when it did. -/
theorem StandsSince.extend (since : StandsSince location terminalCodes passes type word start)
    (now : Shows (after location terminalCodes (passes ++ [pass])) type word) :
    StandsSince location terminalCodes (passes ++ [pass]) type word start where
  begun := by
    rw [List.length_append]
    exact Nat.lt_add_right _ since.begun
  stands := (standsFrom_concat (Nat.le_of_lt since.begun)).mpr ⟨since.stands, now⟩
  longest earlier stands := by
    by_cases inside : earlier ≤ passes.length
    · exact since.longest earlier ((standsFrom_concat inside).mp stands).1
    · exact Nat.le_of_lt (Nat.lt_trans since.begun (Nat.lt_of_not_le inside))

/-- A condition that was not there, or was with another status, stands since the latest pass. -/
theorem StandsSince.begin (new : ¬ Shows (after location terminalCodes passes) type word)
    (now : Shows (after location terminalCodes (passes ++ [pass])) type word) :
    StandsSince location terminalCodes (passes ++ [pass]) type word passes.length where
  begun := by simp
  stands := (standsFrom_concat (Nat.le_refl _)).mpr
    ⟨fun i after' within => absurd within (Nat.not_lt.mpr after'), now⟩
  longest earlier stands := by
    by_contra longer
    have inside : earlier < passes.length := Nat.lt_of_not_le longer
    have stood := ((standsFrom_concat (Nat.le_of_lt inside)).mp stands).1
    have shown := stood (passes.length - 1) (by omega) (by omega)
    rw [List.take_of_length_le (by omega)] at shown
    exact new shown

end Extension

/-- A condition that had its status before keeps its time, and any other has the time of the pass. Of one
type there is at most one condition, so the one that is looked up is the one that was there. -/
theorem transition_time {existing : List BucketCondition} {now : ClusterTime}
    {type word reason message : String} (distinct : (existing.map (·.type)).Nodup) :
    (∃ old ∈ existing, old.type = type ∧ old.status = word ∧
      (transition existing now type word reason message).lastTransitionTime
        = some (old.lastTransitionTime.getD now)) ∨
    (∀ old ∈ existing, ¬ (old.type = type ∧ old.status = word)) ∧
      (transition existing now type word reason message).lastTransitionTime = some now := by
  cases found : existing.find? (·.type == type) with
  | none =>
    have absent := List.find?_eq_none.mp found
    refine .inr ⟨fun old among ⟨typed, _⟩ => absent old among (beq_iff_eq.mpr typed), ?_⟩
    simp [transition, found]
  | some old =>
    have among := List.mem_of_find?_eq_some found
    have typed : old.type = type := by simpa using List.find?_some found
    by_cases same : old.status = word
    · exact .inl ⟨old, among, typed, same, by simp [transition, found, Option.filter, same]⟩
    · refine .inr ⟨fun other within ⟨typedToo, stood⟩ => same ?_, by simp [transition, found, Option.filter, same]⟩
      rw [List.inj_on_of_nodup_map distinct among within (typed.trans typedToo.symm)]
      exact stood

theorem conditionsOf_after_concat (passes : List Report) (now : ClusterTime)
    (result : Except Fault Synced) :
    conditionsOf (after location terminalCodes (passes ++ [(now, result)]))
      = conditionsAfter (conditionsOf (after location terminalCodes passes)) now terminalCodes result := by
  rw [after_concat]
  simp only [conditionsOf, Option.getD_some, conditions_next]

/-- There is never a second condition of one type. -/
theorem types_distinct (passes : List Report) :
    ((conditionsOf (after location terminalCodes passes)).map (·.type)).Nodup := by
  induction passes using List.reverseRecOn with
  | nil => exact .nil
  | append_singleton passes pass _ =>
    rw [conditionsOf_after_concat, types_conditionsAfter]
    unfold typesFor
    split
    · simp
    · split <;> decide

/-- Each condition after any passes bears the time of the pass that it stands since. -/
theorem condition_time (passes : List Report) :
    ∀ condition ∈ conditionsOf (after location terminalCodes passes),
      ∃ start, StandsSince location terminalCodes passes condition.type condition.status start ∧
        condition.lastTransitionTime = passes[start]?.map (·.1) := by
  -- By induction on the latest pass: a condition that it keeps has the time it had, and that time is
  -- right by the hypothesis; any other stands since this pass.
  induction passes using List.reverseRecOn with
  | nil => exact fun condition among => nomatch among
  | append_singleton passes pass ih =>
    intro condition among
    have shown : Shows (after location terminalCodes (passes ++ [pass])) condition.type condition.status :=
      ⟨condition, among, rfl, rfl⟩
    rw [conditionsOf_after_concat] at among
    obtain ⟨reason, message, made⟩ := eq_transition among
    rcases transition_time (types_distinct passes) with ⟨old, there, typed, stood, time⟩ | ⟨new, time⟩
    · obtain ⟨start, since, known⟩ := ih old there
      rw [typed, stood] at since
      refine ⟨start, since.extend shown, ?_⟩
      rw [made, time, known, List.getElem?_append_left since.begun]
      simp [since.begun]
    · refine ⟨passes.length, StandsSince.begin (fun ⟨old, there, same⟩ => new old there same) shown, ?_⟩
      rw [made, time]
      simp

/-! ## Location and metadata -/

/-- What is the last that a pass had to tell is what the latest pass tells, or else what was. -/
theorem findSome?_reverse_concat {α : Type} (passes : List Report) (pass : Report)
    (tells : Report → Option α) :
    (passes ++ [pass]).reverse.findSome? tells
      = (tells pass).orElse fun _ => passes.reverse.findSome? tells := by
  rw [List.reverse_append, List.reverse_singleton, List.singleton_append, List.findSome?_cons]
  cases tells pass <;> rfl

/-- The location is the last that a pass answered. -/
theorem location_after (passes : List Report) :
    (after location terminalCodes passes).bind (·.location)
      = passes.reverse.findSome? fun pass => pass.2.toOption.bind (·.location) := by
  induction passes using List.reverseRecOn with
  | nil => rfl
  | append_singleton passes pass ih =>
    obtain ⟨now, result⟩ := pass
    rw [after_concat, findSome?_reverse_concat, ← ih]
    have before : ((after location terminalCodes passes).getD {}).location
        = (after location terminalCodes passes).bind (·.location) := by
      cases after location terminalCodes passes <;> rfl
    rw [← before]
    cases result <;> rfl

/-- The metadata is that of the latest pass that succeeded. -/
theorem metadata_after (passes : List Report) :
    (after location terminalCodes passes).bind (·.ackResourceMetadata)
      = passes.reverse.findSome? fun pass => pass.2.toOption.map fun synced =>
          ({ arn := some synced.arn
             ownerAccountId := location.account
             region := some location.region } : ResourceMetadata) := by
  induction passes using List.reverseRecOn with
  | nil => rfl
  | append_singleton passes pass ih =>
    obtain ⟨now, result⟩ := pass
    rw [after_concat, findSome?_reverse_concat, ← ih]
    have before : ((after location terminalCodes passes).getD {}).ackResourceMetadata
        = (after location terminalCodes passes).bind (·.ackResourceMetadata) := by
      cases after location terminalCodes passes <;> rfl
    rw [← before]
    cases result <;> rfl

/-! ## The status after any passes -/

/-- After any passes from no status on, with one location and one set of codes: the conditions are those
that the latest result calls for, each with the time of the pass that it stands since; the location is the
last that a successful pass answered, if one did; and the metadata is that of the latest success. -/
theorem history_exact (location : Location) (terminalCodes : List String) (passes : List Report)
    (now : ClusterTime) (result : Except Fault Synced) :
    let history := passes ++ [(now, result)]
    ∃ status conditions, after location terminalCodes history = some status ∧
      status.conditions = some conditions ∧
      conditions.map (·.type) = (match result with
        | .ok _ => [resourceSynced]
        | .error fault =>
          if fault.isTerminal terminalCodes then [resourceSynced, terminal]
          else [resourceSynced, recoverable]) ∧
      (∀ condition ∈ conditions, ∃ start,
        StandsSince location terminalCodes history condition.type condition.status start ∧
          condition.lastTransitionTime = history[start]?.map (·.1)) ∧
      status.location = (history.reverse.findSome? fun pass => pass.2.toOption.bind (·.location)) ∧
      status.ackResourceMetadata = history.reverse.findSome? fun pass =>
        pass.2.toOption.map fun synced =>
          { arn := some synced.arn
            ownerAccountId := location.account
            region := some location.region } := by
  intro history
  have left : after location terminalCodes history = some (next (after location terminalCodes passes)
      location terminalCodes now result) := after_concat location terminalCodes passes now result
  have times : ∀ condition ∈ conditionsOf (after location terminalCodes history), _ :=
    condition_time history
  have place : (after location terminalCodes history).bind (·.location) = _ := location_after history
  have metadata : (after location terminalCodes history).bind (·.ackResourceMetadata) = _ :=
    metadata_after history
  rw [left] at place metadata
  rw [conditionsOf_after_concat] at times
  refine ⟨_, _, left, conditions_next _ now result, ?_, times, place, metadata⟩
  rw [types_conditionsAfter]
  unfold typesFor
  cases result with
  | ok synced => rfl
  | error fault =>
    simp only
    split <;> rfl

end BucketSteward.BucketStatus

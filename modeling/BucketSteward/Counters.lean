import BucketSteward.Fault
import BucketSteward.Keyed

/-!
Counters of the steward's work: the passes begun and finished, the failed ones by resource and
fault, and every API call by verb, operation and outcome. A counter is known by its label values;
one that was never raised does not appear.
-/

namespace BucketSteward

/-- What a call does, as the counters tell it. -/
inductive Verb where
  | create
  | readOne
  | readMany
  | update
  | delete
  deriving DecidableEq, Repr

def Verb.word : Verb → String
  | create => "CREATE"
  | readOne => "READ_ONE"
  | readMany => "READ_MANY"
  | update => "UPDATE"
  | delete => "DELETE"

def Verb.all : List Verb := [.create, .readOne, .readMany, .update, .delete]

/-- What a call is to be counted under. -/
structure CallLabel where
  verb : Verb
  operation : String
  deriving DecidableEq, Repr

/-- A call that has ended: what it is counted under, and the error that it ended with. -/
structure EndedCall where
  label : CallLabel
  error : Option ApiError
  deriving DecidableEq, Repr

/-- Counts under label values, in the order in which they were first raised. -/
structure Tally where
  counts : List (List String × Nat) := []
  deriving DecidableEq, Repr, Inhabited

namespace Tally

def countIn (labels : List String) (counts : List (List String × Nat)) : Nat :=
  (counts.lookup labels).getD 0

def count (tally : Tally) (labels : List String) : Nat :=
  countIn labels tally.counts

def raiseIn (labels : List String) : List (List String × Nat) → List (List String × Nat)
  | [] => [(labels, 1)]
  | c :: rest => if c.1 = labels then (c.1, c.2 + 1) :: rest else c :: raiseIn labels rest

/-- The tally after one more event with the given labels. -/
def raise (tally : Tally) (labels : List String) : Tally :=
  ⟨raiseIn labels tally.counts⟩

theorem count_raise (tally : Tally) (labels other : List String) :
    (tally.raise labels).count other = tally.count other + if other = labels then 1 else 0 := by
  obtain ⟨counts⟩ := tally
  simp only [raise, count, countIn]
  induction counts with
  | nil =>
    by_cases h : other = labels
    · simp [raiseIn, h]
    · have : (other == labels) = false := by simpa using h
      simp [raiseIn, List.lookup_cons, h, this]
  | cons c rest ih =>
    obtain ⟨l, n⟩ := c
    simp only [raiseIn]
    split
    case isTrue hc =>
      subst hc
      by_cases h : other = l
      · simp [h]
      · have : (other == l) = false := by simpa using h
        simp [List.lookup_cons, h, this]
    case isFalse hc =>
      by_cases h : other = l
      · simp [h, hc]
      · have : (other == l) = false := by simpa using h
        simp only [List.lookup_cons, this]
        exact ih

end Tally

/-- How a call ended: `ok`, the code it failed with, or `Unknown`. -/
def outcomeWord : Option ApiError → String
  | none => "ok"
  | some e => e.code.getD "Unknown"

structure Counters where
  reconciliations : Nat := 0
  /-- Failed passes by kind, resource and fault. -/
  failures : Tally := {}
  /-- Measured passes by kind. -/
  durations : Tally := {}
  /-- Calls by verb, operation and outcome. -/
  apiCalls : Tally := {}
  deriving DecidableEq, Repr, Inhabited

namespace Counters

def recordCall (counters : Counters) (ended : EndedCall) : Counters :=
  { counters with
    apiCalls := counters.apiCalls.raise
      [ended.label.verb.word, ended.label.operation, outcomeWord ended.error] }

def recordFailure (counters : Counters) (kind instanceName : String) (fault : Fault) : Counters :=
  { counters with failures := counters.failures.raise [kind, instanceName, fault.label] }

/-- A pass is counted when it begins and measured when it ends. -/
def recordPass (counters : Counters) (kind : String) : Counters :=
  { counters with
    reconciliations := counters.reconciliations + 1
    durations := counters.durations.raise [kind] }

/-- A family of counters as it is published. -/
structure Family where
  name : String
  help : String
  series : Nat
  deriving DecidableEq, Repr

/-- The families that have at least one counter, in the order of their names. -/
def families (counters : Counters) : List Family :=
  [⟨"s3_bucket_operator_api_calls_total", "calls made to the S3 and S3 Control APIs",
      counters.apiCalls.counts.length⟩,
    ⟨"s3_bucket_operator_reconcile_duration_seconds",
      "The duration of reconcile to complete in seconds", counters.durations.counts.length⟩,
    ⟨"s3_bucket_operator_reconciliation_errors_total", "reconciliation errors",
      counters.failures.counts.length⟩,
    ⟨"s3_bucket_operator_reconciliations_total", "reconciliations", 1⟩].filter
    fun family => family.series != 0

end Counters

/-- Names of families that a registry publishes; a name can be taken once. -/
structure Registry where
  taken : List String := []
  deriving DecidableEq, Repr, Inhabited

namespace Registry

/-- The names of the families, in the order in which they are registered. -/
def familyNames : List String := [
  "s3_bucket_operator_reconcile_duration_seconds",
  "s3_bucket_operator_reconciliation_errors_total",
  "s3_bucket_operator_reconciliations_total",
  "s3_bucket_operator_api_calls_total"]

/-- Registers the families one after the other; `none` when a name is taken already. -/
def register? (registry : Registry) : Option Registry :=
  familyNames.foldlM
    (fun registry name =>
      if registry.taken.contains name then none else some ⟨name :: registry.taken⟩)
    registry

end Registry

end BucketSteward

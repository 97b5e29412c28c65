import BucketSteward.Spec
import BucketSteward.Text.Affix

/-!
Where two specifications differ. Their documents are compared member by member, in the order of the
names, an absent member counting as `null`; lists are compared as a whole. A difference is known by
the names that lead to it and carries both values.
-/

namespace BucketSteward

/-- A place where two documents differ, and what each has there. -/
structure Difference where
  /-- The names of the members that lead to the place. -/
  keys : List String
  desired : Json
  observed : Json
  deriving DecidableEq, Repr

namespace Difference

/-- The place as a text, from `spec` on. -/
def path (difference : Difference) : String :=
  ".".intercalate ("spec" :: difference.keys)

end Difference

namespace Json

/-- Puts a name into a list of names that are in order, unless it is there. -/
def insertName (name : String) : List String → List String
  | [] => [name]
  | n :: rest =>
      if name < n then name :: n :: rest
      else if name = n then n :: rest
      else n :: insertName name rest

/-- The names that two objects have, in order. -/
def unionNames (a b : List (String × Json)) : List String :=
  (a.map (·.1) ++ b.map (·.1)).foldr insertName []

/-- Two documents compared as a whole. -/
def wholeDifference (keys : List String) (desired observed : Json) : List Difference :=
  if desired = observed then [] else [⟨keys, desired, observed⟩]

mutual

/-- The differences between a desired document and an observed one, at the end of `keys`. -/
def differences : Json → List String → Json → List Difference
  | .obj members, keys, .obj others =>
      (unionNames members others).flatMap fun name =>
        match (memberDifferences members).lookup name with
        | some compare => compare (keys ++ [name]) (memberOf others name)
        | none => wholeDifference (keys ++ [name]) .null (memberOf others name)
  | desired, keys, observed => wholeDifference keys desired observed
termination_by structural desired => desired

/-- For every member, the comparison of its value with another document. -/
def memberDifferences :
    List (String × Json) → List (String × (List String → Json → List Difference))
  | [] => []
  | m :: rest => memberDifference m :: memberDifferences rest
termination_by structural members => members

def memberDifference : String × Json → String × (List String → Json → List Difference)
  | (name, value) => (name, fun keys observed => differences value keys observed)
termination_by structural member => member

end

end Json

/-- The differences between what is desired and what was observed. -/
structure Delta where
  differences : List Difference := []
  deriving DecidableEq, Repr, Inhabited

namespace Delta

def between (desired observed : BucketSpec) : Delta :=
  ⟨Json.differences (write desired) [] (write observed)⟩

def isEmpty (delta : Delta) : Bool := delta.differences.isEmpty

def paths (delta : Delta) : List String := delta.differences.map Difference.path

/-- A path is a place or leads to it. -/
def leadsTo (path place : String) : Bool :=
  match Text.afterPrefix? path.toList place.toList with
  | some [] => true
  | some (c :: _) => c == '.'
  | none => false

/-- Something differs at a path or below it. -/
def differsAt (delta : Delta) (path : String) : Bool :=
  delta.paths.any (leadsTo path)

/-- Something differs in a part of the specification. -/
def touches (delta : Delta) (part : String) : Bool :=
  delta.differsAt ("spec." ++ part)

end Delta

end BucketSteward

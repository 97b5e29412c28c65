import BucketSteward.Form
import BucketSteward.Configuration.Tag

/-!
Request metrics, one configuration for each id.
-/

namespace BucketSteward

open Form

/-- Requests that satisfy every part named. -/
structure MetricsAndOperator where
  accessPointArn : Option String := none
  keyPrefix : Option String := none
  tags : Option (List Tag) := none
  deriving DecidableEq, Inhabited

instance : JsonForm MetricsAndOperator := record {} [
  optional "accessPointArn" (·.accessPointArn) fun r v => { r with accessPointArn := v },
  optional "prefix" (·.keyPrefix) fun r v => { r with keyPrefix := v },
  optional "tags" (·.tags) fun r v => { r with tags := v }]

/-- The requests that are measured. -/
structure MetricsFilter where
  accessPointArn : Option String := none
  and : Option MetricsAndOperator := none
  keyPrefix : Option String := none
  tag : Option Tag := none
  deriving DecidableEq, Inhabited

instance : JsonForm MetricsFilter := record {} [
  optional "accessPointArn" (·.accessPointArn) fun r v => { r with accessPointArn := v },
  optional "and" (·.and) fun r v => { r with and := v },
  optional "prefix" (·.keyPrefix) fun r v => { r with keyPrefix := v },
  optional "tag" (·.tag) fun r v => { r with tag := v }]

/-- The metrics of the requests that a filter selects, known by its id. -/
structure MetricsConfiguration where
  id : Option String := none
  filter : Option MetricsFilter := none
  deriving DecidableEq, Inhabited

instance : JsonForm MetricsConfiguration := record {} [
  optional "id" (·.id) fun r v => { r with id := v },
  optional "filter" (·.filter) fun r v => { r with filter := v }]

end BucketSteward

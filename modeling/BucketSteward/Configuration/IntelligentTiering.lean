import BucketSteward.Form
import BucketSteward.Configuration.Tag

/-!
Intelligent tiering, one configuration for each id.
-/

namespace BucketSteward

open Form

/-- An archive tier and the days without access after which objects move to it. -/
structure Tiering where
  accessTier : Option String := none
  days : Option Int32 := none
  deriving DecidableEq, Inhabited

instance : JsonForm Tiering := record {} [
  optional "accessTier" (·.accessTier) fun r v => { r with accessTier := v },
  optional "days" (·.days) fun r v => { r with days := v }]

/-- The archive tiers of the objects that a filter selects, known by its id. -/
structure IntelligentTieringConfiguration where
  id : Option String := none
  filter : Option ConfigurationFilter := none
  status : Option String := none
  tierings : Option (List Tiering) := none
  deriving DecidableEq, Inhabited

instance : JsonForm IntelligentTieringConfiguration := record {} [
  optional "id" (·.id) fun r v => { r with id := v },
  optional "filter" (·.filter) fun r v => { r with filter := v },
  optional "status" (·.status) fun r v => { r with status := v },
  optional "tierings" (·.tierings) fun r v => { r with tierings := v }]

end BucketSteward

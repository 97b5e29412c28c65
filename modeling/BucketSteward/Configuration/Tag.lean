import BucketSteward.Form

/-!
Tags, the tag set of a bucket, and the filters that select objects by key prefix and by tags.
-/

namespace BucketSteward

open Form

/-- A key with a value. -/
structure Tag where
  key : Option String := none
  value : Option String := none
  deriving DecidableEq, Inhabited

instance : JsonForm Tag := record {} [
  optional "key" (·.key) fun r v => { r with key := v },
  optional "value" (·.value) fun r v => { r with value := v }]

/-- The tag set of a bucket. -/
structure Tagging where
  tagSet : Option (List Tag) := none
  deriving DecidableEq, Inhabited

instance : JsonForm Tagging := record {} [
  optional "tagSet" (·.tagSet) fun r v => { r with tagSet := v }]

/-- Objects that satisfy every part named. -/
structure AndOperator where
  keyPrefix : Option String := none
  tags : Option (List Tag) := none
  deriving DecidableEq, Inhabited

instance : JsonForm AndOperator := record {} [
  optional "prefix" (·.keyPrefix) fun r v => { r with keyPrefix := v },
  optional "tags" (·.tags) fun r v => { r with tags := v }]

/-- The objects a configuration or a rule applies to. -/
structure ConfigurationFilter where
  and : Option AndOperator := none
  keyPrefix : Option String := none
  tag : Option Tag := none
  deriving DecidableEq, Inhabited

instance : JsonForm ConfigurationFilter := record {} [
  optional "and" (·.and) fun r v => { r with and := v },
  optional "prefix" (·.keyPrefix) fun r v => { r with keyPrefix := v },
  optional "tag" (·.tag) fun r v => { r with tag := v }]

end BucketSteward

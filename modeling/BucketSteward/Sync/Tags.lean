import BucketSteward.Call

/-!
The tags of a directory bucket. They are kept by the tag service under the resource name of the
bucket, which can add tags and remove keys but not replace a tag set; so replacing one takes away
the keys that are not desired and then sets the desired tags.
-/

namespace BucketSteward.Pass

/-- The code of a tag service that knows no tags. -/
def noSuchTagSet : String := "NoSuchTagSet"

/-- The tags that are set. -/
def currentTags (account arn : String) : Pass (List Tag) := do
  let tags ← callUnless [noSuchTagSet] ⟨.readMany, "ListTagsForResource"⟩ (.listTags account arn)
  pure (tags.getD [])

/-- Removes keys, when there are any. -/
def untag (account arn : String) (keys : List String) : Pass Unit :=
  if keys.isEmpty then pure ()
  else call ⟨.delete, "UntagResource"⟩ (.untag account arn keys)

/-- The tags as a bucket's tag set; no tag service entry is no tag set. -/
def getResourceTags (account arn : String) : Pass (Option Tagging) := do
  let tags ← callUnless [noSuchTagSet] ⟨.readMany, "ListTagsForResource"⟩ (.listTags account arn)
  pure (tags.map fun tags => { tagSet := if tags.isEmpty then none else some tags })

/-- Makes the tags the desired ones. -/
def putResourceTags (account arn : String) (desired : List Tag) : Pass Unit := do
  let current ← currentTags account arn
  let wanted := desired.filterMap (·.key)
  untag account arn ((current.filterMap (·.key)).filter (!wanted.contains ·))
  if desired.isEmpty then pure ()
  else call ⟨.update, "TagResource"⟩ (.tag account arn desired)

/-- Removes every tag that has a key. -/
def deleteResourceTags (account arn : String) : Pass Unit := do
  let current ← currentTags account arn
  untag account arn (current.filterMap (·.key))

def syncResourceTags (account arn : String) (desired : Option Tagging) : Pass Unit :=
  match desired.bind (·.tagSet) with
  | some tags => putResourceTags account arn tags
  | none => deleteResourceTags account arn

end BucketSteward.Pass

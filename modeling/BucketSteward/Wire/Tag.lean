import BucketSteward.Configuration.Tag
import BucketSteward.Wire.Encoding

/-!
Tags on the wire have a key and a value. Filters of the kinds that keep all their members are here
too.
-/

namespace BucketSteward.Wire

structure Tag where
  key : String
  value : String
  deriving DecidableEq, Repr

namespace Tag

def encode (tag : BucketSteward.Tag) : Encoded Tag := do
  let key ← demand "Tag" "key" tag.key
  let value ← demand "Tag" "value" tag.value
  pure { key, value }

def decode (tag : Tag) : BucketSteward.Tag where
  key := some tag.key
  value := some tag.value

end Tag

/-- A tag set, which is always sent whole. -/
structure Tagging where
  tagSet : List Tag
  deriving DecidableEq, Repr

namespace Tagging

def encode (tagging : BucketSteward.Tagging) : Encoded Tagging := do
  let tagSet ← encodeAll Tag.encode tagging.tagSet
  pure { tagSet }

def decode (tagging : Tagging) : BucketSteward.Tagging where
  tagSet := decodeAll Tag.decode tagging.tagSet

end Tagging

structure AndOperator where
  keyPrefix : Option String
  tags : Option (List Tag)
  deriving DecidableEq, Repr

namespace AndOperator

def encode (and : BucketSteward.AndOperator) : Encoded AndOperator := do
  let tags ← encodeItems Tag.encode and.tags
  pure { keyPrefix := and.keyPrefix, tags }

def decode (and : AndOperator) : BucketSteward.AndOperator where
  keyPrefix := and.keyPrefix
  tags := decodeItems Tag.decode and.tags

end AndOperator

/-- A filter that keeps whatever it names. -/
structure Filter where
  and : Option AndOperator
  keyPrefix : Option String
  tag : Option Tag
  deriving DecidableEq, Repr

namespace Filter

def encode (filter : ConfigurationFilter) : Encoded Filter := do
  let and ← encodeOption AndOperator.encode filter.and
  let tag ← encodeOption Tag.encode filter.tag
  pure { and, keyPrefix := filter.keyPrefix, tag }

def decode (filter : Filter) : ConfigurationFilter where
  and := filter.and.map AndOperator.decode
  keyPrefix := filter.keyPrefix
  tag := filter.tag.map Tag.decode

end Filter

end BucketSteward.Wire

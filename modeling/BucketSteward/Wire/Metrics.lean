import BucketSteward.Configuration.Metrics
import BucketSteward.Wire.Tag

/-!
Request metrics on the wire: a configuration has an id. A filter is one of four kinds; of several
members that are written the first of `and`, `accessPointArn`, `prefix` and `tag` counts, and a
filter without any of them is none.
-/

namespace BucketSteward.Wire

structure MetricsAnd where
  accessPointArn : Option String
  keyPrefix : Option String
  tags : Option (List Tag)
  deriving DecidableEq, Repr

namespace MetricsAnd

def encode (and : MetricsAndOperator) : Encoded MetricsAnd := do
  let tags ← encodeItems Tag.encode and.tags
  pure { accessPointArn := and.accessPointArn, keyPrefix := and.keyPrefix, tags }

def decode (and : MetricsAnd) : MetricsAndOperator where
  accessPointArn := and.accessPointArn
  keyPrefix := and.keyPrefix
  tags := decodeItems Tag.decode and.tags

end MetricsAnd

inductive MetricsFilter where
  | and (and : MetricsAnd)
  | accessPointArn (arn : String)
  | keyPrefix (keyPrefix : String)
  | tag (tag : Tag)
  deriving DecidableEq, Repr

namespace MetricsFilter

def encode (filter : BucketSteward.MetricsFilter) : Encoded (Option MetricsFilter) :=
  match filter.and, filter.accessPointArn, filter.keyPrefix, filter.tag with
  | some operator, _, _, _ => do
      let operator ← MetricsAnd.encode operator
      pure (some (.and operator))
  | none, some arn, _, _ => .ok (some (.accessPointArn arn))
  | none, none, some text, _ => .ok (some (.keyPrefix text))
  | none, none, none, some written => do
      let written ← Tag.encode written
      pure (some (.tag written))
  | none, none, none, none => .ok none

def decode : MetricsFilter → BucketSteward.MetricsFilter
  | and operator => { and := some operator.decode }
  | accessPointArn arn => { accessPointArn := some arn }
  | keyPrefix text => { keyPrefix := some text }
  | tag written => { tag := some written.decode }

end MetricsFilter

structure Metrics where
  id : String
  filter : Option MetricsFilter
  deriving DecidableEq, Repr

namespace Metrics

def encode (configuration : MetricsConfiguration) : Encoded Metrics := do
  let filter ← encodeOption MetricsFilter.encode configuration.filter
  let id ← demand "MetricsConfiguration" "id" configuration.id
  pure { id, filter := filter.join }

def decode (configuration : Metrics) : MetricsConfiguration where
  id := some configuration.id
  filter := configuration.filter.map MetricsFilter.decode

end Metrics

end BucketSteward.Wire

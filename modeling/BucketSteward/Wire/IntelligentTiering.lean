import BucketSteward.Configuration.IntelligentTiering
import BucketSteward.Wire.Tag

/-!
Intelligent tiering on the wire: a configuration has an id and a status, and a tier names its days
before its name.
-/

namespace BucketSteward.Wire

structure Tiering where
  accessTier : String
  days : Int32
  deriving DecidableEq

namespace Tiering

def encode (tiering : BucketSteward.Tiering) : Encoded Tiering := do
  let days ← demand "Tiering" "days" tiering.days
  let accessTier ← demand "Tiering" "access_tier" tiering.accessTier
  pure { accessTier, days }

def decode (tiering : Tiering) : BucketSteward.Tiering where
  accessTier := some tiering.accessTier
  days := some tiering.days

end Tiering

structure IntelligentTiering where
  id : String
  filter : Option Filter
  status : String
  tierings : List Tiering
  deriving DecidableEq

namespace IntelligentTiering

def encode (configuration : IntelligentTieringConfiguration) : Encoded IntelligentTiering := do
  let filter ← encodeOption Filter.encode configuration.filter
  let tierings ← encodeAll Tiering.encode configuration.tierings
  let id ← demand "IntelligentTieringConfiguration" "id" configuration.id
  let status ← demand "IntelligentTieringConfiguration" "status" configuration.status
  pure { id, filter, status, tierings }

def decode (configuration : IntelligentTiering) : IntelligentTieringConfiguration where
  id := some configuration.id
  filter := configuration.filter.map Filter.decode
  status := some configuration.status
  tierings := decodeAll Tiering.decode configuration.tierings

end IntelligentTiering

end BucketSteward.Wire

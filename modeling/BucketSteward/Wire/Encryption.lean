import BucketSteward.Configuration.Encryption
import BucketSteward.Wire.Encoding

/-!
Server side encryption on the wire: an encryption by default names its algorithm.
-/

namespace BucketSteward.Wire

structure EncryptionByDefault where
  kmsMasterKeyId : Option String
  sseAlgorithm : String
  deriving DecidableEq, Repr

namespace EncryptionByDefault

def encode (byDefault : ServerSideEncryptionByDefault) : Encoded EncryptionByDefault := do
  let sseAlgorithm ← demand "ServerSideEncryptionByDefault" "sse_algorithm" byDefault.sseAlgorithm
  pure { kmsMasterKeyId := byDefault.kmsMasterKeyId, sseAlgorithm }

def decode (byDefault : EncryptionByDefault) : ServerSideEncryptionByDefault where
  kmsMasterKeyId := byDefault.kmsMasterKeyId
  sseAlgorithm := some byDefault.sseAlgorithm

end EncryptionByDefault

structure EncryptionRule where
  byDefault : Option EncryptionByDefault
  bucketKeyEnabled : Option Bool
  deriving DecidableEq, Repr

namespace EncryptionRule

def encode (rule : ServerSideEncryptionRule) : Encoded EncryptionRule := do
  let byDefault ← encodeOption EncryptionByDefault.encode rule.applyServerSideEncryptionByDefault
  pure { byDefault, bucketKeyEnabled := rule.bucketKeyEnabled }

def decode (rule : EncryptionRule) : ServerSideEncryptionRule where
  applyServerSideEncryptionByDefault := rule.byDefault.map EncryptionByDefault.decode
  bucketKeyEnabled := rule.bucketKeyEnabled

end EncryptionRule

structure Encryption where
  rules : List EncryptionRule
  deriving DecidableEq, Repr

namespace Encryption

def encode (configuration : ServerSideEncryptionConfiguration) : Encoded Encryption := do
  let rules ← encodeAll EncryptionRule.encode configuration.rules
  pure { rules }

def decode (configuration : Encryption) : ServerSideEncryptionConfiguration where
  rules := decodeAll EncryptionRule.decode configuration.rules

end Encryption

end BucketSteward.Wire

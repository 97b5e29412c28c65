import BucketSteward.Configuration.Setting
import BucketSteward.Wire.Encoding

/-!
Who pays for requests. A request to change it names the payer, but an answer may leave it out.
-/

namespace BucketSteward.Wire

structure RequestPayment where
  payer : String
  deriving DecidableEq, Repr

namespace RequestPayment

def encode (configuration : RequestPaymentConfiguration) : Encoded RequestPayment := do
  let payer ← demand "RequestPaymentConfiguration" "payer" configuration.payer
  pure { payer }

def decode (configuration : RequestPayment) : RequestPaymentConfiguration where
  payer := some configuration.payer

end RequestPayment

end BucketSteward.Wire

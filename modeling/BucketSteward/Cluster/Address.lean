/-!
Addresses of requests to the cluster. An address is a path, perhaps a query after the first `?`, and
perhaps a fragment after the first `#`, which is not sent. Names are put into it as they are, and
nothing is escaped. So a name may hold a character that no address has, or make the address too
long, and then there is no request to send (`Address.defect?`).
-/

namespace BucketSteward

/-- Why a request has no address. -/
inductive AddressDefect where
  /-- The name of what the request is about is empty. -/
  | noName
  | badCharacter
  | tooLong
  deriving DecidableEq, Repr

def AddressDefect.display : AddressDefect → String
  | noName => "failed to validate request: A non-empty name is required"
  | badCharacter => "failed to build request: invalid uri character"
  | tooLong => "failed to build request: uri too long"

namespace Address

/-- How many bytes an address may have. -/
def maxBytes : Nat := 65534

/-- Characters that a path holds as they are: all but the blank, the control characters and
`#`, `<`, `>`, `?` and the grave accent. -/
def isPathChar (c : Char) : Bool :=
  let n := c.toNat
  n == 0x21 || n == 0x22 || (0x24 ≤ n && n ≤ 0x3B) || n == 0x3D || (0x40 ≤ n && n ≤ 0x5F)
    || (0x61 ≤ n && n ≤ 0x7E) || 0x80 ≤ n

/-- Characters that a query holds as they are. -/
def isQueryChar (c : Char) : Bool :=
  let n := c.toNat
  n == 0x21 || (0x24 ≤ n && n ≤ 0x3B) || n == 0x3D || (0x3F ≤ n && n ≤ 0x7E) || 0x80 ≤ n

def isWritable (address : List Char) : Bool :=
  let sent := address.takeWhile (· != '#')
  (sent.takeWhile (· != '?')).all isPathChar
    && ((sent.dropWhile (· != '?')).drop 1).all isQueryChar

/-- What is wrong with an address; the length is looked at first. -/
def defect? (address : String) : Option AddressDefect :=
  if maxBytes < address.utf8ByteSize then some .tooLong
  else if isWritable address.toList then none
  else some .badCharacter

end Address

end BucketSteward

import BucketSteward.Timestamp

/-!
The wire form of a configuration: the members that a request can not do without are there, a date
has whole seconds, and where only one of several members counts there is only one.

Encoding fails at the first member that is missing. Nested values are encoded before the value
around them, and the elements of a list in their order, so which member is the first is fixed.
Decoding never fails. A list that came back empty decodes as an absent one.

A request may leave out a structure that every answer has to have. Such a member is `completed`
before it is answered: a structure is blank, a text empty and a choice unset.
-/

namespace BucketSteward.Wire

/-- A member that is missing, and the type that asks for it. -/
structure MissingMember where
  type : String
  member : String
  deriving DecidableEq, Repr

def MissingMember.message (missing : MissingMember) : String :=
  missing.member ++ " was missing: " ++ missing.member
    ++ " was not specified but it is required when building " ++ missing.type

@[reducible] def Encoded (α : Type) : Type := Except MissingMember α

/-- A member that a type asks for. -/
def demand {α : Type} (type member : String) : Option α → Encoded α
  | some value => .ok value
  | none => .error ⟨type, member⟩

def encodeOption {α β : Type} (encode : α → Encoded β) : Option α → Encoded (Option β)
  | some value => (encode value).map some
  | none => .ok none

def encodeList {α β : Type} (encode : α → Encoded β) : List α → Encoded (List β)
  | [] => .ok []
  | item :: rest => do
      let first ← encode item
      let others ← encodeList encode rest
      pure (first :: others)

/-- A list that may be absent. -/
def encodeItems {α β : Type} (encode : α → Encoded β) :
    Option (List α) → Encoded (Option (List β)) :=
  encodeOption (encodeList encode)

/-- A list that is always sent; an absent one is sent as an empty one. -/
def encodeAll {α β : Type} (encode : α → Encoded β) (items : Option (List α)) :
    Encoded (List β) :=
  encodeList encode (items.getD [])

/-- An empty list decodes as an absent one. -/
def decodeAll {α β : Type} (decode : β → α) : List β → Option (List α)
  | [] => none
  | item :: rest => some (decode item :: rest.map decode)

def decodeItems {α β : Type} (decode : β → α) (items : Option (List β)) : Option (List α) :=
  items.bind (decodeAll decode)

/-- A list whose elements are the same on the wire. -/
def decodeSame {α : Type} (items : List α) : Option (List α) :=
  decodeAll id items

/-- What stands in an answer for a choice that it has to make and does not make. -/
def unset : String :=
  "no value was set"

/-- A date on the wire, in seconds since 1970-01-01T00:00:00Z. -/
structure Instant where
  seconds : Int
  deriving DecidableEq, Repr

/-- The fraction of a second is left behind, and so is a leap second. -/
def Instant.encode (date : Timestamp) : Instant :=
  ⟨date.second⟩

/-- A second outside the years of a timestamp decodes as no date. -/
def Instant.decode (date : Instant) : Option Timestamp :=
  Timestamp.at? date.seconds 0

end BucketSteward.Wire

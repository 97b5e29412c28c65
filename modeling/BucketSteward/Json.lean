/-!
JSON documents. A numeral without fraction and exponent is an integer; any other numeral is kept
as it was written, because no member of a bucket takes one. The members of an object keep their
written order, and a name is looked up from the front.

Equality of documents is decided structurally (`Json.beq_eq_true_iff`), and `compact` drops the
members whose value is `null`, at every depth.
-/

namespace BucketSteward

inductive Json where
  | null
  | bool (value : Bool)
  | int (value : Int)
  /-- A numeral that is not written as an integer, such as `1.0`, `1e3` or `-0`. -/
  | real (text : String)
  | str (value : String)
  | arr (items : List Json)
  | obj (members : List (String × Json))
  deriving Repr, Inhabited

namespace Json

def isNull : Json → Bool
  | .null => true
  | _ => false

/-! ## Equality -/

mutual

def beq : Json → Json → Bool
  | .null, .null => true
  | .bool a, .bool b => a == b
  | .int a, .int b => a == b
  | .real a, .real b => a == b
  | .str a, .str b => a == b
  | .arr a, .arr b => beqItems a b
  | .obj a, .obj b => beqMembers a b
  | _, _ => false
termination_by structural a => a

def beqItems : List Json → List Json → Bool
  | [], [] => true
  | a :: as, b :: bs => beq a b && beqItems as bs
  | _, _ => false
termination_by structural a => a

def beqMembers : List (String × Json) → List (String × Json) → Bool
  | [], [] => true
  | a :: as, b :: bs => beqMember a b && beqMembers as bs
  | _, _ => false
termination_by structural a => a

def beqMember : String × Json → String × Json → Bool
  | (k, a), (l, b) => k == l && beq a b
termination_by structural a => a

end

mutual

theorem eq_of_beq : ∀ a b : Json, a.beq b = true → a = b
  | .null, b, h => by cases b <;> simp [beq] at h ⊢
  | .bool _, b, h => by cases b <;> simp_all [beq]
  | .int _, b, h => by cases b <;> simp_all [beq]
  | .real _, b, h => by cases b <;> simp_all [beq]
  | .str _, b, h => by cases b <;> simp_all [beq]
  | .arr as, b, h => by
      cases b <;> simp [beq] at h
      rw [eq_of_beqItems _ _ h]
  | .obj as, b, h => by
      cases b <;> simp [beq] at h
      rw [eq_of_beqMembers _ _ h]

theorem eq_of_beqItems : ∀ as bs : List Json, beqItems as bs = true → as = bs
  | [], bs, h => by cases bs <;> simp_all [beqItems]
  | a :: as, bs, h => by
      cases bs <;> simp [beqItems] at h
      rw [eq_of_beq _ _ h.1, eq_of_beqItems _ _ h.2]

theorem eq_of_beqMembers : ∀ as bs : List (String × Json), beqMembers as bs = true → as = bs
  | [], bs, h => by cases bs <;> simp_all [beqMembers]
  | a :: as, bs, h => by
      cases bs <;> simp [beqMembers] at h
      rw [eq_of_beqMember _ _ h.1, eq_of_beqMembers _ _ h.2]

theorem eq_of_beqMember : ∀ a b : String × Json, beqMember a b = true → a = b
  | (k, a), (l, b), h => by
      simp [beqMember] at h
      rw [h.1, eq_of_beq _ _ h.2]

end

mutual

theorem beq_self : ∀ a : Json, a.beq a = true
  | .null => rfl
  | .bool _ | .int _ | .real _ | .str _ => by simp [beq]
  | .arr as => by rw [beq]; exact beqItems_self as
  | .obj as => by rw [beq]; exact beqMembers_self as

theorem beqItems_self : ∀ as : List Json, beqItems as as = true
  | [] => rfl
  | a :: as => by rw [beqItems, beq_self a, beqItems_self as]; rfl

theorem beqMembers_self : ∀ as : List (String × Json), beqMembers as as = true
  | [] => rfl
  | a :: as => by rw [beqMembers, beqMember_self a, beqMembers_self as]; rfl

theorem beqMember_self : ∀ a : String × Json, beqMember a a = true
  | (k, a) => by rw [beqMember, beq_self a]; simp

end

theorem beq_eq_true_iff {a b : Json} : a.beq b = true ↔ a = b :=
  ⟨eq_of_beq a b, fun h => h ▸ beq_self a⟩

instance : DecidableEq Json := fun _ _ => decidable_of_iff _ beq_eq_true_iff

/-! ## Members -/

/-- The value under a name in a list of members; an absent member counts as `null`. -/
def memberOf (members : List (String × Json)) (name : String) : Json :=
  (members.lookup name).getD .null

/-- The member of an object; any other document has no members. -/
def member (name : String) : Json → Json
  | .obj members => memberOf members name
  | _ => .null

mutual

/-- The document without the object members that are `null`, at every depth. Elements of lists
stay, and so do objects and lists left empty. -/
def compact : Json → Json
  | .arr items => .arr (compactItems items)
  | .obj members => .obj (compactMembers members)
  | document => document

def compactItems : List Json → List Json
  | [] => []
  | item :: rest => compact item :: compactItems rest

def compactMembers : List (String × Json) → List (String × Json)
  | [] => []
  | m :: rest =>
      if m.2.isNull then compactMembers rest else compactMember m :: compactMembers rest

def compactMember : String × Json → String × Json
  | (name, value) => (name, compact value)

end

mutual

/-- The strings of a document at every depth, in order; the names of members are none of them. -/
def texts : Json → List String
  | .str value => [value]
  | .arr items => textsOfItems items
  | .obj members => textsOfMembers members
  | _ => []

def textsOfItems : List Json → List String
  | [] => []
  | item :: rest => texts item ++ textsOfItems rest

def textsOfMembers : List (String × Json) → List String
  | [] => []
  | m :: rest => textsOfMember m ++ textsOfMembers rest

def textsOfMember : String × Json → List String
  | (_, value) => texts value

end

end Json

end BucketSteward

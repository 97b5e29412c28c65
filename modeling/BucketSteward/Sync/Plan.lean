import BucketSteward.Call

/-!
What has to be done to turn the items of a collection into the desired ones, by id. The desired
items come first, in their order, and then what has to go. Of several desired items with one id the
first stands and the others are ignored.
-/

namespace BucketSteward

inductive ItemAction where
  /-- The item is there already. -/
  | keep
  /-- No item with its id is there. -/
  | put
  /-- Another item with its id is there. -/
  | update
  /-- No desired item has its id. -/
  | delete
  deriving DecidableEq, Repr

namespace Collection

/-- The first item with an id. -/
def find? (collection : Collection) (id : String) (items : List collection.Item) :
    Option collection.Item :=
  items.find? fun item => collection.id item == id

/-- The items whose id no earlier one has; `seen` holds the ids before the list. -/
def firstOfIds (collection : Collection) (seen : List String) :
    List collection.Item → List collection.Item
  | [] => []
  | item :: rest =>
      let id := collection.id item
      if seen.contains id then firstOfIds collection seen rest
      else item :: firstOfIds collection (id :: seen) rest

/-- What to do with a desired item. -/
def action (collection : Collection) (latest : List collection.Item) (item : collection.Item) :
    ItemAction :=
  match collection.find? (collection.id item) latest with
  | none => .put
  | some existing => if existing = item then .keep else .update

/-- What to do with every item that is desired or there. -/
def plan (collection : Collection) (desired latest : List collection.Item) :
    List (ItemAction × collection.Item) :=
  (collection.firstOfIds [] desired).map (fun item => (collection.action latest item, item))
    ++ (latest.filter fun item => (collection.find? (collection.id item) desired).isNone).map
      fun item => (.delete, item)

end Collection

end BucketSteward

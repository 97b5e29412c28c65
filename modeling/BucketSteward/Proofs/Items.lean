import BucketSteward.Normalization
import BucketSteward.Sync.Plan
import Mathlib.Data.List.Nodup

/-! The items of a collection by their ids. A list of items stands for the map from each id to its
first item; the items in the order of their ids are the values of that map, so two lists are
normalized alike exactly when they stand for the same map. Carrying out the plan between two lists
turns the map of the latest items into that of the desired ones. -/
namespace BucketSteward.Collection

variable {collection : Collection} {items desired latest : List collection.Item}

/-! ## Lists as maps -/

theorem find?_cons (item : collection.Item) (rest : List collection.Item) (id : String) :
    collection.find? id (item :: rest)
      = if id = collection.id item then some item else collection.find? id rest := by
  unfold find?
  by_cases same : id = collection.id item
  · rw [if_pos same, List.find?_cons_of_pos (by simp [same])]
  · have apart : ¬ collection.id item = id := fun other => same other.symm
    rw [if_neg same, List.find?_cons_of_neg (by simpa using apart)]

/-- What is found under an id has that id. -/
theorem id_of_find? {id : String} {item : collection.Item}
    (found : collection.find? id items = some item) : collection.id item = id := by
  simpa using List.find?_some found

/-- The map from ids to items that a list stands for. -/
def keyed (collection : Collection) (items : List collection.Item) : Keyed collection.Item :=
  items.foldr (fun item map => map.insert (collection.id item) item) Keyed.empty

theorem byId_eq (collection : Collection) (items : List collection.Item) :
    collection.byId items = (collection.keyed items).values := rfl

theorem get?_keyed (collection : Collection) (items : List collection.Item) (id : String) :
    (collection.keyed items).get? id = collection.find? id items := by
  induction items with
  | nil => rfl
  | cons item rest ih =>
    rw [find?_cons, ← ih]
    exact Keyed.get?_insert _ _ _ _

/-- A map in which every item is kept under its own id. -/
def Owns (collection : Collection) (map : Keyed collection.Item) : Prop :=
  ∀ id item, map.get? id = some item → collection.id item = id

theorem keyed_owns (items : List collection.Item) : collection.Owns (collection.keyed items) := by
  intro id item found
  rw [get?_keyed] at found
  exact id_of_find? found

variable {map other : Keyed collection.Item}

theorem names_eq (owns : collection.Owns map) : map.names = map.values.map collection.id := by
  rw [Keyed.names, Keyed.values, List.map_map]
  refine List.map_congr_left fun entry inside => ?_
  exact (owns entry.1 entry.2 (Keyed.get?_eq_some_iff.mpr inside)).symm

/-- Maps that keep every item under its own id are the same when they have the same items. -/
theorem eq_of_values_eq (owns : collection.Owns map) (also : collection.Owns other)
    (same : map.values = other.values) : map = other := by
  have names : map.names = other.names := by rw [names_eq owns, names_eq also, same]
  have entries : map.entries = other.entries := by
    have zipped (map : Keyed collection.Item) : map.entries = map.names.zip map.values := by
      rw [Keyed.names, Keyed.values, List.zip_map']
      simp
    rw [zipped map, zipped other, names, same]
  cases map
  cases other
  simpa using entries

/-- Under an id the values of a map have the item that the map keeps there. -/
theorem find?_values (owns : collection.Owns map) (id : String) :
    collection.find? id map.values = map.get? id := by
  have own : ∀ entry ∈ map.entries, collection.id entry.2 = entry.1 := fun entry inside =>
    owns entry.1 entry.2 (Keyed.get?_eq_some_iff.mpr inside)
  rw [Keyed.values, Keyed.get?]
  generalize map.entries = entries at own
  induction entries with
  | nil => rfl
  | cons entry rest ih =>
    rw [List.map_cons, find?_cons, Keyed.lookup_cons_ite, own entry List.mem_cons_self,
      ih fun other inside => own other (List.mem_cons_of_mem _ inside)]

theorem keyed_values (owns : collection.Owns map) : collection.keyed map.values = map :=
  Keyed.ext_get? fun id => by rw [get?_keyed, find?_values owns]

/-- A list is normalized like the values of a map exactly when it stands for the map. -/
theorem byId_eq_byId_values_iff (owns : collection.Owns map) :
    collection.byId items = collection.byId map.values ↔
      ∀ id, map.get? id = collection.find? id items := by
  rw [byId_eq, byId_eq, keyed_values owns]
  constructor
  · intro same id
    rw [← eq_of_values_eq (keyed_owns items) owns same, get?_keyed]
  · intro same
    congr 1
    exact Keyed.ext_get? fun id => by rw [get?_keyed, same]

/-- Normalized items are normalized like themselves. -/
theorem byId_byId (items : List collection.Item) :
    collection.byId (collection.byId items) = collection.byId items := by
  rw [byId_eq, byId_eq, keyed_values (keyed_owns items)]

/-- The items that stand are those that are found under their own ids. -/
theorem mem_byId {item : collection.Item} :
    item ∈ collection.byId items ↔ collection.find? (collection.id item) items = some item := by
  rw [byId_eq, ← get?_keyed, Keyed.get?_eq_some_iff, Keyed.values, List.mem_map]
  constructor
  · rintro ⟨entry, among, rfl⟩
    have own := keyed_owns items _ _ (Keyed.get?_eq_some_iff.mpr among)
    rw [own]
    exact among
  · intro among
    exact ⟨_, among, rfl⟩

theorem find?_eq_none_iff {id : String} :
    collection.find? id items = none ↔ id ∉ items.map collection.id := by
  rw [find?, List.find?_eq_none, List.mem_map, not_exists]
  simp [not_and]

/-- Of items with different ids, each is found under its own. -/
theorem find?_eq_some_iff (distinct : (items.map collection.id).Nodup) {id : String}
    {item : collection.Item} :
    collection.find? id items = some item ↔ item ∈ items ∧ collection.id item = id := by
  constructor
  · intro found
    exact ⟨List.mem_of_find?_eq_some found, id_of_find? found⟩
  · rintro ⟨among, rfl⟩
    cases found : collection.find? (collection.id item) items with
    | none => exact absurd (List.mem_map_of_mem among) (find?_eq_none_iff.mp found)
    | some other =>
      have same := List.inj_on_of_nodup_map distinct (List.mem_of_find?_eq_some found) among
      rw [same (id_of_find? found)]

/-- Under an id the same is found in whichever order items with different ids are. -/
theorem find?_of_perm (distinct : (items.map collection.id).Nodup) (rearranged : items.Perm desired)
    (id : String) : collection.find? id items = collection.find? id desired := by
  have alsoDistinct := (rearranged.map collection.id).nodup_iff.mp distinct
  refine Option.ext fun item => ?_
  rw [find?_eq_some_iff distinct, find?_eq_some_iff alsoDistinct, rearranged.mem_iff]

/-- The order in which items with different ids are written does not matter. -/
theorem byId_of_perm (distinct : (items.map collection.id).Nodup) (rearranged : items.Perm desired) :
    collection.byId items = collection.byId desired := by
  rw [byId_eq, byId_eq]
  congr 1
  refine Keyed.ext_get? fun id => ?_
  rw [get?_keyed, get?_keyed, find?_of_perm distinct rearranged]

/-- The items of a map are in the order of their ids. -/
theorem ids_sorted (owns : collection.Owns map) : (map.values.map collection.id).Pairwise (· < ·) := by
  rw [← names_eq owns]
  exact List.pairwise_map.mpr map.sorted

/-- Ids in strictly ascending order are different. -/
theorem nodup_of_ascending {ids : List String} (ascending : ids.Pairwise (· < ·)) : ids.Nodup := by
  refine ascending.imp fun {a b} before same => ?_
  exact String.lt_irrefl b (same ▸ before)

/-- The items of a map have different ids. -/
theorem ids_nodup (owns : collection.Owns map) : (map.values.map collection.id).Nodup :=
  nodup_of_ascending (ids_sorted owns)

/-- Of every id in a list the first item that has it, in the order of the ids. -/
structure FirstOfEach (collection : Collection) (items firsts : List collection.Item) : Prop where
  ascending : (firsts.map collection.id).Pairwise (· < ·)
  first : ∀ id, collection.find? id firsts = collection.find? id items

theorem byId_firstOfEach (items : List collection.Item) :
    collection.FirstOfEach items (collection.byId items) := by
  refine ⟨ids_sorted (keyed_owns items), fun id => ?_⟩
  rw [byId_eq, find?_values (keyed_owns items), get?_keyed]

/-- In a list of the items of a map, in whatever order, is found what the map has. -/
theorem find?_of_listed (owns : collection.Owns map) (listed : items.Perm map.values) (id : String) :
    collection.find? id items = map.get? id := by
  rw [← find?_of_perm (ids_nodup owns) listed.symm, find?_values owns]

/-- A change that keeps the ids keeps the order of the items. -/
theorem byId_map {change : collection.Item → collection.Item}
    (keeps : ∀ item, collection.id (change item) = collection.id item)
    (items : List collection.Item) :
    collection.byId (items.map change) = (collection.byId items).map change := by
  have entries : (collection.keyed (items.map change)).entries
      = (collection.keyed items).entries.map fun e => (e.1, change e.2) := by
    induction items with
    | nil => rfl
    | cons item rest ih =>
      calc (collection.keyed ((item :: rest).map change)).entries
          = Keyed.insertEntry (collection.id (change item)) (change item)
              (collection.keyed (rest.map change)).entries := rfl
        _ = Keyed.insertEntry (collection.id item) (change item)
              ((collection.keyed rest).entries.map fun e => (e.1, change e.2)) := by rw [keeps, ih]
        _ = (collection.keyed (item :: rest)).entries.map fun e => (e.1, change e.2) :=
              Keyed.insertEntry_map change (collection.id item) item _
  rw [byId_eq, byId_eq, Keyed.values, Keyed.values, entries, List.map_map, List.map_map]
  rfl

/-! ## Carrying out a plan -/

/-- What one step of a plan makes of a map. -/
def carry (collection : Collection) (map : Keyed collection.Item) :
    ItemAction × collection.Item → Keyed collection.Item
  | (.keep, _) => map
  | (.put, item) | (.update, item) => map.insert (collection.id item) item
  | (.delete, item) => map.erase (collection.id item)

theorem carry_owns (owns : collection.Owns map) (step : ItemAction × collection.Item) :
    collection.Owns (carry collection map step) := by
  obtain ⟨action, item⟩ := step
  intro id other found
  cases action with
  | keep => exact owns id other found
  | put | update =>
    rw [carry, Keyed.get?_insert] at found
    split at found
    case isTrue own => rw [own, ← Option.some.inj found]
    case isFalse => exact owns id other found
  | delete =>
    rw [carry, Keyed.get?_erase] at found
    split at found
    · cases found
    · exact owns id other found

theorem mem_firstOfIds {seen : List String} {item : collection.Item} :
    item ∈ collection.firstOfIds seen items ↔
      collection.id item ∉ seen ∧ collection.find? (collection.id item) items = some item := by
  induction items generalizing seen with
  | nil => simp [firstOfIds, find?]
  | cons own rest ih =>
    rw [find?_cons]
    simp only [firstOfIds]
    by_cases known : collection.id own ∈ seen
    · rw [if_pos (by simpa using known), ih]
      by_cases same : collection.id item = collection.id own
      · rw [same]
        exact iff_of_false (fun h => h.1 known) fun h => h.1 known
      · rw [if_neg same]
    · rw [if_neg (by simpa using known), List.mem_cons, ih]
      by_cases same : collection.id item = collection.id own
      · rw [if_pos same]
        constructor
        · rintro (rfl | ⟨fresh, -⟩)
          · exact ⟨known, rfl⟩
          · exact absurd (by simp [same]) fresh
        · rintro ⟨-, own⟩
          exact .inl (Option.some.inj own).symm
      · rw [if_neg same]
        have apart : item ≠ own := fun equal => same (equal ▸ rfl)
        simp [apart, same]

theorem firstOfIds_nodup (seen : List String) (items : List collection.Item) :
    ((collection.firstOfIds seen items).map collection.id).Nodup := by
  induction items generalizing seen with
  | nil => exact .nil
  | cons own rest ih =>
    simp only [firstOfIds]
    split
    · exact ih seen
    · refine List.nodup_cons.mpr ⟨?_, ih _⟩
      intro again
      obtain ⟨item, among, same⟩ := List.mem_map.mp again
      exact (mem_firstOfIds.mp among).1 (by simp [same])

theorem firstOfIds_sublist (seen : List String) (items : List collection.Item) :
    (collection.firstOfIds seen items).Sublist items := by
  induction items generalizing seen with
  | nil => exact .slnil
  | cons own rest ih =>
    simp only [firstOfIds]
    split
    · exact (ih seen).cons own
    · exact (ih _).cons_cons own

/-- An item that is there already is kept, and any other is written. -/
theorem get?_carry_action (item : collection.Item)
    (found : map.get? (collection.id item) = collection.find? (collection.id item) latest)
    (id : String) : (carry collection map (collection.action latest item, item)).get? id
      = if id = collection.id item then some item else map.get? id := by
  unfold action
  cases there : collection.find? (collection.id item) latest with
  | none => exact Keyed.get?_insert _ _ _ _
  | some existing =>
    simp only
    by_cases same : existing = item
    · rw [if_pos same]
      simp only [carry]
      split
      case isTrue own => rw [own, found, there, same]
      case isFalse => rfl
    · rw [if_neg same]
      exact Keyed.get?_insert _ _ _ _

/-- Carrying out what is to be done with desired items of different ids leaves each under its id. -/
theorem get?_carry_desired (found : ∀ item ∈ items,
      map.get? (collection.id item) = collection.find? (collection.id item) latest)
    (distinct : (items.map collection.id).Nodup) (id : String) :
    ((items.map fun item => (collection.action latest item, item)).foldl (carry collection) map).get? id
      = (collection.find? id items).or (map.get? id) := by
  induction items generalizing map with
  | nil => rfl
  | cons item rest ih =>
    obtain ⟨fresh, distinct⟩ := List.nodup_cons.mp distinct
    have first := get?_carry_action item (found item List.mem_cons_self)
    rw [List.map_cons, List.foldl_cons, ih _ distinct, first, find?_cons]
    · split
      case isTrue same => rw [same, find?_eq_none_iff.mpr fresh, Option.none_or, Option.some_or]
      case isFalse => rfl
    · intro later inside
      have apart : collection.id later ≠ collection.id item := fun same =>
        fresh (same ▸ List.mem_map_of_mem inside)
      rw [first, if_neg apart]
      exact found later (List.mem_cons_of_mem _ inside)

/-- Deleting items leaves nothing under their ids. -/
theorem get?_carry_deletions (items : List collection.Item) (id : String) :
    ((items.map fun item => (ItemAction.delete, item)).foldl (carry collection) map).get? id
      = if id ∈ items.map collection.id then none else map.get? id := by
  induction items generalizing map with
  | nil => simp
  | cons item rest ih =>
    rw [List.map_cons, List.foldl_cons, ih]
    simp only [carry, Keyed.get?_erase, List.map_cons, List.mem_cons]
    by_cases own : id = collection.id item <;> by_cases later : id ∈ rest.map collection.id <;>
      simp [own, later]

theorem find?_firstOfIds (id : String) :
    collection.find? id (collection.firstOfIds [] desired) = collection.find? id desired := by
  cases found : collection.find? id desired with
  | none =>
    refine find?_eq_none_iff.mpr fun among => ?_
    obtain ⟨item, inside, same⟩ := List.mem_map.mp among
    have first := (mem_firstOfIds.mp inside).2
    rw [same, found] at first
    cases first
  | some item =>
    have own := id_of_find? found
    refine (find?_eq_some_iff (firstOfIds_nodup [] desired)).mpr ⟨?_, own⟩
    exact mem_firstOfIds.mpr ⟨by simp, own ▸ found⟩

/-- The items that a plan writes: of the desired ones those that are not there already. -/
def puts (collection : Collection) (desired latest : List collection.Item) : List collection.Item :=
  (collection.firstOfIds [] desired).filter fun item =>
    collection.find? (collection.id item) latest ≠ some item

/-- The ids that a plan deletes: those of the latest items that no desired one has. -/
def deletions (collection : Collection) (desired latest : List collection.Item) : List String :=
  (latest.filter fun item => (collection.find? (collection.id item) desired).isNone).map collection.id

theorem mem_puts {item : collection.Item} :
    item ∈ collection.puts desired latest ↔ collection.find? (collection.id item) desired = some item ∧
      collection.find? (collection.id item) latest ≠ some item := by
  rw [puts, List.mem_filter, mem_firstOfIds]
  simp

theorem mem_deletions {id : String} :
    id ∈ collection.deletions desired latest ↔
      collection.find? id desired = none ∧ collection.find? id latest ≠ none := by
  have present : collection.find? id latest ≠ none ↔ id ∈ latest.map collection.id := by
    rw [Ne, find?_eq_none_iff, not_not]
  rw [present, deletions]
  constructor
  · intro among
    obtain ⟨item, inside, rfl⟩ := List.mem_map.mp among
    obtain ⟨inside, none⟩ := List.mem_filter.mp inside
    exact ⟨Option.isNone_iff_eq_none.mp none, List.mem_map_of_mem inside⟩
  · rintro ⟨none, there⟩
    obtain ⟨item, inside, rfl⟩ := List.mem_map.mp there
    exact List.mem_map_of_mem (List.mem_filter.mpr ⟨inside, Option.isNone_iff_eq_none.mpr none⟩)

/-- Carrying out the plan leaves under every id the first desired item that has it, where the latest
items are those that are there. -/
theorem get?_carry_plan (found : ∀ id, collection.find? id latest = map.get? id) (id : String) :
    ((collection.plan desired latest).foldl (carry collection) map).get? id
      = collection.find? id desired := by
  rw [plan, List.foldl_append, get?_carry_deletions,
    get?_carry_desired (fun item _ => (found _).symm) (firstOfIds_nodup [] desired), find?_firstOfIds]
  have gone : id ∈ collection.deletions desired latest ↔
      collection.find? id desired = none ∧ map.get? id ≠ none := by rw [mem_deletions, found]
  rw [deletions] at gone
  simp only [gone]
  cases collection.find? id desired with
  | some item => simp
  | none =>
    cases map.get? id <;> simp

/-- A plan that keeps everything leaves the map as it is. -/
theorem foldl_carry_of_keeps {steps : List (ItemAction × collection.Item)}
    (keeps : steps.any (·.1 != .keep) = false) : steps.foldl (carry collection) map = map := by
  induction steps with
  | nil => rfl
  | cons step rest ih =>
    obtain ⟨action, item⟩ := step
    rw [List.any_cons, Bool.or_eq_false_iff] at keeps
    obtain ⟨kept, keeps⟩ := keeps
    obtain rfl : action = .keep := by simpa using kept
    exact ih keeps

end BucketSteward.Collection

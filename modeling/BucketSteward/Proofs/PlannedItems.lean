import BucketSteward.Proofs.Items
import BucketSteward.Proofs.Serving

/-! Turning the stored items of a collection into desired ones. A step of a plan makes at most one
call, which does to the stored items what the step does to a map; so a plan that is carried out in
a store is folded over the items, whole or up to where it is cut off. The plan between what is
stored and what is desired has one call for each id under which the two differ and none for any
other, and what a cut leaves is again a map of items under their own ids, from which listing and
planning anew reaches the same. -/
namespace BucketSteward

namespace Collection

variable {collection : Collection} {name : String} {desired latest : List collection.Item}

/-! ## The calls of a plan -/

/-- The operations on the items of a bucket. -/
def operations (collection : Collection) : List String :=
  ["List" ++ collection.resource ++ "s", "Put" ++ collection.resource, "Delete" ++ collection.resource]

/-- The call that a step of a plan makes. -/
def callOf? (collection : Collection) (bucket : String) :
    ItemAction × collection.Item → Option Call
  | (.keep, _) => none
  | (.put, item) | (.update, item) => some (.putItem collection bucket item)
  | (.delete, item) => some (.deleteItem collection bucket (collection.id item))

/-- A call on a collection that makes of the stored items what a step makes of a map. -/
structure Carries (collection : Collection) (bucket : String) (step : ItemAction × collection.Item)
    (call : Call) (effect : StoredBucket → StoredBucket) : Prop where
  writes : call.effect? = some (bucket, effect)
  own : call.part? = some (.collection collection)
  operation : call.operation ∈ collection.operations
  items : ∀ stored, (effect stored).items collection
    = collection.carry (stored.items collection) step

variable {step : ItemAction × collection.Item} {call : Call}

theorem callOf?_carries (makes : collection.callOf? name step = some call) :
    ∃ effect, collection.Carries name step call effect := by
  obtain ⟨action, item⟩ := step
  cases action with
  | keep => cases makes
  | put | update | delete =>
    cases makes
    refine ⟨_, rfl, rfl, ?_, fun stored => stored.items_withItems _ _⟩
    simp [operations, Call.operation]

/-- Only a step that keeps an item makes no call. -/
theorem callOf?_eq_none_iff : collection.callOf? name step = none ↔ step.1 = .keep := by
  obtain ⟨action, item⟩ := step
  cases action <;> simp [callOf?]

/-- Something is written in a plan that makes a call. -/
theorem any_eq_calls (name : String) (plan : List (ItemAction × collection.Item)) :
    plan.any (·.1 != .keep) = !(plan.filterMap (collection.callOf? name)).isEmpty := by
  induction plan with
  | nil => rfl
  | cons step rest ih =>
    rw [List.any_cons, ih]
    cases makes : collection.callOf? name step with
    | none => rw [List.filterMap_cons_none makes, callOf?_eq_none_iff.mp makes, bne_self_eq_false,
        Bool.false_or]
    | some call =>
      have changes : step.1 ≠ .keep := fun kept => by simp [callOf?_eq_none_iff.mpr kept] at makes
      rw [List.filterMap_cons_some makes, bne_iff_ne.mpr changes, Bool.true_or]
      rfl

theorem callOf?_action (name : String) (item : collection.Item) :
    collection.callOf? name (collection.action latest item, item)
      = if collection.find? (collection.id item) latest ≠ some item
          then some (.putItem collection name item) else none := by
  unfold action
  cases collection.find? (collection.id item) latest with
  | none => simp [callOf?]
  | some existing =>
    by_cases same : existing = item <;> simp [callOf?, same]

/-- The calls that turn the latest items into the desired ones: what is not there already is put, and
then what is not desired is deleted. -/
def calls (collection : Collection) (bucket : String) (desired latest : List collection.Item) :
    List Call :=
  (collection.puts desired latest).map (.putItem collection bucket)
    ++ (collection.deletions desired latest).map (.deleteItem collection bucket)

theorem calls_plan (name : String) (desired latest : List collection.Item) :
    (collection.plan desired latest).filterMap (collection.callOf? name)
      = collection.calls name desired latest := by
  rw [plan, List.filterMap_append, calls]
  congr 1
  · rw [List.filterMap_map, puts, ← List.filterMap_eq_map, List.filterMap_filter]
    refine List.filterMap_congr fun item _ => ?_
    simpa using callOf?_action name item
  · rw [List.filterMap_map, deletions, List.map_map, ← List.filterMap_eq_map]
    rfl

theorem itemIds_calls (name : String) (desired latest : List collection.Item) :
    (collection.calls name desired latest).filterMap Call.itemId?
      = (collection.puts desired latest).map collection.id ++ collection.deletions desired latest := by
  simp [calls, List.filterMap_map, Function.comp_def, Call.itemId?]

theorem puts_sublist (desired latest : List collection.Item) :
    (collection.puts desired latest).Sublist desired :=
  List.filter_sublist.trans (firstOfIds_sublist [] desired)

/-- A plan addresses an id once where the desired and the latest items differ, and not at all where
they do not. -/
theorem count_planned (distinct : (latest.map collection.id).Nodup) (id : String) :
    ((collection.puts desired latest).map collection.id ++ collection.deletions desired latest).count id
      = if collection.find? id latest = collection.find? id desired then 0 else 1 := by
  have put : id ∈ (collection.puts desired latest).map collection.id ↔
      collection.find? id desired ≠ none ∧
        collection.find? id latest ≠ collection.find? id desired := by
    constructor
    · intro among
      obtain ⟨item, inside, rfl⟩ := List.mem_map.mp among
      obtain ⟨first, absent⟩ := mem_puts.mp inside
      exact ⟨by simp [first], first ▸ absent⟩
    · rintro ⟨there, differ⟩
      obtain ⟨item, first⟩ := Option.ne_none_iff_exists'.mp there
      obtain rfl := id_of_find? first
      exact List.mem_map_of_mem (mem_puts.mpr ⟨first, first ▸ differ⟩)
  have puts : ((collection.puts desired latest).map collection.id).Nodup :=
    (firstOfIds_nodup [] desired).sublist (List.filter_sublist.map collection.id)
  have deletions : (collection.deletions desired latest).Nodup :=
    distinct.sublist (List.filter_sublist.map collection.id)
  rw [List.count_append, puts.count, deletions.count]
  simp only [put, mem_deletions]
  by_cases wanted : collection.find? id desired = none <;> simp [wanted]

end Collection

/-! ## Carrying out a plan -/

/-- Under every id a bucket has the first of some items that has it, and under other ids nothing. -/
def Store.HasItems (store : Store) (name : String) (collection : Collection)
    (items : List collection.Item) : Prop :=
  store.Has name fun bucket => ∀ id, (bucket.items collection).get? id = collection.find? id items

namespace Pass

open Program Store

variable {collection : Collection} {store : Store} {name : String} {stored : StoredBucket}

theorem carryOut_cons (collection : Collection) (name : String) (step : ItemAction × collection.Item)
    (rest : List (ItemAction × collection.Item)) :
    ∃ label, carryOut collection name (step :: rest) = match collection.callOf? name step with
      | none => carryOut collection name rest
      | some call => (Pass.call label call).bind fun _ =>
          (carryOut collection name rest).bind fun _ => .done (.ok true) := by
  obtain ⟨action, item⟩ := step
  cases action with
  | keep => exact ⟨⟨.readMany, collection.listOperation⟩, rfl⟩
  | put | update | delete => exact ⟨_, rfl⟩

/-- Whatever is answered, only calls of the plan are made. -/
theorem carryOut_uses (plan : List (ItemAction × collection.Item)) :
    (carryOut collection name plan).Uses fun call =>
      ∃ step ∈ plan, collection.callOf? name step = some call := by
  induction plan with
  | nil => exact .done _
  | cons step rest ih =>
    have later : (carryOut collection name rest).Uses fun call =>
        ∃ other ∈ step :: rest, collection.callOf? name other = some call :=
      ih.mono fun _ ⟨other, among, makes⟩ => ⟨other, List.mem_cons_of_mem _ among, makes⟩
    obtain ⟨label, first⟩ := carryOut_cons collection name step rest
    rw [first]
    cases makes : collection.callOf? name step with
    | none => exact later
    | some call =>
      exact (call_uses ⟨step, List.mem_cons_self, makes⟩).bind fun _ =>
        later.bind fun _ => .done _

/-- Where its operations are not made to fail, a plan is carried out call by call, and makes of the
stored items what its steps make of them. -/
theorem carryOut_succeeds (spared : store.Spares collection.operations)
    (found : store.buckets.get? name = some stored) (plan : List (ItemAction × collection.Item)) :
    ∃ after bucket, (carryOut collection name plan).Succeeds serve store
        (plan.filterMap (collection.callOf? name)) (plan.any (·.1 != .keep)) after ∧
      store.Rewritten name bucket after ∧
      bucket.items collection = plan.foldl collection.carry (stored.items collection) ∧
      ∀ other, other ≠ .collection collection → bucket.SamePart stored other := by
  induction plan generalizing store stored with
  | nil => exact ⟨store, stored, .done false store, .refl found, rfl, fun other _ => .refl _ _⟩
  | cons step rest ih =>
    obtain ⟨label, first⟩ := carryOut_cons collection name step rest
    rw [first]
    cases makes : collection.callOf? name step with
    | none =>
      obtain ⟨after, bucket, ran, left, carried, others⟩ := ih spared found
      obtain ⟨action, item⟩ := step
      obtain rfl : action = .keep := Collection.callOf?_eq_none_iff.mp makes
      exact ⟨after, bucket, ran, left, carried, others⟩
    | some call =>
      obtain ⟨effect, own⟩ := Collection.callOf?_carries makes
      obtain ⟨reply, middle, called, left⟩ := write_succeeds own.writes (spared _ own.operation) found
      obtain ⟨after, bucket, ran, final, carried, others⟩ := ih (left.spares spared) left.here
      refine ⟨after, bucket, ?_, left.trans final, ?_, fun other apart => ?_⟩
      · rw [Collection.any_eq_calls name, List.filterMap_cons_some makes]
        exact called.bind (ran.map fun _ => true)
      · rw [carried, own.items, List.foldl_cons]
      · exact (others other apart).trans
          (Call.effect_samePart own.writes (by simpa [own.own] using apart.symm) stored)

/-- What every step of a plan keeps is true of the stored items in every state that a run goes
through, also where calls fail. -/
theorem carryOut_throughout (inv : Keyed collection.Item → Prop)
    {plan : List (ItemAction × collection.Item)}
    (keeps : ∀ step ∈ plan, ∀ items, inv items → inv (collection.carry items step))
    (found : store.buckets.get? name = some stored) (start : inv (stored.items collection)) :
    ∀ there ∈ (carryOut collection name plan).states serve store,
      there.Has name fun bucket => inv (bucket.items collection) := by
  refine (carryOut_uses plan).holds_throughout serve _ ?_ ⟨stored, found, start⟩
  rintro call there ⟨step, among, makes⟩ has
  obtain ⟨effect, own⟩ := Collection.callOf?_carries makes
  refine serve_has_of (by simp [own.own]) (fun also bucket writes holds => ?_) has
  obtain rfl : effect = also := (Prod.mk.inj (Option.some.inj (own.writes.symm.trans writes))).2
  rw [own.items]
  exact keeps step among _ holds

/-! ## Turning items into others -/

/-- Where the latest items are those that are stored, in whatever order, they are turned into the
desired ones. -/
theorem syncItems_succeeds (spared : store.Spares collection.operations)
    (found : store.buckets.get? name = some stored) (owns : collection.Owns (stored.items collection))
    (desired : Option (List collection.Item)) {latest : List collection.Item}
    (listed : latest.Perm (stored.items collection).values) :
    ∃ after, (syncItems collection name desired (some latest)).Succeeds serve store
        (collection.calls name (desired.getD []) latest)
        (!(collection.calls name (desired.getD []) latest).isEmpty) after ∧
      after.HasItems name collection (desired.getD []) := by
  obtain ⟨after, bucket, ran, left, carried, -⟩ :=
    carryOut_succeeds spared found (collection.plan (desired.getD []) latest)
  rw [Collection.any_eq_calls name, Collection.calls_plan] at ran
  refine ⟨after, ran, bucket, left.here, fun id => ?_⟩
  rw [carried]
  exact Collection.get?_carry_plan (Collection.find?_of_listed owns listed) id

theorem readItems_succeeds (spared : store.Spares collection.operations)
    (found : store.buckets.get? name = some stored) :
    (readItems collection name).Succeeds serve store [.listItems collection name]
      (stored.items collection).values (store.log (.listItems collection name)) := by
  refine call_succeeds ?_
  rw [serve_spared _ (spared _ (by simp [Collection.operations, Call.operation]))]
  simp only [perform, reading]
  rw [show (store.log (.listItems collection name)).buckets.get? name = some stored from found]

/-- Wherever a run is cut off, every item is under its own id. -/
theorem syncItems_owns (found : store.buckets.get? name = some stored)
    (owns : collection.Owns (stored.items collection)) (desired latest : Option (List collection.Item)) :
    ∀ cut ∈ (syncItems collection name desired latest).states serve store,
      cut.Has name fun bucket => collection.Owns (bucket.items collection) :=
  carryOut_throughout collection.Owns (fun step _ _ own => Collection.carry_owns own step) found owns

/-- Without latest items a plan only puts. -/
theorem puts_of_plan {step : ItemAction × collection.Item} {desired : List collection.Item}
    (among : step ∈ collection.plan desired []) : step.1 = .put ∧ step.2 ∈ desired := by
  obtain ⟨item, inside, rfl⟩ : ∃ item ∈ collection.firstOfIds [] desired, (.put, item) = step := by
    simpa [Collection.plan, Collection.action, Collection.find?] using among
  exact ⟨rfl, (Collection.firstOfIds_sublist [] desired).subset inside⟩

/-- The items that are stored are turned into the desired ones by the fewest calls: one for each id
under which the two differ, first the puts in the order in which they are desired and then the
deletions, and the answer tells whether there was any. Wherever a run is cut off, with whatever
failures, listing and running again ends the same once the operations are spared. Where nothing is
known of the latest items none is deleted. -/
theorem syncItems_exact (collection : Collection) {store : Store} {name : String}
    {stored : StoredBucket} (found : store.buckets.get? name = some stored)
    (owns : collection.Owns (stored.items collection)) (desired : Option (List collection.Item))
    {latest : List collection.Item} (listed : latest.Perm (stored.items collection).values) :
    (store.Spares collection.operations →
      ∃ (puts : List collection.Item) (deletions : List String) (after : Store),
        let calls := puts.map (.putItem collection name) ++ deletions.map (.deleteItem collection name)
        (syncItems collection name desired (some latest)).Succeeds serve store calls
            (!calls.isEmpty) after ∧
          after.HasItems name collection (desired.getD []) ∧
          puts.Sublist (desired.getD []) ∧
          ∀ id, (calls.filterMap Call.itemId?).count id
            = if (stored.items collection).get? id = collection.find? id (desired.getD [])
                then 0 else 1) ∧
    (∀ cut ∈ (syncItems collection name desired (some latest)).states serve store,
      ∀ failures, ({ cut with failures := failures } : Store).Spares collection.operations →
        ∃ calls written after, ((readItems collection name).bind fun relisted =>
            syncItems collection name desired (some relisted)).Succeeds serve
              { cut with failures := failures } calls written after ∧
          after.HasItems name collection (desired.getD [])) ∧
    (syncItems collection name desired none).Uses (fun call : Call =>
        ∃ item ∈ desired.getD [], call = .putItem collection name item) ∧
      ∀ there ∈ (syncItems collection name desired none).states serve store,
        there.Has name fun bucket =>
          ∀ id, (stored.items collection).get? id ≠ none → (bucket.items collection).get? id ≠ none := by
  refine ⟨fun spared => ?fewest, fun cut among failures spared => ?again, ?onlyPuts, ?kept⟩
  case fewest =>
    obtain ⟨after, ran, reached⟩ := syncItems_succeeds spared found owns desired listed
    have distinct := (listed.map collection.id).nodup_iff.mpr (Collection.ids_nodup owns)
    refine ⟨collection.puts (desired.getD []) latest, collection.deletions (desired.getD []) latest,
      after, ran, reached, Collection.puts_sublist _ latest, fun id => ?_⟩
    rw [← Collection.find?_of_listed owns listed, ← Collection.count_planned distinct,
      ← Collection.itemIds_calls name]
    rfl
  case again =>
    obtain ⟨bucket, there, owns⟩ := syncItems_owns found owns desired (some latest) cut among
    have relisted := readItems_succeeds spared there
    have stillSpared : (Store.log { cut with failures := failures }
      (.listItems collection name)).Spares collection.operations := spared
    obtain ⟨after, ran, reached⟩ := syncItems_succeeds stillSpared there owns desired (.refl _)
    exact ⟨_, _, after, relisted.bind ran, reached⟩
  case onlyPuts =>
    refine (carryOut_uses _).mono ?_
    rintro call ⟨⟨action, item⟩, among, makes⟩
    obtain ⟨rfl, inside⟩ := puts_of_plan among
    exact ⟨item, inside, (Option.some.inj makes).symm⟩
  case kept =>
    refine carryOut_throughout (fun items => ∀ id, (stored.items collection).get? id ≠ none →
      items.get? id ≠ none) ?_ found fun _ there => there
    rintro ⟨action, item⟩ among items kept id there
    obtain ⟨rfl, -⟩ := puts_of_plan among
    rw [Collection.carry, Keyed.get?_insert]
    split
    · simp
    · exact kept id there

/-- A run that is cut short by a refused deletion has put what is desired, and listing and running again
deletes the rest. -/
theorem refused_deletion_made_up :
    let stored : StoredBucket := {
      metrics := Collection.keyed .metrics [{ id := some "whole" }, { id := some "logs" }] }
    let store : Store := {
      buckets := Keyed.ofList [("ledger", stored)]
      failures := Keyed.ofList [("DeleteBucketMetricsConfiguration", "SlowDown")] }
    let desired : List MetricsConfiguration := [{ id := some "images" }, { id := some "whole" }]
    let halfway : Store := { ((syncItems .metrics "ledger" (some desired)
      (some [{ id := some "whole" }, { id := some "logs" }])).run serve store).2 with failures := {} }
    (halfway.buckets.get? "ledger").map (·.metrics.names) = some ["images", "logs", "whole"] ∧
      ∃ calls written after, ((readItems .metrics "ledger").bind fun relisted =>
          syncItems .metrics "ledger" (some desired) (some relisted)).Succeeds serve halfway
            calls written after ∧ after.HasItems "ledger" .metrics desired := by
  intro stored store desired halfway
  have found : store.buckets.get? "ledger" = some stored := by decide +kernel
  have owns : Collection.metrics.Owns (stored.items .metrics) := Collection.keyed_owns _
  have listed : List.Perm [{ id := some "whole" }, { id := some "logs" }]
      (stored.items .metrics).values := List.reverse_perm (stored.items .metrics).values
  have both : (halfway.buckets.get? "ledger").map (·.metrics.names)
      = some ["images", "logs", "whole"] := by decide +kernel
  exact ⟨both, (syncItems_exact .metrics found owns (some desired) listed).2.1 _
    (run_mem_states serve _ store) {} fun _ _ => rfl⟩

end Pass

end BucketSteward

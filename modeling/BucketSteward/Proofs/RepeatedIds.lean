import BucketSteward.Proofs.Items
import Mathlib.Data.List.Destutter
import Mathlib.Data.List.Sort

/-! Of several items with one id the first stands, whichever way repeated ids are dealt with. Putting
items in the order of their ids, which is to sort them stably and to leave out those that repeat the id
before them, keeps of every id the first item and nothing else; and what has to be done to turn one list
of items into another does not depend on whether the two were put in order before. -/
namespace BucketSteward.Collection

variable {collection : Collection} {items firsts desired latest : List collection.Item}

theorem find?_byId (items : List collection.Item) (id : String) :
    collection.find? id (collection.byId items) = collection.find? id items :=
  (byId_firstOfEach items).first id

theorem byId_nodup (items : List collection.Item) :
    ((collection.byId items).map collection.id).Nodup :=
  ids_nodup (keyed_owns items)

/-- Of items with different ids, those of one id are the one that is found under it, if any is. -/
theorem filter_id (distinct : (items.map collection.id).Nodup) (id : String) :
    items.filter (collection.id · == id) = (collection.find? id items).toList := by
  induction items with
  | nil => rfl
  | cons item rest ih =>
    obtain ⟨fresh, distinct⟩ := List.nodup_cons.mp distinct
    rw [find?_cons]
    by_cases own : id = collection.id item
    · have none : collection.find? id rest = none := find?_eq_none_iff.mpr (own ▸ fresh)
      rw [if_pos own, List.filter_cons_of_pos (by simp [own]), ih distinct, none]
      rfl
    · have other : ¬ collection.id item = id := fun same => own same.symm
      rw [if_neg own, List.filter_cons_of_neg (by simpa using other), ih distinct]

/-! ## Sorting and leaving out repetitions -/

/-- The order of items by their ids; items of one id are as good as each other. -/
def notAfter (collection : Collection) (a b : collection.Item) : Bool :=
  decide (collection.id a ≤ collection.id b)

/-- The items without those whose id is that of the last item kept before them. -/
def withoutRepeats (collection : Collection) (items : List collection.Item) : List collection.Item :=
  items.destutter fun a b => collection.id a ≠ collection.id b

theorem notAfter_trans (a b c : collection.Item) (first : collection.notAfter a b = true)
    (second : collection.notAfter b c = true) : collection.notAfter a c = true := by
  simp only [notAfter, decide_eq_true_eq] at first second ⊢
  exact String.le_trans first second

theorem notAfter_total (a b : collection.Item) :
    (collection.notAfter a b || collection.notAfter b a) = true := by
  simp only [notAfter, Bool.or_eq_true, decide_eq_true_eq]
  exact String.le_total _ _

/-- Sorting is stable: the items of one id keep their order. -/
theorem filter_mergeSort (items : List collection.Item) (id : String) :
    (items.mergeSort collection.notAfter).filter (collection.id · == id)
      = items.filter (collection.id · == id) := by
  have alike : (items.filter (collection.id · == id)).Pairwise
      fun a b => collection.notAfter a b = true := by
    refine List.pairwise_of_forall_mem_list fun a first b second => ?_
    have ofA : collection.id a = id := by simpa using (List.mem_filter.mp first).2
    have ofB : collection.id b = id := by simpa using (List.mem_filter.mp second).2
    simp [notAfter, ofA, ofB]
  have inside : (items.filter (collection.id · == id)).Sublist (items.mergeSort collection.notAfter) :=
    List.sublist_mergeSort notAfter_trans notAfter_total alike List.filter_sublist
  have kept := inside.filter (collection.id · == id)
  rw [List.filter_filter] at kept
  simp only [Bool.and_self] at kept
  refine (kept.eq_of_length ?_).symm
  exact ((List.mergeSort_perm items collection.notAfter).filter _).length_eq.symm

theorem find?_mergeSort (items : List collection.Item) (id : String) :
    collection.find? id (items.mergeSort collection.notAfter) = collection.find? id items := by
  rw [find?, find?, ← List.head?_filter, ← List.head?_filter, filter_mergeSort]

/-- What is left out has the id of an item that was kept before it. -/
theorem find?_withoutRepeats (items : List collection.Item) (id : String) :
    collection.find? id (collection.withoutRepeats items) = collection.find? id items := by
  cases items with
  | nil => rfl
  | cons item rest =>
    rw [withoutRepeats, List.destutter_cons']
    induction rest generalizing item with
    | nil => rfl
    | cons next rest ih =>
      by_cases fresh : collection.id item ≠ collection.id next
      · rw [List.destutter'_cons_pos rest fresh, find?_cons, ih, find?_cons item]
      · rw [List.destutter'_cons_neg rest fresh, ih, find?_cons, find?_cons, find?_cons, not_ne_iff.mp fresh]
        split <;> rfl

/-- Where no id comes after a greater one, what is kept has ascending ids. -/
theorem withoutRepeats_ascending
    (sorted : items.Pairwise fun a b => collection.notAfter a b = true) :
    ((collection.withoutRepeats items).map collection.id).Pairwise (· < ·) := by
  have steps : (collection.withoutRepeats items).IsChain fun a b => collection.id a ≠ collection.id b :=
    List.isChain_destutter _ items
  have order : (collection.withoutRepeats items).Pairwise fun a b => collection.notAfter a b = true :=
    sorted.sublist (List.destutter_sublist _ items)
  have chain : ((collection.withoutRepeats items).map collection.id).IsChain (· < ·) := by
    rw [List.isChain_map, List.isChain_iff_getElem]
    intro i inside
    have apart := List.isChain_iff_getElem.mp steps i inside
    have before := List.isChain_iff_getElem.mp order.isChain i inside
    simp only [notAfter, decide_eq_true_eq] at before
    exact Std.lt_of_le_of_ne before apart
  exact List.isChain_iff_pairwise.mp chain

/-- There is only one list that has of every id the first item, in the order of the ids. -/
theorem FirstOfEach.unique (one : collection.FirstOfEach items firsts) :
    firsts = collection.byId items := by
  have other := byId_firstOfEach items
  have distinct {found : List collection.Item} (each : collection.FirstOfEach items found) :
      (found.map collection.id).Nodup := nodup_of_ascending each.ascending
  have members {found : List collection.Item} (each : collection.FirstOfEach items found)
      (item : collection.Item) :
      item ∈ found ↔ collection.find? (collection.id item) items = some item := by
    rw [← each.first, find?_eq_some_iff (distinct each), and_iff_left rfl]
  have same : firsts.Perm (collection.byId items) := by
    refine (List.perm_ext_iff_of_nodup (distinct one).of_map (distinct other).of_map).mpr fun item => ?_
    rw [members one, members other]
  refine same.eq_of_pairwise (fun a b _ _ before after => ?_) (List.pairwise_map.mp one.ascending)
    (List.pairwise_map.mp other.ascending)
  exact absurd after (String.lt_asymm before)

/-- Putting items in order is sorting them stably and leaving out repetitions. -/
theorem byId_eq_withoutRepeats (items : List collection.Item) :
    collection.byId items = collection.withoutRepeats (items.mergeSort collection.notAfter) := by
  refine (FirstOfEach.unique ⟨?_, fun id => ?_⟩).symm
  · exact withoutRepeats_ascending (List.pairwise_mergeSort notAfter_trans notAfter_total items)
  · rw [find?_withoutRepeats, find?_mergeSort]

/-! ## Plans -/

/-- Items with different ids are all first of their ids. -/
theorem firstOfIds_of_nodup {seen : List String} (distinct : (items.map collection.id).Nodup)
    (fresh : ∀ item ∈ items, collection.id item ∉ seen) : collection.firstOfIds seen items = items := by
  induction items generalizing seen with
  | nil => rfl
  | cons item rest ih =>
    obtain ⟨own, distinct⟩ := List.nodup_cons.mp distinct
    have unseen : ¬ seen.contains (collection.id item) = true := by
      simpa using fresh item List.mem_cons_self
    have later : ∀ other ∈ rest, collection.id other ∉ collection.id item :: seen := by
      intro other among
      have apart : collection.id other ≠ collection.id item := fun same =>
        own (same ▸ List.mem_map_of_mem among)
      simp [apart, fresh other (List.mem_cons_of_mem _ among)]
    rw [firstOfIds]
    simp only [if_neg unseen, ih distinct later]

/-- The two ways to keep the first item of every id keep the same items. -/
theorem byId_perm_firstOfIds (items : List collection.Item) :
    (collection.byId items).Perm (collection.firstOfIds [] items) := by
  refine (List.perm_ext_iff_of_nodup (byId_nodup items).of_map (firstOfIds_nodup [] items).of_map).mpr
    fun item => ?_
  rw [mem_byId, mem_firstOfIds]
  simp

/-- Items with different ids are only put in another order. -/
theorem byId_perm (distinct : (items.map collection.id).Nodup) : (collection.byId items).Perm items := by
  have all : collection.firstOfIds [] items = items :=
    firstOfIds_of_nodup distinct fun item _ => List.not_mem_nil
  have perm := byId_perm_firstOfIds items
  rwa [all] at perm

theorem action_byId (latest : List collection.Item) (item : collection.Item) :
    collection.action (collection.byId latest) item = collection.action latest item := by
  rw [action, find?_byId, action]

/-- What a plan does with the desired items is the same for items in order. -/
theorem plan_byId_perm (distinct : (latest.map collection.id).Nodup) :
    (collection.plan (collection.byId desired) (collection.byId latest)).Perm
      (collection.plan desired latest) := by
  have all : collection.firstOfIds [] (collection.byId desired) = collection.byId desired :=
    firstOfIds_of_nodup (byId_nodup desired) fun item _ => List.not_mem_nil
  simp only [plan, all, action_byId, find?_byId]
  apply List.Perm.append
  · exact (byId_perm_firstOfIds desired).map _
  · exact ((byId_perm distinct).filter _).map _

/-- **The first item of every id stands, in order and in a plan.** To put items in order is to sort them
stably and to leave out repetitions. They then have strictly increasing ids, under each id exactly the
first item that has it, and nothing else; and where the latest items have different ids, the plan for
items in order does the same with the same items as the plan for the items as they are. -/
theorem first_of_id_stands (items desired latest : List collection.Item)
    (distinct : (latest.map collection.id).Nodup) :
    collection.byId items = collection.withoutRepeats (items.mergeSort collection.notAfter) ∧
    ((collection.byId items).map collection.id).Pairwise (· < ·) ∧
    (∀ id, (collection.byId items).filter (collection.id · == id)
      = (items.find? (collection.id · == id)).toList) ∧
    (collection.plan (collection.byId desired) (collection.byId latest)).Perm
      (collection.plan desired latest) := by
  refine ⟨byId_eq_withoutRepeats items, (byId_firstOfEach items).ascending, fun id => ?_,
    plan_byId_perm distinct⟩
  rw [filter_id (byId_nodup items), find?_byId]
  rfl

/-- Metrics without an id and metrics with an empty one have the same id; the first of them is put. -/
theorem absent_id_repeats_empty_id :
    let unnamed : MetricsConfiguration := { filter := some { keyPrefix := some "images/" } }
    let logs : MetricsConfiguration := { id := some "logs" }
    let whole : MetricsConfiguration := { id := some "whole" }
    let again : MetricsConfiguration := { logs with filter := some {} }
    let desired := [logs, unnamed, { id := some "" }, again]
    let latest := [whole, again]
    (latest.map (Collection.id .metrics)).Nodup ∧
      Collection.byId .metrics desired = [unnamed, logs] ∧
      Collection.plan .metrics desired latest = [(.update, logs), (.put, unnamed), (.delete, whole)] ∧
      (Collection.plan .metrics (Collection.byId .metrics desired) (Collection.byId .metrics latest)).Perm
        (Collection.plan .metrics desired latest) := by
  intro unnamed logs whole again desired latest
  have distinct : (latest.map (Collection.id .metrics)).Nodup := by decide
  have stands := @first_of_id_stands .metrics desired desired latest distinct
  exact ⟨distinct, by decide +kernel, by decide +kernel, stands.2.2.2⟩

end BucketSteward.Collection

/-!
Finite maps from names to values, kept in the order of their names. The order is that of the code
points, so two maps that answer every look-up alike are the same map (`Keyed.ext_get?`), whatever
was written to them in which order.

`insert` writes one name and `erase` forgets one; each leaves every other name alone.
-/

namespace BucketSteward

/-- Entries in strictly increasing order of their names. -/
structure Keyed (α : Type) where
  entries : List (String × α)
  sorted : entries.Pairwise fun a b => a.1 < b.1
  deriving DecidableEq

namespace Keyed

variable {α : Type}

def empty : Keyed α := ⟨[], .nil⟩

instance : Inhabited (Keyed α) := ⟨empty⟩

instance : EmptyCollection (Keyed α) := ⟨empty⟩

def get? (map : Keyed α) (name : String) : Option α :=
  map.entries.lookup name

def contains (map : Keyed α) (name : String) : Bool :=
  (map.get? name).isSome

def names (map : Keyed α) : List String :=
  map.entries.map (·.1)

def values (map : Keyed α) : List α :=
  map.entries.map (·.2)

/-! ## Writing -/

def insertEntry (name : String) (value : α) : List (String × α) → List (String × α)
  | [] => [(name, value)]
  | e :: rest =>
      if name < e.1 then (name, value) :: e :: rest
      else if name = e.1 then (name, value) :: rest
      else e :: insertEntry name value rest

theorem mem_insertEntry {name : String} {value : α} {entries : List (String × α)} {e : String × α}
    (h : e ∈ insertEntry name value entries) : e = (name, value) ∨ e ∈ entries := by
  induction entries with
  | nil => simpa [insertEntry] using h
  | cons d rest ih =>
    simp only [insertEntry] at h
    split at h
    · simpa using h
    · split at h
      · rcases List.mem_cons.1 h with rfl | h
        · exact .inl rfl
        · exact .inr (List.mem_cons_of_mem _ h)
      · rcases List.mem_cons.1 h with rfl | h
        · exact .inr List.mem_cons_self
        · exact (ih h).imp id (List.mem_cons_of_mem _)

theorem insertEntry_sorted (name : String) (value : α) {entries : List (String × α)}
    (h : entries.Pairwise fun a b => a.1 < b.1) :
    (insertEntry name value entries).Pairwise fun a b => a.1 < b.1 := by
  induction entries with
  | nil => simp [insertEntry]
  | cons e rest ih =>
    obtain ⟨he, hr⟩ := List.pairwise_cons.1 h
    simp only [insertEntry]
    split
    case isTrue hlt =>
      refine List.pairwise_cons.2 ⟨fun d hd => ?_, h⟩
      rcases List.mem_cons.1 hd with rfl | hd
      · exact hlt
      · exact String.lt_trans hlt (he d hd)
    case isFalse hlt =>
      split
      case isTrue heq =>
        exact List.pairwise_cons.2 ⟨fun d hd => heq ▸ he d hd, hr⟩
      case isFalse hne =>
        refine List.pairwise_cons.2 ⟨fun d hd => ?_, ih hr⟩
        rcases mem_insertEntry hd with rfl | hd
        · rcases Std.lt_trichotomy e.1 name with h | h | h
          · exact h
          · exact absurd h.symm hne
          · exact absurd h hlt
        · exact he d hd

/-- Changing every value and writing one do not disturb each other. -/
theorem insertEntry_map {β : Type} (change : α → β) (name : String) (value : α)
    (entries : List (String × α)) :
    insertEntry name (change value) (entries.map fun e => (e.1, change e.2))
      = (insertEntry name value entries).map fun e => (e.1, change e.2) := by
  induction entries with
  | nil => rfl
  | cons e rest ih =>
    simp only [List.map_cons, insertEntry, ih]
    split
    · rfl
    · split <;> rfl

/-- The map with one name written. -/
def insert (map : Keyed α) (name : String) (value : α) : Keyed α :=
  ⟨insertEntry name value map.entries, insertEntry_sorted name value map.sorted⟩

/-- The map with one name forgotten. -/
def erase (map : Keyed α) (name : String) : Keyed α :=
  ⟨map.entries.filter fun e => e.1 != name, map.sorted.filter _⟩

/-- Writes the entries in their order, so that of two under one name the later stands. -/
def ofList (entries : List (String × α)) : Keyed α :=
  entries.foldl (fun map e => map.insert e.1 e.2) empty

/-! ## Look-up -/

theorem lookup_cons_ite (e : String × α) (rest : List (String × α)) (name : String) :
    (e :: rest).lookup name = if name = e.1 then some e.2 else rest.lookup name := by
  rw [List.lookup_cons]
  by_cases h : name = e.1
  · simp [h]
  · have : (name == e.1) = false := by simpa using h
    simp [h, this]

theorem lookup_insertEntry (name : String) (value : α) (entries : List (String × α))
    (other : String) :
    (insertEntry name value entries).lookup other
      = if other = name then some value else entries.lookup other := by
  induction entries with
  | nil => simp only [insertEntry, lookup_cons_ite, List.lookup_nil]
  | cons e rest ih =>
    simp only [insertEntry]
    split
    · simp only [lookup_cons_ite]
    · split
      case isTrue heq => grind [lookup_cons_ite]
      case isFalse hne => grind [lookup_cons_ite]

@[simp] theorem get?_insert (map : Keyed α) (name other : String) (value : α) :
    (map.insert name value).get? other = if other = name then some value else map.get? other :=
  lookup_insertEntry name value map.entries other

theorem lookup_filter_ne (entries : List (String × α)) (name other : String) :
    (entries.filter fun e => e.1 != name).lookup other
      = if other = name then none else entries.lookup other := by
  induction entries with
  | nil => simp
  | cons e rest ih =>
    by_cases he : e.1 = name
    · rw [List.filter_cons_of_neg (by simpa using he), ih]
      grind [lookup_cons_ite]
    · rw [List.filter_cons_of_pos (by simpa using he)]
      grind [lookup_cons_ite]

@[simp] theorem get?_erase (map : Keyed α) (name other : String) :
    (map.erase name).get? other = if other = name then none else map.get? other :=
  lookup_filter_ne map.entries name other

theorem get?_eq_some_iff {map : Keyed α} {name : String} {value : α} :
    map.get? name = some value ↔ (name, value) ∈ map.entries := by
  obtain ⟨entries, sorted⟩ := map
  simp only [get?]
  induction entries with
  | nil => simp
  | cons e rest ih =>
    obtain ⟨he, hr⟩ := List.pairwise_cons.1 sorted
    rw [lookup_cons_ite]
    by_cases h : name = e.1
    · subst h
      constructor
      · intro hv
        simp only [if_true, Option.some.injEq] at hv
        exact hv ▸ List.mem_cons_self
      · intro hv
        rcases List.mem_cons.1 hv with hv | hv
        · simp only [if_true, Option.some.injEq]
          exact (Prod.ext_iff.1 hv).2.symm
        · exact absurd (he _ hv) (String.lt_irrefl _)
    · simp only [h, if_false, ih hr, List.mem_cons, Prod.ext_iff, false_and, false_or]

/-- A map is its look-ups. -/
theorem ext_get? {a b : Keyed α} (h : ∀ name, a.get? name = b.get? name) : a = b := by
  have look (map : Keyed α) (e : String × α) : e ∈ map.entries ↔ map.get? e.1 = some e.2 :=
    get?_eq_some_iff.symm
  have mem : ∀ e, e ∈ a.entries ↔ e ∈ b.entries := fun e => by
    rw [look a, look b, h]
  obtain ⟨as, ha⟩ := a
  obtain ⟨bs, hb⟩ := b
  simp only at mem ha hb
  have : as = bs := by
    clear h
    induction as generalizing bs with
    | nil =>
      cases bs with
      | nil => rfl
      | cons b bs => exact absurd ((mem b).2 List.mem_cons_self) (by simp)
    | cons a as ih =>
      cases bs with
      | nil => exact absurd ((mem a).1 List.mem_cons_self) (by simp)
      | cons b bs =>
        obtain ⟨la, sa⟩ := List.pairwise_cons.1 ha
        obtain ⟨lb, sb⟩ := List.pairwise_cons.1 hb
        have hab : a = b := by
          rcases List.mem_cons.1 ((mem a).1 List.mem_cons_self) with h | h
          · exact h
          · rcases List.mem_cons.1 ((mem b).2 List.mem_cons_self) with h' | h'
            · exact h'.symm
            · exact absurd (lb _ h) (String.lt_asymm (la _ h'))
        subst hab
        congr 1
        refine ih sa bs sb fun e => ?_
        have := mem e
        simp only [List.mem_cons] at this
        constructor
        · intro he
          rcases this.1 (.inr he) with rfl | h
          · exact absurd (la _ he) (String.lt_irrefl _)
          · exact h
        · intro he
          rcases this.2 (.inr he) with rfl | h
          · exact absurd (lb _ he) (String.lt_irrefl _)
          · exact h
  subst this
  rfl

end Keyed

end BucketSteward

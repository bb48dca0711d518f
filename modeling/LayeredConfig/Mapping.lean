/-!
# Mappings

A mapping holds at most one entry for a key and lists its entries in key order, so two mappings
that answer every look-up alike are equal.  The order of keys is the order of their code points,
which is also the order of their UTF-8 bytes.

`ordered` is the invariant of the entry list; `insertEntry`, `eraseEntry` and `lookup` work on the
bare list and are shared with the maps inside values.
-/

set_option autoImplicit false

namespace LayeredConfig

variable {α β : Type}

/-! ## Entry lists -/

def lookup (key : String) : List (String × α) → Option α
  | [] => none
  | (other, value) :: rest => if key = other then some value else lookup key rest

def insertEntry (key : String) (value : α) : List (String × α) → List (String × α)
  | [] => [(key, value)]
  | (other, old) :: rest =>
      if key < other then (key, value) :: (other, old) :: rest
      else if key = other then (key, value) :: rest
      else (other, old) :: insertEntry key value rest

def eraseEntry (key : String) (entries : List (String × α)) : List (String × α) :=
  entries.filter fun entry => entry.1 ≠ key

/-- Keys strictly increase along the list. -/
def Ordered (entries : List (String × α)) : Prop :=
  entries.Pairwise fun a b => a.1 < b.1

/-- The entries of a list put in order; of two entries with one key the later one stays. -/
def orderEntries (entries : List (String × α)) : List (String × α) :=
  entries.foldl (fun sorted entry => insertEntry entry.1 entry.2 sorted) []

theorem lookup_insertEntry_self (key : String) (value : α) (entries : List (String × α)) :
    lookup key (insertEntry key value entries) = some value := by
  induction entries with
  | nil => simp [insertEntry, lookup]
  | cons entry rest ih =>
      obtain ⟨other, old⟩ := entry
      by_cases before : key < other
      · simp [insertEntry, before, lookup]
      · by_cases same : key = other
        · simp [insertEntry, same, lookup]
        · simp [insertEntry, before, same, lookup, ih]

theorem lookup_insertEntry_of_ne {key other : String} (different : other ≠ key) (value : α)
    (entries : List (String × α)) :
    lookup other (insertEntry key value entries) = lookup other entries := by
  induction entries with
  | nil => simp [insertEntry, lookup, different]
  | cons entry rest ih =>
      obtain ⟨here, old⟩ := entry
      by_cases before : key < here
      · simp [insertEntry, before, lookup, different]
      · by_cases same : key = here
        · subst same
          simp [insertEntry, lookup, different]
        · by_cases found : other = here
          · simp [insertEntry, before, same, lookup, found]
          · simp [insertEntry, before, same, lookup, found, ih]

theorem mem_of_mem_insertEntry {key : String} {value : α} {entry : String × α}
    {entries : List (String × α)} (member : entry ∈ insertEntry key value entries) :
    entry = (key, value) ∨ entry ∈ entries := by
  induction entries with
  | nil =>
      simp only [insertEntry, List.mem_singleton] at member
      exact .inl member
  | cons head rest ih =>
      obtain ⟨here, old⟩ := head
      by_cases before : key < here
      · simp only [insertEntry, before, ↓reduceIte, List.mem_cons] at member
        simpa using member
      · by_cases same : key = here
        · subst same
          simp only [insertEntry, before, ↓reduceIte, List.mem_cons] at member
          rcases member with rfl | later
          · exact .inl rfl
          · exact .inr (List.mem_cons_of_mem _ later)
        · simp only [insertEntry, before, same, ↓reduceIte, List.mem_cons] at member
          rcases member with rfl | later
          · exact .inr (List.mem_cons_self ..)
          · rcases ih later with rfl | old
            · exact .inl rfl
            · exact .inr (List.mem_cons_of_mem _ old)

theorem ordered_insertEntry (key : String) (value : α) {entries : List (String × α)}
    (ordered : Ordered entries) : Ordered (insertEntry key value entries) := by
  induction entries with
  | nil => simp [insertEntry, Ordered]
  | cons head rest ih =>
      obtain ⟨here, old⟩ := head
      have headBelow := (List.pairwise_cons.mp ordered).1
      have restOrdered := (List.pairwise_cons.mp ordered).2
      by_cases before : key < here
      · simp only [insertEntry, before, ↓reduceIte]
        refine List.pairwise_cons.mpr ⟨?_, ordered⟩
        intro entry member
        rcases List.mem_cons.mp member with rfl | later
        · exact before
        · exact String.lt_trans before (headBelow entry later)
      · by_cases same : key = here
        · subst same
          simp only [insertEntry, before, ↓reduceIte]
          exact List.pairwise_cons.mpr ⟨headBelow, restOrdered⟩
        · simp only [insertEntry, before, same, ↓reduceIte]
          refine List.pairwise_cons.mpr ⟨?_, ih restOrdered⟩
          intro entry member
          rcases mem_of_mem_insertEntry member with rfl | later
          · exact Decidable.byContradiction fun notBelow =>
              same (String.le_antisymm (String.not_lt.mp notBelow) (String.not_lt.mp before))
          · exact headBelow entry later

theorem ordered_foldl_insertEntry (entries : List (String × α)) {start : List (String × α)}
    (ordered : Ordered start) :
    Ordered (entries.foldl (fun sorted entry => insertEntry entry.1 entry.2 sorted) start) := by
  induction entries generalizing start with
  | nil => exact ordered
  | cons entry rest ih => exact ih (ordered_insertEntry entry.1 entry.2 ordered)

theorem ordered_orderEntries (entries : List (String × α)) : Ordered (orderEntries entries) :=
  ordered_foldl_insertEntry entries List.Pairwise.nil

theorem lookup_eq_none_of_above {key : String} {entries : List (String × α)}
    (above : ∀ entry ∈ entries, key < entry.1) : lookup key entries = none := by
  induction entries with
  | nil => rfl
  | cons entry rest ih =>
      obtain ⟨other, old⟩ := entry
      have different : key ≠ other := fun same => by
        have below := above (other, old) (List.mem_cons_self ..)
        exact String.lt_irrefl key (same ▸ below)
      simp only [lookup, different, ↓reduceIte]
      exact ih fun entry member => above entry (List.mem_cons_of_mem _ member)

theorem eq_of_lookup_eq {entries others : List (String × α)}
    (ordered : Ordered entries) (othersOrdered : Ordered others)
    (agree : ∀ key, lookup key entries = lookup key others) : entries = others := by
  induction entries generalizing others with
  | nil =>
      cases others with
      | nil => rfl
      | cons other rest =>
          have found := agree other.1
          simp [lookup] at found
  | cons entry rest ih =>
      cases others with
      | nil =>
          have found := agree entry.1
          simp [lookup] at found
      | cons other otherRest =>
          obtain ⟨key, value⟩ := entry
          obtain ⟨otherKey, otherValue⟩ := other
          have below := (List.pairwise_cons.mp ordered).1
          have otherBelow := (List.pairwise_cons.mp othersOrdered).1
          have sameKey : key = otherKey := by
            apply String.le_antisymm
            · apply String.not_lt.mp
              intro smaller
              have found := agree otherKey
              have above : ∀ entry ∈ (key, value) :: rest, otherKey < entry.1 := by
                intro entry member
                rcases List.mem_cons.mp member with rfl | later
                · exact smaller
                · exact String.lt_trans smaller (below entry later)
              rw [lookup_eq_none_of_above above] at found
              simp [lookup] at found
            · apply String.not_lt.mp
              intro smaller
              have found := agree key
              have above : ∀ entry ∈ (otherKey, otherValue) :: otherRest, key < entry.1 := by
                intro entry member
                rcases List.mem_cons.mp member with rfl | later
                · exact smaller
                · exact String.lt_trans smaller (otherBelow entry later)
              rw [lookup_eq_none_of_above above] at found
              simp [lookup] at found
          subst sameKey
          have sameValue : value = otherValue := by
            have found := agree key
            simpa [lookup] using found
          subst sameValue
          have sameRest : rest = otherRest := by
            apply ih (List.pairwise_cons.mp ordered).2 (List.pairwise_cons.mp othersOrdered).2
            intro other
            by_cases isKey : other = key
            · subst isKey
              rw [lookup_eq_none_of_above below, lookup_eq_none_of_above otherBelow]
            · have found := agree other
              simpa [lookup, isKey] using found
          rw [sameRest]

/-! ## Mappings -/

structure Mapping (α : Type) where
  entries : List (String × α)
  ordered : Ordered entries
  deriving DecidableEq

namespace Mapping

def empty : Mapping α := ⟨[], List.Pairwise.nil⟩

instance : EmptyCollection (Mapping α) := ⟨empty⟩

instance : Inhabited (Mapping α) := ⟨empty⟩

def get? (mapping : Mapping α) (key : String) : Option α :=
  lookup key mapping.entries

def contains (mapping : Mapping α) (key : String) : Bool :=
  (mapping.get? key).isSome

def insert (mapping : Mapping α) (key : String) (value : α) : Mapping α :=
  ⟨insertEntry key value mapping.entries, ordered_insertEntry key value mapping.ordered⟩

def erase (mapping : Mapping α) (key : String) : Mapping α :=
  ⟨eraseEntry key mapping.entries, List.Pairwise.filter _ mapping.ordered⟩

/-- The mapping of a list of entries; of two entries with one key the later one stays. -/
def ofList (entries : List (String × α)) : Mapping α :=
  ⟨orderEntries entries, ordered_orderEntries entries⟩

def merge (low high : Mapping α) : Mapping α :=
  ⟨high.entries.foldl (fun sorted entry => insertEntry entry.1 entry.2 sorted) low.entries,
    ordered_foldl_insertEntry high.entries low.ordered⟩

def keys (mapping : Mapping α) : List String :=
  mapping.entries.map Prod.fst

def mapEntries (change : String → α → β) (mapping : Mapping α) : Mapping β where
  entries := mapping.entries.map fun entry => (entry.1, change entry.1 entry.2)
  ordered := by
    have ordered := mapping.ordered
    simp only [Ordered, List.pairwise_map] at ordered ⊢
    exact ordered

theorem ext_get? {mapping other : Mapping α}
    (agree : ∀ key, mapping.get? key = other.get? key) : mapping = other := by
  obtain ⟨entries, ordered⟩ := mapping
  obtain ⟨others, othersOrdered⟩ := other
  have same : entries = others := eq_of_lookup_eq ordered othersOrdered agree
  subst same
  rfl

@[simp] theorem get?_empty (key : String) : (∅ : Mapping α).get? key = none := rfl

theorem get?_insert (mapping : Mapping α) (key other : String) (value : α) :
    (mapping.insert key value).get? other =
      if other = key then some value else mapping.get? other := by
  by_cases same : other = key
  · subst same
    simp only [↓reduceIte]
    exact lookup_insertEntry_self other value mapping.entries
  · simp only [same, ↓reduceIte]
    exact lookup_insertEntry_of_ne same value mapping.entries

theorem get?_insert_self (mapping : Mapping α) (key : String) (value : α) :
    (mapping.insert key value).get? key = some value := by
  rw [get?_insert, if_pos rfl]

theorem insert_insert (mapping : Mapping α) (key : String) (old value : α) :
    (mapping.insert key old).insert key value = mapping.insert key value := by
  apply ext_get?
  intro other
  simp only [get?_insert]
  split <;> rfl

theorem insert_of_get? {mapping : Mapping α} {key : String} {value : α}
    (there : mapping.get? key = some value) : mapping.insert key value = mapping := by
  apply ext_get?
  intro other
  rw [get?_insert]
  split
  · rename_i same
    rw [same, there]
  · rfl

theorem lookup_eraseEntry (key other : String) (entries : List (String × α)) :
    lookup other (eraseEntry key entries) = if other = key then none else lookup other entries := by
  induction entries with
  | nil => simp [eraseEntry, lookup]
  | cons entry rest ih =>
      obtain ⟨here, old⟩ := entry
      simp only [eraseEntry] at ih ⊢
      by_cases erased : here = key
      · subst erased
        by_cases same : other = here
        · simp [same] at ih ⊢
          exact ih
        · simp [same, lookup] at ih ⊢
          exact ih
      · by_cases same : other = here
        · subst same
          simp [erased, lookup]
        · simp [erased, same, lookup] at ih ⊢
          exact ih

theorem get?_erase (mapping : Mapping α) (key other : String) :
    (mapping.erase key).get? other = if other = key then none else mapping.get? other :=
  lookup_eraseEntry key other mapping.entries

theorem erase_insert (mapping : Mapping α) (key : String) (value : α) :
    (mapping.insert key value).erase key = mapping.erase key := by
  apply ext_get?
  intro other
  rw [get?_erase, get?_erase, get?_insert]
  split <;> rfl

theorem erase_of_get? {mapping : Mapping α} {key : String} (absent : mapping.get? key = none) :
    mapping.erase key = mapping := by
  apply ext_get?
  intro other
  rw [get?_erase]
  split
  · rename_i same
    rw [same, absent]
  · rfl

theorem lookup_foldl_insertEntry (entries : List (String × α)) (ordered : Ordered entries)
    (start : List (String × α)) (key : String) :
    lookup key (entries.foldl (fun sorted entry => insertEntry entry.1 entry.2 sorted) start) =
      (lookup key entries).or (lookup key start) := by
  induction entries generalizing start with
  | nil => simp [lookup]
  | cons entry rest ih =>
      obtain ⟨here, value⟩ := entry
      have below := (List.pairwise_cons.mp ordered).1
      rw [List.foldl_cons, ih (List.pairwise_cons.mp ordered).2]
      by_cases same : key = here
      · subst same
        rw [lookup_eq_none_of_above below]
        simp [lookup, lookup_insertEntry_self]
      · simp [lookup, same, lookup_insertEntry_of_ne same]

theorem lookup_append (key : String) (first second : List (String × α)) :
    lookup key (first ++ second) = (lookup key first).or (lookup key second) := by
  induction first with
  | nil => simp [lookup]
  | cons entry rest ih =>
      obtain ⟨here, value⟩ := entry
      by_cases same : key = here
      · simp [lookup, same]
      · simp [lookup, same, ih]

theorem lookup_foldl_insertEntry_reverse (entries start : List (String × α)) (key : String) :
    lookup key (entries.foldl (fun sorted entry => insertEntry entry.1 entry.2 sorted) start) =
      (lookup key entries.reverse).or (lookup key start) := by
  induction entries generalizing start with
  | nil => simp [lookup]
  | cons entry rest ih =>
      obtain ⟨here, value⟩ := entry
      rw [List.foldl_cons, ih, List.reverse_cons, lookup_append, Option.or_assoc]
      by_cases same : key = here
      · subst same
        simp [lookup, lookup_insertEntry_self]
      · simp [lookup, same, lookup_insertEntry_of_ne same]

/-- The mapping of a list answers from the last entry for a key. -/
theorem get?_ofList (entries : List (String × α)) (key : String) :
    (ofList entries).get? key = lookup key entries.reverse := by
  have answer := lookup_foldl_insertEntry_reverse entries [] key
  rw [lookup, Option.or_none] at answer
  exact answer

/-- A merge answers from the upper mapping first. -/
theorem get?_merge (low high : Mapping α) (key : String) :
    (low.merge high).get? key = (high.get? key).or (low.get? key) :=
  lookup_foldl_insertEntry high.entries high.ordered low.entries key

@[simp] theorem empty_merge (mapping : Mapping α) : (∅ : Mapping α).merge mapping = mapping :=
  ext_get? fun key => by simp [get?_merge]

@[simp] theorem merge_empty (mapping : Mapping α) : mapping.merge ∅ = mapping :=
  ext_get? fun key => by simp [get?_merge]

theorem merge_assoc (low middle high : Mapping α) :
    (low.merge middle).merge high = low.merge (middle.merge high) :=
  ext_get? fun key => by simp [get?_merge, Option.or_assoc]

theorem get?_merge_of_none {high : Mapping α} {key : String} (absent : high.get? key = none)
    (low : Mapping α) : (low.merge high).get? key = low.get? key := by
  rw [get?_merge, absent, Option.none_or]

/-- What comes on top in the end need not be laid below before. -/
theorem merge_between_self (low between high : Mapping α) :
    ((low.merge high).merge between).merge high = (low.merge between).merge high := by
  apply ext_get?
  intro key
  simp only [get?_merge]
  cases high.get? key <;> simp

theorem lookup_map (change : String → α → β) (entries : List (String × α)) (key : String) :
    lookup key (entries.map fun entry => (entry.1, change entry.1 entry.2)) =
      (lookup key entries).map (change key) := by
  induction entries with
  | nil => rfl
  | cons entry rest ih =>
      obtain ⟨here, value⟩ := entry
      by_cases same : key = here
      · subst same
        simp [lookup]
      · simp only [List.map_cons, lookup, same, ↓reduceIte]
        exact ih

theorem lookup_isSome_iff (key : String) (entries : List (String × α)) :
    (lookup key entries).isSome = true ↔ key ∈ entries.map Prod.fst := by
  induction entries with
  | nil => simp [lookup]
  | cons entry rest ih =>
      obtain ⟨here, value⟩ := entry
      by_cases same : key = here
      · simp [lookup, same]
      · simp only [lookup, same, ↓reduceIte, ih, List.map_cons, List.mem_cons, false_or]

theorem mem_keys {mapping : Mapping α} {key : String} :
    key ∈ mapping.keys ↔ (mapping.get? key).isSome = true :=
  (lookup_isSome_iff key mapping.entries).symm

theorem keys_mapEntries (change : String → α → β) (mapping : Mapping α) :
    (mapping.mapEntries change).keys = mapping.keys := by
  rw [keys, keys, mapEntries, List.map_map]
  rfl

theorem get?_mapEntries (change : String → α → β) (mapping : Mapping α) (key : String) :
    (mapping.mapEntries change).get? key = (mapping.get? key).map (change key) :=
  lookup_map change mapping.entries key

end Mapping

end LayeredConfig

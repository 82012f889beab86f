/-!
# Sorted maps

A finite map from texts, as the list of its entries in ascending order of their keys. The order
makes the list unique, so two maps are equal when they hold the same entries.
-/

namespace BoardQuery

/-- A finite map from texts, with its keys in ascending order. -/
structure SortedMap (α : Type) where
  entries : List (String × α)
  ascending : entries.Pairwise (·.1 < ·.1)
deriving DecidableEq, Repr

namespace SortedMap

variable {α : Type}

def empty : SortedMap α := ⟨[], .nil⟩

/-- Puts an entry in its place, or in the place of the entry that has its key. -/
def insertEntry (key : String) (value : α) : List (String × α) → List (String × α)
  | [] => [(key, value)]
  | (key', value') :: entries =>
    if key < key' then (key, value) :: (key', value') :: entries
    else if key = key' then (key, value) :: entries
    else (key', value') :: insertEntry key value entries

theorem mem_insertEntry {key : String} {value : α} {entries : List (String × α)}
    {entry : String × α} (h : entry ∈ insertEntry key value entries) :
    entry = (key, value) ∨ entry ∈ entries := by
  induction entries with
  | nil => simpa [insertEntry] using h
  | cons first entries ih =>
    simp only [insertEntry] at h
    split at h
    · simpa using h
    · split at h <;> simp only [List.mem_cons] at h ⊢
      · exact h.imp id Or.inr
      · rcases h with h | h
        · exact .inr (.inl h)
        · exact (ih h).imp id Or.inr

theorem insertEntry_ascending (key : String) (value : α) {entries : List (String × α)}
    (h : entries.Pairwise (·.1 < ·.1)) :
    (insertEntry key value entries).Pairwise (·.1 < ·.1) := by
  induction entries with
  | nil => simp [insertEntry]
  | cons first entries ih =>
    obtain ⟨key', value'⟩ := first
    obtain ⟨hfirst, hrest⟩ := List.pairwise_cons.1 h
    simp only [insertEntry]
    split
    · next hlt =>
      refine List.pairwise_cons.2 ⟨fun entry hentry => ?_, h⟩
      rcases List.mem_cons.1 hentry with rfl | hentry
      · exact hlt
      · exact String.lt_trans hlt (hfirst entry hentry)
    · next hlt =>
      split
      · next heq =>
        subst heq
        exact List.pairwise_cons.2 ⟨hfirst, hrest⟩
      · next hne =>
        refine List.pairwise_cons.2 ⟨fun entry hentry => ?_, ih hrest⟩
        rcases mem_insertEntry hentry with rfl | hentry
        · exact String.not_le.1 fun hle => hne (String.le_antisymm hle (String.not_lt.1 hlt))
        · exact hfirst entry hentry

/-- Adds an entry, in the place of the one that has its key. -/
def insert (m : SortedMap α) (key : String) (value : α) : SortedMap α :=
  ⟨insertEntry key value m.entries, insertEntry_ascending key value m.ascending⟩

def get? (m : SortedMap α) (key : String) : Option α :=
  m.entries.lookup key

/-- The map of a list of entries; of two with one key the later counts. -/
def ofList (entries : List (String × α)) : SortedMap α :=
  entries.foldl (fun m (key, value) => m.insert key value) empty

/-- A map with the entries of another put over it. -/
def overlay (m upper : SortedMap α) : SortedMap α :=
  upper.entries.foldl (fun m (key, value) => m.insert key value) m

/-! ## What a map holds -/

theorem lookup_insertEntry (key key' : String) (value : α) (entries : List (String × α)) :
    (insertEntry key value entries).lookup key' =
      if key' = key then some value else entries.lookup key' := by
  induction entries with
  | nil =>
    by_cases h : key' = key
    · simp [insertEntry, h]
    · simp [insertEntry, List.lookup_cons, beq_false_of_ne h, h]
  | cons first entries ih =>
    obtain ⟨key'', value'⟩ := first
    simp only [insertEntry]
    by_cases h : key' = key
    · subst h
      split
      · simp
      · split
        · simp
        · next hne => simp [List.lookup_cons, ih, beq_false_of_ne hne]
    · split
      · simp [List.lookup_cons, beq_false_of_ne h]
      · split
        · next heq => subst heq; simp [List.lookup_cons, beq_false_of_ne h]
        · simp only [List.lookup_cons, ih, h, if_false]

@[simp]
theorem get?_empty (key : String) : (empty : SortedMap α).get? key = none :=
  rfl

@[simp]
theorem get?_insert (m : SortedMap α) (key key' : String) (value : α) :
    (m.insert key value).get? key' = if key' = key then some value else m.get? key' :=
  lookup_insertEntry key key' value m.entries

theorem ofList_concat (entries : List (String × α)) (entry : String × α) :
    ofList (entries ++ [entry]) = (ofList entries).insert entry.1 entry.2 := by
  rw [ofList, List.foldl_append]
  rfl

theorem lookup_eq_none_of_lt {key : String} {entries : List (String × α)}
    (h : ∀ entry ∈ entries, key < entry.1) : entries.lookup key = none := by
  induction entries with
  | nil => rfl
  | cons first entries ih =>
    have hne : key ≠ first.1 := fun heq =>
      String.lt_irrefl _ (heq ▸ h first (List.mem_cons_self ..))
    rw [List.lookup_cons, beq_false_of_ne hne]
    exact ih fun entry hentry => h entry (List.mem_cons_of_mem _ hentry)

/-- Maps are equal when they give every key the same value. -/
theorem eq_of_get? {m m' : SortedMap α} (h : ∀ key, m.get? key = m'.get? key) : m = m' := by
  obtain ⟨entries, hasc⟩ := m
  obtain ⟨entries', hasc'⟩ := m'
  simp only [get?] at h
  suffices entries = entries' by subst this; rfl
  induction entries generalizing entries' with
  | nil =>
    rcases entries' with _ | ⟨⟨key, value⟩, entries'⟩
    · rfl
    · simpa using h key
  | cons first entries ih =>
    obtain ⟨key, value⟩ := first
    obtain ⟨hlt, hrest⟩ := List.pairwise_cons.1 hasc
    rcases entries' with _ | ⟨⟨key', value'⟩, entries'⟩
    · simpa using h key
    · obtain ⟨hlt', hrest'⟩ := List.pairwise_cons.1 hasc'
      have hkey : key = key' := by
        refine String.le_antisymm (String.not_lt.1 fun hgt => ?_) (String.not_lt.1 fun hgt => ?_)
        · have := h key'
          rw [lookup_eq_none_of_lt fun entry hentry => ?_] at this
          · simp at this
          · rcases List.mem_cons.1 hentry with rfl | hentry
            · exact hgt
            · exact String.lt_trans hgt (hlt entry hentry)
        · have := h key
          rw [eq_comm, lookup_eq_none_of_lt fun entry hentry => ?_] at this
          · simp at this
          · rcases List.mem_cons.1 hentry with rfl | hentry
            · exact hgt
            · exact String.lt_trans hgt (hlt' entry hentry)
      subst hkey
      have hvalue := h key
      simp only [List.lookup_cons, beq_self_eq_true, Option.some.injEq] at hvalue
      subst hvalue
      rw [ih hrest entries' hrest' fun other => ?_]
      by_cases hother : other = key
      · subst hother
        rw [lookup_eq_none_of_lt hlt, lookup_eq_none_of_lt hlt']
      · have := h other
        rwa [List.lookup_cons, List.lookup_cons, beq_false_of_ne hother] at this

end SortedMap

end BoardQuery

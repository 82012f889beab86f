import BoardQuery.Lexicon
import BoardQuery.Phrasebook
import Mathlib.Data.List.Induction

/-!
# What a table holds

A map that is made of entries one after the other gives a key the value of the last entry that has
it (`get?_ofList`), and one that is put over another hides what lies below (`get?_overlay`). So a
table of words gives a word to the last of its tags that are worded so (`get?_table`), and in the
table of keywords the two sigils come before all tags (`facet?_ofWording`).
-/

namespace BoardQuery

open Text

namespace SortedMap

variable {α : Type}

/-! ## Maps -/

theorem lookup_eq_some_iff_of_nodup {key : String} {value : α} : ∀ {entries : List (String × α)},
    (entries.map (·.1)).Nodup → (entries.lookup key = some value ↔ (key, value) ∈ entries)
  | [], _ => by simp
  | (key', value') :: entries, h => by
    rw [List.map_cons, List.nodup_cons] at h
    by_cases hkey : key = key'
    · subst hkey
      have hnot : (key, value) ∉ entries := fun hmem => h.1 (List.mem_map.2 ⟨_, hmem, rfl⟩)
      simp [hnot, eq_comm]
    · rw [List.lookup_cons, beq_false_of_ne hkey]
      simp [hkey, lookup_eq_some_iff_of_nodup h.2]

theorem nodup_keys (m : SortedMap α) : (m.entries.map (·.1)).Nodup := by
  rw [List.nodup_iff_pairwise_ne, List.pairwise_map]
  exact m.ascending.imp fun h => String.ne_of_lt h

theorem get?_eq_some_iff {m : SortedMap α} {key : String} {value : α} :
    m.get? key = some value ↔ (key, value) ∈ m.entries :=
  lookup_eq_some_iff_of_nodup m.nodup_keys

theorem ascending_split {m : SortedMap α} {before after : List (String × α)}
    {entry : String × α} (h : m.entries = before ++ entry :: after) :
    (∀ other ∈ before, other.1 < entry.1) ∧ ∀ other ∈ after, entry.1 < other.1 := by
  have hasc := m.ascending
  rw [h, List.pairwise_append, List.pairwise_cons] at hasc
  exact ⟨fun other hother => hasc.2.2 other hother entry (List.mem_cons_self ..), hasc.2.1.1⟩

/-- What is found first in a map has the least key. -/
theorem find?_entries_eq_some_iff {m : SortedMap α} {p : String × α → Bool} {key : String}
    {value : α} :
    m.entries.find? p = some (key, value) ↔
      (m.get? key = some value ∧ p (key, value) = true)
        ∧ ∀ key' value', m.get? key' = some value' → p (key', value') = true → key ≤ key' := by
  have hleast : ∀ {key value}, m.entries.find? p = some (key, value) →
      (m.get? key = some value ∧ p (key, value) = true)
        ∧ ∀ key' value', m.get? key' = some value' → p (key', value') = true → key ≤ key' := by
    intro key value h
    refine ⟨⟨get?_eq_some_iff.2 (List.mem_of_find?_eq_some h), List.find?_some h⟩, ?_⟩
    intro key' value' hget hp
    obtain ⟨-, before, after, hentries, hbefore⟩ := List.find?_eq_some_iff_append.1 h
    have hmem := get?_eq_some_iff.1 hget
    rw [hentries] at hmem
    -- the entries before the one that is found fail the test, those after it have greater keys
    rcases List.mem_append.1 hmem with hmem | hmem
    · have hnot := hbefore _ hmem
      rw [hp] at hnot
      simp at hnot
    · rcases List.mem_cons.1 hmem with heq | hmem
      · obtain ⟨rfl, -⟩ := Prod.mk.inj heq
        exact String.le_refl _
      · exact String.not_lt.1 (String.lt_asymm ((ascending_split hentries).2 _ hmem))
  refine ⟨hleast, fun ⟨⟨hget, hp⟩, hmin⟩ => ?_⟩
  rcases hfind : m.entries.find? p with _ | ⟨first, value'⟩
  · exact absurd hp (List.find?_eq_none.1 hfind _ (get?_eq_some_iff.1 hget))
  · obtain ⟨⟨hfirst, hpfirst⟩, hle⟩ := hleast hfind
    obtain rfl : first = key :=
      String.le_antisymm (hle _ _ hget hp) (hmin _ _ hfirst hpfirst)
    obtain rfl : value' = value := Option.some.inj (hfirst.symm.trans hget)
    rfl

theorem get?_foldl_insert (entries : List (String × α)) (m : SortedMap α) (key : String) :
    (entries.foldl (fun m entry => m.insert entry.1 entry.2) m).get? key =
      (entries.reverse.lookup key).or (m.get? key) := by
  induction entries using List.reverseRecOn with
  | nil => rfl
  | append_singleton entries entry ih =>
    rw [List.foldl_append, List.foldl_cons, List.foldl_nil, get?_insert, ih, List.reverse_append,
      List.reverse_singleton, List.singleton_append, List.lookup_cons]
    by_cases h : key = entry.1
    · simp [h]
    · simp [h, beq_false_of_ne h]

theorem get?_ofList (entries : List (String × α)) (key : String) :
    (ofList entries).get? key = entries.reverse.lookup key :=
  (get?_foldl_insert entries empty key).trans (Option.or_none ..)

/-- What comes first in a list read backwards comes last in the list. -/
theorem exists_reverse_split_iff {β : Type} {l : List β} {a : β} {P : β → Prop} :
    (∃ after before, l.reverse = after ++ a :: before ∧ ∀ other ∈ after, P other) ↔
      ∃ before after, l = before ++ a :: after ∧ ∀ other ∈ after, P other := by
  constructor
  · rintro ⟨after, before, hsplit, hafter⟩
    refine ⟨before.reverse, after.reverse, ?_, fun other hother =>
      hafter other (List.mem_reverse.1 hother)⟩
    have hreverse := congrArg List.reverse hsplit
    rwa [List.reverse_reverse, List.reverse_append, List.reverse_cons, List.append_assoc,
      List.singleton_append] at hreverse
  · rintro ⟨before, after, rfl, hafter⟩
    exact ⟨after.reverse, before.reverse, by simp, fun other hother =>
      hafter other (List.mem_reverse.1 hother)⟩

/-- A map that is made of a list gives a key the value of the last entry that has it. -/
theorem get?_ofList_eq_some_iff {entries : List (String × α)} {key : String} {value : α} :
    (ofList entries).get? key = some value ↔
      ∃ before after, entries = before ++ (key, value) :: after
        ∧ ∀ other ∈ after, other.1 ≠ key := by
  rw [get?_ofList, List.lookup_eq_some_iff, exists_reverse_split_iff]
  simp only [bne_iff_ne, ne_comm]

theorem get?_ofList_map_eq_some_iff {β : Type} {items : List β} {f : β → String × α}
    {key : String} {value : α} :
    (ofList (items.map f)).get? key = some value ↔
      ∃ before item after, items = before ++ item :: after ∧ f item = (key, value)
        ∧ ∀ other ∈ after, (f other).1 ≠ key := by
  rw [get?_ofList_eq_some_iff]
  constructor
  · rintro ⟨before, after, hmap, hafter⟩
    obtain ⟨before', rest, rfl, -, hrest⟩ := List.map_eq_append_iff.1 hmap
    obtain ⟨item, after', rfl, hitem, rfl⟩ := List.map_eq_cons_iff.1 hrest
    exact ⟨before', item, after', rfl, hitem, fun other hother =>
      hafter _ (List.mem_map.2 ⟨other, hother, rfl⟩)⟩
  · rintro ⟨before, item, after, rfl, hitem, hafter⟩
    refine ⟨_, _, by rw [List.map_append, List.map_cons, hitem], fun entry hentry => ?_⟩
    obtain ⟨other, hother, rfl⟩ := List.mem_map.1 hentry
    exact hafter other hother

theorem mem_of_get?_ofList {entries : List (String × α)} {key : String} {value : α}
    (h : (ofList entries).get? key = some value) : (key, value) ∈ entries := by
  obtain ⟨before, after, rfl, -⟩ := get?_ofList_eq_some_iff.1 h
  exact List.mem_append_right _ (List.mem_cons_self ..)

theorem get?_ofList_eq_none_iff {entries : List (String × α)} {key : String} :
    (ofList entries).get? key = none ↔ ∀ entry ∈ entries, entry.1 ≠ key := by
  rw [get?_ofList, List.lookup_eq_none_iff]
  simp [ne_comm]

theorem get?_overlay (m upper : SortedMap α) (key : String) :
    (m.overlay upper).get? key = (upper.get? key).or (m.get? key) := by
  have hreverse : upper.entries.reverse.lookup key = upper.get? key := by
    have hnodup : (upper.entries.reverse.map (·.1)).Nodup := by
      rw [List.map_reverse, (List.reverse_perm _).nodup_iff]
      exact upper.nodup_keys
    ext value
    rw [lookup_eq_some_iff_of_nodup hnodup, List.mem_reverse, get?_eq_some_iff]
  rw [← hreverse]
  exact get?_foldl_insert upper.entries m key

/-- A map is made of its own entries. -/
theorem ofList_entries (m : SortedMap α) : ofList m.entries = m := by
  refine eq_of_get? fun key => ?_
  have hget : (ofList m.entries).get? key = (m.get? key).or none := get?_overlay empty m key
  rw [hget, Option.or_none]

end SortedMap

namespace Phrasebook

theorem wording_overlay (p : Phrasebook) (upper : SortedMap String) (tag : String) :
    (p.overlay upper).wording tag = (upper.get? tag).getD (p.wording tag) := by
  unfold wording overlay
  rw [SortedMap.get?_overlay]
  rcases upper.get? tag with _ | text <;> rfl

theorem wording_ofList (phrases : List (String × String)) (tag : String) :
    (ofList phrases).wording tag = (phrases.reverse.lookup tag).getD tag := by
  unfold wording ofList
  rw [SortedMap.get?_ofList]

end Phrasebook

namespace Lexicon

variable {α : Type} (wording : String → String)

/-! ## Tables of words -/

/-- The last of some tags that is typed by a word. A tag with a blank wording is typed by none. -/
def lastTag? (tags : List (String × α)) (key : String) : Option (String × α) :=
  tags.reverse.find? fun tag => !key.isEmpty && word (wording tag.1) == key

theorem get?_enter (table : SortedMap α) (entry : String × α) (key : String) :
    (enter wording table entry).get? key =
      if key ≠ "" ∧ word (wording entry.1) = key then some entry.2 else table.get? key := by
  unfold enter
  split
  · rename_i hblank
    have hword : word (wording entry.1) = "" := by simpa using hblank
    rw [hword, if_neg]
    rintro ⟨hne, rfl⟩
    exact hne rfl
  · rename_i hblank
    have hword : word (wording entry.1) ≠ "" := by simpa using hblank
    rw [SortedMap.get?_insert]
    by_cases h : word (wording entry.1) = key
    · subst h
      simp [hword]
    · simp [h, Ne.symm h]

theorem lastTag?_concat (tags : List (String × α)) (tag : String × α) (key : String) :
    lastTag? wording (tags ++ [tag]) key =
      if key ≠ "" ∧ word (wording tag.1) = key then some tag else lastTag? wording tags key := by
  unfold lastTag?
  rw [List.reverse_append, List.reverse_singleton, List.singleton_append, List.find?_cons]
  by_cases h : key ≠ "" ∧ word (wording tag.1) = key
  · have hkey : key.isEmpty = false := by simpa using h.1
    simp [h, hkey]
  · rw [if_neg h]
    split
    · rename_i hfound
      exact absurd (by simpa using hfound) h
    · rfl

/-- A table gives a word to the last tag that is typed by it. -/
theorem get?_table (tags : List (String × α)) (key : String) :
    (table wording tags).get? key = (lastTag? wording tags key).map (·.2) := by
  induction tags using List.reverseRecOn with
  | nil => rfl
  | append_singleton tags tag ih =>
    rw [table, List.foldl_append, List.foldl_cons, List.foldl_nil, get?_enter, lastTag?_concat]
    split
    · rfl
    · exact ih

theorem lastTag?_eq_some_iff {tags : List (String × α)} {key : String} {tag : String × α} :
    lastTag? wording tags key = some tag ↔
      (key ≠ "" ∧ word (wording tag.1) = key)
        ∧ ∃ before after, tags = before ++ tag :: after
          ∧ ∀ other ∈ after, word (wording other.1) ≠ key := by
  unfold lastTag?
  rw [List.find?_eq_some_iff_append, SortedMap.exists_reverse_split_iff]
  constructor
  · rintro ⟨htag, before, after, htags, hafter⟩
    have hkey : key ≠ "" ∧ word (wording tag.1) = key := by simpa using htag
    refine ⟨hkey, before, after, htags, fun other hother => ?_⟩
    simpa [hkey.1] using hafter other hother
  · rintro ⟨hkey, before, after, htags, hafter⟩
    refine ⟨by simpa using hkey, before, after, htags, fun other hother => ?_⟩
    simpa [hkey.1] using hafter other hother

theorem mem_of_lastTag? {tags : List (String × α)} {key : String} {tag : String × α}
    (h : lastTag? wording tags key = some tag) : tag ∈ tags :=
  List.mem_reverse.1 (List.mem_of_find?_eq_some h)

/-- A word of some tag has a last tag. -/
theorem exists_lastTag? {tags : List (String × α)} {tag : String × α} (htag : tag ∈ tags)
    (hword : word (wording tag.1) ≠ "") :
    ∃ last, lastTag? wording tags (word (wording tag.1)) = some last := by
  rcases hlast : lastTag? wording tags (word (wording tag.1)) with _ | last
  · have hnot := List.find?_eq_none.1 hlast tag (List.mem_reverse.2 htag)
    simp [hword] at hnot
  · exact ⟨last, rfl⟩

theorem facet?_ofWording (colorNames : SortedMap String) (key : String) :
    (ofWording wording colorNames).facet? key =
      if key = "#" then some .label
      else if key = "@" then some .user
      else (lastTag? wording facetTags key).map (·.2) := by
  unfold facet? ofWording facetTable
  rw [SortedMap.get?_overlay, SortedMap.get?_ofList, get?_table]
  by_cases hlabel : key = "#"
  · subst hlabel
    rfl
  · by_cases huser : key = "@"
    · subst huser
      rfl
    · simp [sigils, List.lookup_cons, beq_false_of_ne hlabel, beq_false_of_ne huser, hlabel, huser]

theorem facet?_of_not_sigil (colorNames : SortedMap String) {key : String} (hlabel : key ≠ "#")
    (huser : key ≠ "@") :
    (ofWording wording colorNames).facet? key = (table wording facetTags).get? key := by
  rw [facet?_ofWording, if_neg hlabel, if_neg huser, get?_table]

end Lexicon

end BoardQuery

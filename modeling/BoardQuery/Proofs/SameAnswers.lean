import BoardQuery.Proofs.Meanings

/-!
# Lexicons that answer alike

The words of a table are kept in small letters, and small letters stay as they are, so every word
can be looked up by itself (`isSmall_table`, `isSmall_colorTable`). No table holds a word that no
value finds. So lexicons are equal if they answer alike, whatever they are asked
(`ofWording_eq_iff`).
-/

namespace BoardQuery

open Text

namespace SortedMap

variable {α : Type}

/-- The keys of a map are in small letters. -/
def IsSmall (m : SortedMap α) : Prop :=
  ∀ key value, m.get? key = some value → lower key = key

theorem get?_eq_none_of_isSmall {m : SortedMap α} (hm : m.IsSmall) {key : String}
    (h : lower key ≠ key) : m.get? key = none := by
  by_contra hne
  obtain ⟨value, hvalue⟩ := Option.ne_none_iff_exists'.1 hne
  exact h (hm key value hvalue)

/-- Maps whose keys are in small letters are equal if they give the small letters of every text the
same value. -/
theorem eq_of_get?_lower {m m' : SortedMap α} (hm : m.IsSmall) (hm' : m'.IsSmall)
    (h : ∀ text, m.get? (lower text) = m'.get? (lower text)) : m = m' := by
  refine eq_of_get? fun key => ?_
  by_cases hkey : lower key = key
  · rw [← hkey]
    exact h key
  · rw [get?_eq_none_of_isSmall hm hkey, get?_eq_none_of_isSmall hm' hkey]

end SortedMap

namespace Lexicon

variable {α : Type} (wording : String → String)

theorem isSmall_table (tags : List (String × α)) : (table wording tags).IsSmall := by
  intro key value h
  rw [get?_table] at h
  obtain ⟨tag, htag, -⟩ := Option.map_eq_some_iff.1 h
  obtain ⟨⟨-, hword⟩, -⟩ := (lastTag?_eq_some_iff wording).1 htag
  rw [← hword, word, lower_lower]

theorem isSmall_colorTable (names : SortedMap String) : (colorTable names).IsSmall := by
  intro key token h
  obtain ⟨name, ⟨-, rfl⟩, -⟩ := get?_colorTable_eq_some_iff.1 h
  exact lower_lower name

/-- Two lexicons give the same answers about a text. -/
structure AgreeOn (l l' : Lexicon) (text : String) : Prop where
  facet? : l.facet? text = l'.facet? text
  dueWord? : l.dueWord? text = l'.dueWord? text
  period? : l.period? text = l'.period? text
  status? : l.status? text = l'.status? text
  sortField? : l.sortField? text = l'.sortField? text
  part? : l.part? text = l'.part? text
  color? : l.color? text = l'.color? text

/-- Every word of a table is in small letters, and finds what the table keeps for it. -/
def Reaches (find? : String → Option α) (table : SortedMap α) : Prop :=
  ∀ key value, (key, value) ∈ table.entries → lower key = key ∧ find? key = some value

theorem reaches_of_isSmall {m : SortedMap α} (h : m.IsSmall) :
    Reaches (fun text => m.get? (lower text)) m := by
  intro key value hmem
  have hget := SortedMap.get?_eq_some_iff.2 hmem
  have hkey := h key value hget
  refine ⟨hkey, ?_⟩
  simp only [hkey]
  exact hget

/-- The tables that are searched in small letters keep their words in small letters. -/
structure KeepsSmall (l : Lexicon) : Prop where
  dueWords : l.dueWords.IsSmall
  periods : l.periods.IsSmall
  statuses : l.statuses.IsSmall
  sortFields : l.sortFields.IsSmall
  parts : l.parts.IsSmall
  colors : l.colors.IsSmall

theorem keepsSmall_ofWording (colorNames : SortedMap String) :
    (ofWording wording colorNames).KeepsSmall := by
  constructor <;> simp only [ofWording]
  · exact isSmall_table wording dueWordTags
  · exact isSmall_table wording periodTags
  · exact isSmall_table wording statusTags
  · exact isSmall_table wording sortFieldTags
  · exact isSmall_table wording partTags
  · exact isSmall_colorTable colorNames

/-- Lexicons that keep their words in small letters are equal if they give the same answers. -/
theorem KeepsSmall.eq_of_agreeOn {l l' : Lexicon} (hl : l.KeepsSmall) (hl' : l'.KeepsSmall)
    (h : ∀ text, l.AgreeOn l' text) : l = l' := by
  have hfacets : l.facets = l'.facets := SortedMap.eq_of_get? fun text => (h text).facet?
  have hdueWords := SortedMap.eq_of_get?_lower hl.dueWords hl'.dueWords fun t => (h t).dueWord?
  have hperiods := SortedMap.eq_of_get?_lower hl.periods hl'.periods fun t => (h t).period?
  have hstatuses := SortedMap.eq_of_get?_lower hl.statuses hl'.statuses fun t => (h t).status?
  have hsortFields :=
    SortedMap.eq_of_get?_lower hl.sortFields hl'.sortFields fun t => (h t).sortField?
  have hparts := SortedMap.eq_of_get?_lower hl.parts hl'.parts fun t => (h t).part?
  have hcolors := SortedMap.eq_of_get?_lower hl.colors hl'.colors fun t => (h t).color?
  cases l
  cases l'
  simp only at hfacets hdueWords hperiods hstatuses hsortFields hparts hcolors
  rw [hfacets, hdueWords, hperiods, hstatuses, hsortFields, hparts, hcolors]

/-- Two lexicons, of any wordings and any display names of label colors, are equal if and only if
they give the same answers about every text. Each word that a lexicon keeps is reached: in the
tables that are searched in small letters it is in small letters itself. -/
theorem ofWording_eq_iff (wording wording' : String → String)
    (colorNames colorNames' : SortedMap String) :
    let l := ofWording wording colorNames
    let l' := ofWording wording' colorNames'
    (l = l' ↔ ∀ text, l.AgreeOn l' text)
      ∧ (Reaches l.dueWord? l.dueWords ∧ Reaches l.period? l.periods
        ∧ Reaches l.status? l.statuses ∧ Reaches l.sortField? l.sortFields
        ∧ Reaches l.part? l.parts ∧ Reaches l.color? l.colors)
      ∧ ∀ key facet, (key, facet) ∈ l.facets.entries → l.facet? key = some facet := by
  have hl := keepsSmall_ofWording wording colorNames
  have hl' := keepsSmall_ofWording wording' colorNames'
  -- the tables play no part any more, only that they keep small letters
  generalize ofWording wording colorNames = l at hl
  generalize ofWording wording' colorNames' = l' at hl'
  refine ⟨⟨fun h text => ?_, hl.eq_of_agreeOn hl'⟩, ⟨?_, ?_, ?_, ?_, ?_, ?_⟩,
    fun key facet hmem => ?_⟩
  · rw [h]
    exact ⟨rfl, rfl, rfl, rfl, rfl, rfl, rfl⟩
  · exact reaches_of_isSmall hl.dueWords
  · exact reaches_of_isSmall hl.periods
  · exact reaches_of_isSmall hl.statuses
  · exact reaches_of_isSmall hl.sortFields
  · exact reaches_of_isSmall hl.parts
  · exact reaches_of_isSmall hl.colors
  · exact SortedMap.get?_eq_some_iff.2 hmem

end Lexicon

end BoardQuery

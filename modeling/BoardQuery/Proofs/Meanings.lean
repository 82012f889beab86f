import BoardQuery.Proofs.ByteOrder
import BoardQuery.Proofs.SmallLetters
import BoardQuery.Proofs.Tables

/-!
# What a word means

Every table of a lexicon answers for a word with the last of its tags that is typed by it
(`finds_table`), whatever the wordings are: blank ones, ones with blanks at their ends, and ones
that differ in capitals only. The sigils alone are above the tags. A color is found by the greatest
of the display names that have the small letters of the word, and where several tokens have that
name, the last of them is meant (`color?_eq_some_iff`).
-/

namespace BoardQuery

open Text

namespace Palette

variable {wording : String → String} {tokens : List String}

/-- A display name is that of the last token that is worded so. -/
theorem get?_names_eq_some_iff {name token : String} :
    (ofTokens wording tokens).names.get? name = some token ↔
      wording (tag token) = name ∧ ∃ before after, tokens = before ++ token :: after
        ∧ ∀ other ∈ after, wording (tag other) ≠ name := by
  unfold ofTokens
  rw [SortedMap.get?_ofList_map_eq_some_iff]
  constructor
  · rintro ⟨before, token', after, htokens, hentry, hafter⟩
    obtain ⟨hname, rfl⟩ := Prod.mk.inj hentry
    exact ⟨hname, before, after, htokens, hafter⟩
  · rintro ⟨rfl, before, after, htokens, hafter⟩
    exact ⟨before, token, after, htokens, rfl, hafter⟩

theorem exists_get?_names_iff {name : String} :
    (∃ token, (ofTokens wording tokens).names.get? name = some token) ↔
      ∃ token ∈ tokens, wording (tag token) = name := by
  rw [← Option.ne_none_iff_exists', ofTokens, ne_eq, SortedMap.get?_ofList_eq_none_iff]
  simp

end Palette

namespace Lexicon

variable {α : Type} {wording : String → String}

/-! ## Tables of words -/

/-- A tag can be typed, and is typed by `key`: its wording is not blank, and without the blanks at
its ends and in small letters it is `key`. -/
structure IsTypedBy (wording : String → String) (tag key : String) : Prop where
  typeable : trim (wording tag).toList ≠ []
  small : lower (String.ofList (trim (wording tag).toList)) = key

/-- The last of some tags that are typed by `key` stands for `value`. -/
def LastTyped (wording : String → String) (tags : List (String × α)) (key : String) (value : α) :
    Prop :=
  ∃ before tag after, tags = before ++ (tag, value) :: after ∧ IsTypedBy wording tag key
    ∧ ∀ other ∈ after, ¬IsTypedBy wording other.1 key

/-- The answer for `key` is what the last tag stands for that is typed by it, and is missing where
no tag is. -/
structure Finds (wording : String → String) (tags : List (String × α)) (key : String)
    (found : Option α) : Prop where
  some_iff : ∀ value, found = some value ↔ LastTyped wording tags key value
  none_iff : found = none ↔ ∀ tag ∈ tags, ¬IsTypedBy wording tag.1 key

theorem isTypedBy_iff {tag key : String} :
    IsTypedBy wording tag key ↔ key ≠ "" ∧ word (wording tag) = key := by
  have hempty : word (wording tag) = "" ↔ trim (wording tag).toList = [] := by
    rw [word, lower_eq_empty_iff, ← String.toList_inj, String.toList_ofList]
    rfl
  constructor
  · rintro ⟨hne, rfl⟩
    exact ⟨hempty.not.2 hne, rfl⟩
  · rintro ⟨hne, rfl⟩
    exact ⟨hempty.not.1 hne, rfl⟩

instance (tag key : String) : Decidable (IsTypedBy wording tag key) :=
  decidable_of_iff _ isTypedBy_iff.symm

theorem lastTyped_iff {tags : List (String × α)} {key : String} {value : α} :
    LastTyped wording tags key value ↔
      ∃ tag, lastTag? wording tags key = some tag ∧ tag.2 = value := by
  unfold LastTyped
  simp only [isTypedBy_iff, lastTag?_eq_some_iff]
  constructor
  · rintro ⟨before, tag, after, htags, hkey, hafter⟩
    exact ⟨(tag, value), ⟨hkey, before, after, htags,
      fun other hother hword => hafter other hother ⟨hkey.1, hword⟩⟩, rfl⟩
  · rintro ⟨⟨tag, value⟩, ⟨hkey, before, after, htags, hafter⟩, rfl⟩
    exact ⟨before, tag, after, htags, hkey, fun other hother h => hafter other hother h.2⟩

theorem lastTag?_eq_none_iff {tags : List (String × α)} {key : String} :
    lastTag? wording tags key = none ↔ ∀ tag ∈ tags, ¬IsTypedBy wording tag.1 key := by
  simp [lastTag?, List.find?_eq_none, isTypedBy_iff]

/-- A table finds the last tag that is typed by a word. -/
theorem finds_table (wording : String → String) (tags : List (String × α)) (key : String) :
    Finds wording tags key ((table wording tags).get? key) where
  some_iff value := by
    rw [get?_table, Option.map_eq_some_iff, lastTyped_iff]
  none_iff := by
    rw [get?_table, Option.map_eq_none_iff, lastTag?_eq_none_iff]

theorem facet?_sigil (wording : String → String) (colorNames : SortedMap String) :
    (ofWording wording colorNames).facet? "#" = some .label
      ∧ (ofWording wording colorNames).facet? "@" = some .user := by
  rw [facet?_ofWording, facet?_ofWording]
  exact ⟨rfl, rfl⟩

theorem finds_facet? (wording : String → String) (colorNames : SortedMap String) {key : String}
    (hlabel : key ≠ "#") (huser : key ≠ "@") :
    Finds wording facetTags key ((ofWording wording colorNames).facet? key) := by
  rw [facet?_of_not_sigil wording colorNames hlabel huser]
  exact finds_table wording facetTags key

/-! ## Colors -/

/-- Of the display names that have the small letters of a word, the greatest tells the color. -/
theorem get?_colorTable_eq_some_iff {names : SortedMap String} {key token : String} :
    (colorTable names).get? key = some token ↔
      ∃ name, (names.get? name = some token ∧ lower name = key)
        ∧ ∀ name' token', names.get? name' = some token' → lower name' = key → name' ≤ name := by
  unfold colorTable
  rw [SortedMap.get?_ofList_map_eq_some_iff]
  simp only [SortedMap.get?_eq_some_iff]
  constructor
  · rintro ⟨before, ⟨name, token'⟩, after, hentries, hentry, hafter⟩
    obtain ⟨hlower, rfl⟩ := Prod.mk.inj hentry
    refine ⟨name, ⟨by simp [hentries], hlower⟩, fun name' token'' hmem hlower' => ?_⟩
    rw [hentries, List.mem_append, List.mem_cons] at hmem
    rcases hmem with hmem | heq | hmem
    · exact String.not_lt.1 (String.lt_asymm ((SortedMap.ascending_split hentries).1 _ hmem))
    · exact (Prod.mk.inj heq).1 ▸ String.le_refl _
    · exact absurd hlower' (hafter _ hmem)
  · rintro ⟨name, ⟨hmem, rfl⟩, hmax⟩
    obtain ⟨before, after, hentries⟩ := List.append_of_mem hmem
    refine ⟨before, (name, token), after, hentries, rfl, fun other hother hlower => ?_⟩
    have hgt := (SortedMap.ascending_split hentries).2 other hother
    exact String.not_le.2 hgt (hmax other.1 other.2 (by simp [hentries, hother]) hlower)

theorem exists_get?_colorTable_iff {names : SortedMap String} {key : String} :
    (∃ token, (colorTable names).get? key = some token) ↔
      ∃ name, (∃ token, names.get? name = some token) ∧ lower name = key := by
  rw [← Option.ne_none_iff_exists', colorTable, ne_eq, SortedMap.get?_ofList_eq_none_iff]
  simp only [SortedMap.get?_eq_some_iff, List.mem_map]
  constructor
  · intro h
    push Not at h
    obtain ⟨entry, ⟨⟨name, token⟩, hmem, rfl⟩, hlower⟩ := h
    exact ⟨name, ⟨token, hmem⟩, hlower⟩
  · rintro ⟨name, ⟨token, hmem⟩, hlower⟩ hnone
    exact hnone _ ⟨(name, token), hmem, rfl⟩ hlower

/-- The color that a word in small letters names: its display name has them, and the greatest bytes
of all display names that do, and no later token has that display name too. -/
structure IsNamed (colorWording : String → String) (tokens : List String) (key token : String) :
    Prop where
  small : lower (colorWording (Palette.tag token)) = key
  greatest : ∀ other ∈ tokens, lower (colorWording (Palette.tag other)) = key →
    bytes (colorWording (Palette.tag other)) ≤ bytes (colorWording (Palette.tag token))
  last : ∃ before after, tokens = before ++ token :: after
    ∧ ∀ other ∈ after, colorWording (Palette.tag other) ≠ colorWording (Palette.tag token)

section Names

variable (wording colorWording : String → String) {tokens : List String} {value : String}

theorem exists_color?_iff :
    (∃ token, (ofWording wording (Palette.ofTokens colorWording tokens).names).color? value =
        some token) ↔
      ∃ token ∈ tokens, lower (colorWording (Palette.tag token)) = lower value := by
  unfold color? ofWording
  simp only [exists_get?_colorTable_iff, Palette.exists_get?_names_iff]
  constructor
  · rintro ⟨name, ⟨token, htoken, rfl⟩, hlower⟩
    exact ⟨token, htoken, hlower⟩
  · rintro ⟨token, htoken, hlower⟩
    exact ⟨_, ⟨token, htoken, rfl⟩, hlower⟩

theorem color?_eq_some_iff {token : String} :
    (ofWording wording (Palette.ofTokens colorWording tokens).names).color? value = some token ↔
      IsNamed colorWording tokens (lower value) token := by
  unfold color? ofWording
  rw [get?_colorTable_eq_some_iff]
  constructor
  · rintro ⟨name, ⟨hname, hlower⟩, hmax⟩
    obtain ⟨rfl, hlast⟩ := Palette.get?_names_eq_some_iff.1 hname
    refine ⟨hlower, fun other hother hother' => bytes_le_iff.2 ?_, hlast⟩
    obtain ⟨token', htoken'⟩ := Palette.exists_get?_names_iff.2 ⟨other, hother, rfl⟩
    exact hmax _ token' htoken' hother'
  · rintro ⟨hlower, hmax, hlast⟩
    refine ⟨_, ⟨Palette.get?_names_eq_some_iff.2 ⟨rfl, hlast⟩, hlower⟩, ?_⟩
    intro name' token' hname' hlower'
    obtain ⟨other, hother, rfl⟩ := Palette.exists_get?_names_iff.1 ⟨token', hname'⟩
    exact bytes_le_iff.1 (hmax other hother hlower')

end Names

/-- In any wording, and with any label colors, each table answers for a word with the last of its
tags that is typed by the small letters of the word, and a keyword is looked for as it is, where the
sigils keep their meaning. A color is found where a display name has the small letters of the word,
and is the last one that has the greatest of these names. -/
theorem finds_ofWording (wording : String → String) (colorNames : SortedMap String)
    (value : String) :
    let l := ofWording wording colorNames
    (Finds wording dueWordTags (lower value) (l.dueWord? value)
        ∧ Finds wording periodTags (lower value) (l.period? value)
        ∧ Finds wording statusTags (lower value) (l.status? value)
        ∧ Finds wording sortFieldTags (lower value) (l.sortField? value)
        ∧ Finds wording partTags (lower value) (l.part? value))
      ∧ (l.facet? "#" = some .label ∧ l.facet? "@" = some .user
        ∧ (value ≠ "#" → value ≠ "@" → Finds wording facetTags value (l.facet? value)))
      ∧ ∀ colorWording tokens, colorNames = (Palette.ofTokens colorWording tokens).names →
        ((∃ token, l.color? value = some token) ↔
            ∃ token ∈ tokens, lower (colorWording (Palette.tag token)) = lower value)
          ∧ ∀ token, l.color? value = some token ↔
            IsNamed colorWording tokens (lower value) token := by
  intro l
  refine ⟨?_, ?_, ?_⟩
  · simp only [l, dueWord?, period?, status?, sortField?, part?, ofWording]
    exact ⟨finds_table wording dueWordTags _, finds_table wording periodTags _,
      finds_table wording statusTags _, finds_table wording sortFieldTags _,
      finds_table wording partTags _⟩
  · obtain ⟨hlabel, huser⟩ := facet?_sigil wording colorNames
    exact ⟨hlabel, huser, finds_facet? wording colorNames⟩
  · rintro colorWording tokens rfl
    exact ⟨exists_color?_iff wording colorWording, fun token =>
      color?_eq_some_iff wording colorWording⟩

/-- Wordings that differ in capitals and in the blanks at their ends, among many that are blank. -/
def clashing (tag : String) : String :=
  if tag = "predicate-open" then " Offen"
  else if tag = "predicate-ended" then "OFFEN\u00A0"
  else if tag = "color-red" then "oFFEN"
  else if tag = "color-sky" ∨ tag = "color-plum" then "offeN"
  else " "

theorem finds_ofWording_clashing :
    let l := ofWording clashing (Palette.ofTokens clashing ["sky", "plum", "red"]).names
    "ofFen" ≠ "#" ∧ "ofFen" ≠ "@" ∧ l.status? "ofFen" = some .ended ∧ l.facet? "ofFen" = none
      ∧ l.color? "ofFen" = some "plum" := by
  obtain ⟨⟨-, -, hstatus, -, -⟩, ⟨-, -, hfacet⟩, hcolors⟩ :=
    finds_ofWording clashing (Palette.ofTokens clashing ["sky", "plum", "red"]).names "ofFen"
  obtain ⟨-, hcolor⟩ := hcolors clashing ["sky", "plum", "red"] rfl
  have hsmall : lower "ofFen" = "offen" := by decide
  rw [hsmall] at hstatus hcolor
  refine ⟨by decide, by decide, (hstatus.some_iff .ended).2 ?_,
    (hfacet (by decide) (by decide)).none_iff.2 (by decide), (hcolor "plum").2 ?_⟩
  · exact ⟨statusTags.take 3, "predicate-ended", statusTags.drop 4, rfl, by decide, by decide⟩
  · exact ⟨by decide, by decide, ["sky"], ["red"], rfl, by decide⟩

end Lexicon

end BoardQuery

import BoardQuery.Proofs.BareClause
import BoardQuery.Proofs.Tables
import BoardQuery.SearchBox

/-!
# What settings are accepted

Settings are refused for the wording of a keyword that no search text has as a keyword
(`isTypeable_iff`), and the least tag with such a wording is named (`validated_eq_error_iff`). So in
accepted settings all keywords can be typed, and none has blanks: a keyword is typed by its small
letters (`word_wording`).
-/

namespace BoardQuery

open Text

namespace Settings

/-! ## What settings are accepted -/

theorem isSigilText_iff {cs : List Char} : isSigilText cs = true ↔ cs = ['#'] ∨ cs = ['@'] := by
  rcases cs with _ | ⟨c, _ | ⟨d, cs⟩⟩
  · simp [isSigilText]
  · simp [isSigilText, Token.isSigil_iff]
  · simp [isSigilText]

theorem isTypeable_iff {tag text : String} :
    isTypeable tag text = true ↔
      Token.IsKeyword text.toList ∧ (isAbbreviationTag tag = false → text ≠ "#" ∧ text ≠ "@") := by
  have hlabel : text.toList = ['#'] ↔ text = "#" := by
    rw [← String.toList_inj]
    rfl
  have huser : text.toList = ['@'] ↔ text = "@" := by
    rw [← String.toList_inj]
    rfl
  have hword : isWord text.toList = true → text ≠ "#" ∧ text ≠ "@" := by
    intro h
    constructor
    · rintro rfl
      exact absurd h (by decide)
    · rintro rfl
      exact absurd h (by decide)
  unfold isTypeable Token.IsKeyword
  rw [Bool.or_eq_true, Bool.and_eq_true, isSigilText_iff, hlabel, huser]
  rcases isAbbreviationTag tag with _ | _
  · simp only [Bool.false_eq_true, false_and, or_false, forall_const]
    constructor
    · intro h
      exact ⟨.inr (.inr h), hword h⟩
    · rintro ⟨h | h | h, hne⟩
      · exact absurd h hne.1
      · exact absurd h hne.2
      · exact h
  · simp only [Bool.true_eq_false, true_and, false_imp_iff, and_true]
    tauto

/-- A wording of a keyword's tag that cannot be typed as a keyword. -/
def Untypeable (settings : Settings) (tag text : String) : Prop :=
  isKeywordTag tag = true ∧ settings.wordings.get? tag = some text ∧ isTypeable tag text = false

theorem untypeable?_eq_some_iff {settings : Settings} {tag text : String} :
    settings.untypeable? = some (tag, text) ↔
      settings.Untypeable tag text ∧ ∀ tag' text', settings.Untypeable tag' text' → tag ≤ tag' := by
  have hp : ∀ tag text, (isKeywordTag tag && !isTypeable tag text) = true ↔
      isKeywordTag tag = true ∧ isTypeable tag text = false := by simp
  unfold untypeable? Untypeable
  rw [SortedMap.find?_entries_eq_some_iff]
  simp only [hp]
  constructor
  · rintro ⟨⟨hget, hkey, htext⟩, hmin⟩
    exact ⟨⟨hkey, hget, htext⟩, fun tag' text' h => hmin tag' text' h.2.1 ⟨h.1, h.2.2⟩⟩
  · rintro ⟨⟨hkey, hget, htext⟩, hmin⟩
    exact ⟨⟨hget, hkey, htext⟩, fun tag' text' hget' h => hmin tag' text' ⟨h.1, hget', h.2⟩⟩

theorem validated_eq_error_iff {settings : Settings} {failure : Failure} :
    settings.validated = .error failure ↔
      ∃ tag text, failure = .untypeable tag text ∧ settings.Untypeable tag text
        ∧ ∀ tag' text', settings.Untypeable tag' text' → tag ≤ tag' := by
  unfold validated
  constructor
  · intro h
    split at h
    · rename_i tag text hfound
      obtain rfl := Except.error.inj h
      exact ⟨tag, text, rfl, untypeable?_eq_some_iff.1 hfound⟩
    · simp at h
  · rintro ⟨tag, text, rfl, h⟩
    rw [untypeable?_eq_some_iff.2 h]

theorem validated_eq_ok_iff {settings : Settings} :
    settings.validated = .ok settings ↔ ∀ tag text, ¬settings.Untypeable tag text := by
  unfold validated
  constructor
  · rintro h tag text ⟨hkey, hget, htext⟩
    split at h
    · simp at h
    · rename_i hnone
      have hnot := List.find?_eq_none.1 hnone _ (SortedMap.get?_eq_some_iff.1 hget)
      simp [hkey, htext] at hnot
  · intro h
    split
    · rename_i tag text hfound
      exact absurd (untypeable?_eq_some_iff.1 hfound).1 (h tag text)
    · rfl

theorem eq_of_validated {settings settings' : Settings} (h : settings.validated = .ok settings') :
    settings' = settings := by
  unfold validated at h
  split at h
  · simp at h
  · exact (Except.ok.inj h).symm

theorem wording_phrasebook (settings : Settings) (tag : String) :
    settings.phrasebook.wording tag =
      (settings.wordings.get? tag).getD (Phrasebook.english.wording tag) :=
  Phrasebook.wording_overlay _ _ tag

theorem wording_of_get? (settings : Settings) {tag text : String}
    (h : settings.wordings.get? tag = some text) : settings.phrasebook.wording tag = text := by
  rw [wording_phrasebook, h, Option.getD_some]

private theorem isTypeable_english :
    ∀ tag ∈ Lexicon.facetTags, isTypeable tag.1 (Phrasebook.english.wording tag.1) = true := by
  simp only [Phrasebook.english, Phrasebook.wording_ofList]
  decide

theorem isKeywordTag_of_mem {tag : String × Facet} (h : tag ∈ Lexicon.facetTags) :
    isKeywordTag tag.1 = true :=
  List.any_eq_true.2 ⟨tag, h, beq_self_eq_true _⟩

theorem exists_mem_of_isKeywordTag {tag : String} (h : isKeywordTag tag = true) :
    ∃ facet, (tag, facet) ∈ Lexicon.facetTags := by
  obtain ⟨⟨tag', facet⟩, hmem, heq⟩ := List.any_eq_true.1 h
  obtain rfl : tag' = tag := beq_iff_eq.1 heq
  exact ⟨facet, hmem⟩

/-- Whether a keyword cannot be typed is told by its wording, be it set or English: the English
ones can. -/
theorem untypeable_iff_wording {settings : Settings} {tag text : String} :
    settings.Untypeable tag text ↔
      isKeywordTag tag = true ∧ settings.phrasebook.wording tag = text
        ∧ isTypeable tag text = false := by
  constructor
  · rintro ⟨hkey, hget, htext⟩
    exact ⟨hkey, wording_of_get? settings hget, htext⟩
  · rintro ⟨hkey, rfl, htext⟩
    rw [wording_phrasebook] at htext
    rcases hget : settings.wordings.get? tag with _ | text
    · obtain ⟨facet, hmem⟩ := exists_mem_of_isKeywordTag hkey
      rw [hget, Option.getD_none, isTypeable_english _ hmem] at htext
      simp at htext
    · rw [hget, Option.getD_some] at htext
      rw [wording_of_get? settings hget]
      exact ⟨hkey, hget, htext⟩

/-- In accepted settings all keywords can be typed, whether their wordings are set or English. -/
theorem isTypeable_wording {settings : Settings} (h : settings.validated = .ok settings)
    {tag : String × Facet} (htag : tag ∈ Lexicon.facetTags) :
    isTypeable tag.1 (settings.phrasebook.wording tag.1) = true := by
  by_contra htext
  exact validated_eq_ok_iff.1 h tag.1 _
    (untypeable_iff_wording.2 ⟨isKeywordTag_of_mem htag, rfl, by simpa using htext⟩)

theorem isKeyword_wording {settings : Settings} (h : settings.validated = .ok settings)
    {tag : String × Facet} (htag : tag ∈ Lexicon.facetTags) :
    Token.IsKeyword (settings.phrasebook.wording tag.1).toList :=
  (isTypeable_iff.1 (isTypeable_wording h htag)).1

theorem wording_ne_empty {settings : Settings} (h : settings.validated = .ok settings)
    {tag : String × Facet} (htag : tag ∈ Lexicon.facetTags) :
    settings.phrasebook.wording tag.1 ≠ "" := by
  intro hnil
  have hk := isKeyword_wording h htag
  rw [hnil] at hk
  exact absurd hk (by decide)

theorem word_wording {settings : Settings} (h : settings.validated = .ok settings)
    {tag : String × Facet} (htag : tag ∈ Lexicon.facetTags) :
    Lexicon.word (settings.phrasebook.wording tag.1) =
      lower (settings.phrasebook.wording tag.1) :=
  Lexicon.word_eq_lower (Token.isBlank_of_mem_keyword (isKeyword_wording h htag))

end Settings

theorem Phrasebook.overlay_empty (p : Phrasebook) : p.overlay .empty = p :=
  rfl

namespace SearchBox

/-! ## The search box of settings -/

theorem english_eq : english = ofSettings .standard := by
  have hphrasebook : Settings.standard.phrasebook = .english := Phrasebook.overlay_empty .english
  have hcolors : Settings.standard.labelColors = Palette.boardColors := rfl
  unfold english ofSettings Settings.palette
  rw [hphrasebook, hcolors]

theorem ofSettings?_eq_ok_iff {settings : Settings} {box : SearchBox} :
    ofSettings? settings = .ok box ↔
      settings.validated = .ok settings ∧ ofSettings settings = box := by
  unfold ofSettings?
  constructor
  · intro h
    rcases hvalid : settings.validated with failure | settings'
    · rw [hvalid] at h
      simp [Except.map] at h
    · obtain rfl := Settings.eq_of_validated hvalid
      rw [hvalid] at h
      exact ⟨rfl, Except.ok.inj h⟩
  · rintro ⟨hvalid, rfl⟩
    rw [hvalid]
    rfl

/-- French wordings of two keywords, one of them a capital word. -/
def french : Settings where
  language := "fr"
  wordings := .ofList [("operator-due", "ÉCHÉANCE"), ("operator-list", "liste")]
  labelColors := []

theorem ofSettings?_french : ofSettings? french = .ok (ofSettings french) := by
  have hvalid : french.validated = .ok french := by decide
  exact ofSettings?_eq_ok_iff.2 ⟨hvalid, rfl⟩

end SearchBox

end BoardQuery

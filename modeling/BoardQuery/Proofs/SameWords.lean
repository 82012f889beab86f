import BoardQuery.Proofs.Accepted
import BoardQuery.Proofs.Lookups

/-!
# Which wordings count

The tables of a lexicon hold the wordings of their own tags and of the label colors, and no other
wording (`table_congr`, `ofTokens_congr`). So settings that word these alike are accepted or refused
alike (`SameWords.validated_eq_error_iff`), and then read all texts alike
(`ofSettings?_of_sameWords`), however they word messages: those are put into words only after the
reading is done.
-/

namespace BoardQuery

open Text

namespace Lexicon

variable {α : Type} {wording wording' : String → String}

/-- The tags whose wordings are looked for in clauses, those of label colors apart. -/
def typedTags : List String :=
  facetTags.map (·.1) ++ dueWordTags.map (·.1) ++ periodTags.map (·.1) ++ statusTags.map (·.1)
    ++ sortFieldTags.map (·.1) ++ partTags.map (·.1)

theorem enter_congr {table : SortedMap α} {entry : String × α}
    (h : wording entry.1 = wording' entry.1) :
    enter wording table entry = enter wording' table entry := by
  unfold enter
  rw [h]

/-- A table depends on the wordings of its own tags only. -/
theorem table_congr {tags : List (String × α)}
    (h : ∀ tag ∈ tags.map (·.1), wording tag = wording' tag) :
    table wording tags = table wording' tags :=
  List.foldl_ext _ _ _ fun _ tag htag => enter_congr (h tag.1 (List.mem_map.2 ⟨tag, htag, rfl⟩))

theorem ofWording_congr (h : ∀ tag ∈ typedTags, wording tag = wording' tag)
    (colorNames : SortedMap String) : ofWording wording colorNames = ofWording wording' colorNames := by
  unfold typedTags at h
  simp only [List.forall_mem_append] at h
  obtain ⟨⟨⟨⟨⟨hfacets, hdueWords⟩, hperiods⟩, hstatuses⟩, hsortFields⟩, hparts⟩ := h
  unfold ofWording facetTable
  rw [table_congr hfacets, table_congr hdueWords, table_congr hperiods, table_congr hstatuses,
    table_congr hsortFields, table_congr hparts]

end Lexicon

/-- A palette depends on the wordings of its own colors only. -/
theorem Palette.ofTokens_congr {wording wording' : String → String} {tokens : List String}
    (h : ∀ token ∈ tokens, wording (tag token) = wording' (tag token)) :
    ofTokens wording tokens = ofTokens wording' tokens := by
  unfold ofTokens
  rw [List.map_congr_left fun token htoken => by rw [h token htoken]]

namespace Settings

/-- Settings with the same label colors that give the same wordings, set or English, to all that is
looked for in clauses. Their languages and all their other wordings may differ, among them those of
messages. -/
structure SameWords (settings settings' : Settings) : Prop where
  labelColors : settings.labelColors = settings'.labelColors
  words : ∀ tag ∈ Lexicon.typedTags,
    settings.phrasebook.wording tag = settings'.phrasebook.wording tag
  colorNames : ∀ token ∈ settings.labelColors,
    settings.phrasebook.wording (Palette.tag token) =
      settings'.phrasebook.wording (Palette.tag token)

variable {settings settings' : Settings}

theorem mem_typedTags_of_isKeywordTag {tag : String} (h : isKeywordTag tag = true) :
    tag ∈ Lexicon.typedTags := by
  obtain ⟨facet, hmem⟩ := exists_mem_of_isKeywordTag h
  unfold Lexicon.typedTags
  simp only [List.append_assoc]
  exact List.mem_append_left _ (List.mem_map.2 ⟨(tag, facet), hmem, rfl⟩)

theorem SameWords.untypeable_iff (h : SameWords settings settings') {tag text : String} :
    settings.Untypeable tag text ↔ settings'.Untypeable tag text := by
  rw [untypeable_iff_wording, untypeable_iff_wording]
  refine and_congr_right fun hkey => ?_
  rw [h.words tag (mem_typedTags_of_isKeywordTag hkey)]

theorem SameWords.validated_eq_error_iff (h : SameWords settings settings') {failure : Failure} :
    settings.validated = .error failure ↔ settings'.validated = .error failure := by
  rw [Settings.validated_eq_error_iff, Settings.validated_eq_error_iff]
  simp only [h.untypeable_iff]

theorem SameWords.palette_eq (h : SameWords settings settings') :
    settings.palette settings.phrasebook = settings'.palette settings'.phrasebook := by
  unfold palette
  rw [← h.labelColors]
  exact Palette.ofTokens_congr h.colorNames

end Settings

namespace SearchBox

variable {settings settings' : Settings}

theorem lexicon_eq_of_sameWords (h : settings.SameWords settings') :
    (ofSettings settings).lexicon = (ofSettings settings').lexicon := by
  unfold ofSettings SearchBox.of
  rw [h.palette_eq]
  exact Lexicon.ofWording_congr h.words _

theorem ofSettings?_eq_error_iff {failure : Failure} :
    ofSettings? settings = .error failure ↔ settings.validated = .error failure := by
  unfold ofSettings?
  rcases settings.validated with failure' | settings' <;> simp [Except.map]

/-- Settings that word alike what is looked for in clauses are refused for the same reason, or make
search boxes that read every text, at every anchor, as the same query. The queries stay the same
under all calls, and every report to them has the same outcome. -/
theorem ofSettings?_of_sameWords (h : settings.SameWords settings') :
    (∃ failure, ofSettings? settings = .error failure ∧ ofSettings? settings' = .error failure)
      ∨ ∃ box box', ofSettings? settings = .ok box ∧ ofSettings? settings' = .ok box'
        ∧ ∀ anchor text calls,
          let q := (box.read anchor text).after box.palette calls
          let q' := (box'.read anchor text).after box'.palette calls
          (q.criteria.groups = q'.criteria.groups ∧ q.criteria.text = q'.criteria.text
              ∧ q.lookups = q'.lookups ∧ q.issues = q'.issues)
            ∧ ∀ facet name, q.reportNotFound box.palette facet name =
              q'.reportNotFound box'.palette facet name := by
  rcases hbox : ofSettings? settings with failure | box
  · refine .inl ⟨failure, rfl, ?_⟩
    rw [ofSettings?_eq_error_iff, ← h.validated_eq_error_iff]
    exact ofSettings?_eq_error_iff.1 hbox
  · rcases hbox' : ofSettings? settings' with failure | box'
    · have hfailure := h.validated_eq_error_iff.2 (ofSettings?_eq_error_iff.1 hbox')
      rw [ofSettings?_eq_error_iff.2 hfailure] at hbox
      simp at hbox
    · refine .inr ⟨box, box', rfl, rfl, fun anchor text calls => ?_⟩
      obtain ⟨-, rfl⟩ := ofSettings?_eq_ok_iff.1 hbox
      obtain ⟨-, rfl⟩ := ofSettings?_eq_ok_iff.1 hbox'
      have hpalette : (ofSettings settings).palette = (ofSettings settings').palette :=
        h.palette_eq
      have hread : (ofSettings settings).read anchor text =
          (ofSettings settings').read anchor text := by
        unfold read
        rw [lexicon_eq_of_sameWords h]
      intro q q'
      have hq : q = q' := by
        show ((ofSettings settings).read anchor text).after _ calls = _
        rw [hread, hpalette]
      rw [hq, hpalette]
      exact ⟨⟨rfl, rfl, rfl, rfl⟩, fun _ _ => rfl⟩

/-- German wordings of a message, and a keyword that is set to its English wording. -/
def german : Settings where
  language := "de"
  wordings := .ofList
    [("operator-unknown-error", "%s ist kein Operator"), ("operator-board", "board")]
  labelColors := Palette.boardColors

theorem sameWords_german : german.SameWords .standard where
  labelColors := rfl
  words := by
    simp only [Settings.wording_phrasebook, Phrasebook.english, Phrasebook.wording_ofList]
    decide
  colorNames := by
    simp only [Settings.wording_phrasebook, Phrasebook.english, Phrasebook.wording_ofList]
    decide

theorem ofSettings?_of_sameWords_german :
    german.SameWords .standard
      ∧ german.phrasebook.wording "operator-unknown-error" ≠
        Phrasebook.english.wording "operator-unknown-error"
      ∧ ∃ box box', ofSettings? german = .ok box ∧ ofSettings? .standard = .ok box'
        ∧ ((box.read ⟨⟨2026, 10, 18, by decide, by decide⟩, .fixed 0⟩ "board:a x:y").after
            box.palette [.report .label "red"]).issues =
          ((box'.read ⟨⟨2026, 10, 18, by decide, by decide⟩, .fixed 0⟩ "board:a x:y").after
            box'.palette [.report .label "red"]).issues := by
  have hvalid : german.validated = .ok german := by decide +kernel
  have hword : german.phrasebook.wording "operator-unknown-error" = "%s ist kein Operator" :=
    german.wording_of_get? (by decide +kernel)
  refine ⟨sameWords_german, ?_, ?_⟩
  · rw [hword]
    simp only [Phrasebook.english, Phrasebook.wording_ofList]
    decide +kernel
  · rcases ofSettings?_of_sameWords sameWords_german with
      ⟨failure, hfailure, -⟩ | ⟨box, box', hbox, hbox', hsame⟩
    · rw [ofSettings?_eq_error_iff, hvalid] at hfailure
      simp at hfailure
    · exact ⟨box, box', hbox, hbox', (hsame _ _ _).1.2.2.2⟩

end SearchBox

end BoardQuery

import BoardQuery.Proofs.Accepted

/-!
# What keywords mean

The wordings that settings may give a keyword are those that some search text has for the keyword
of a clause, and a keyword of accepted settings can be typed before any value that needs no quotes.
It then means what the last tag with its small letters means (`lastTag?_lower_eq_some_iff`), unless
it is a sigil (`facet?_lower`).
-/

namespace BoardQuery

open Text

namespace SearchBox

theorem facet?_lower (settings : Settings) (text : String) :
    (ofSettings settings).lexicon.facet? (lower text) =
      if text = "#" then some .label
      else if text = "@" then some .user
      else (Lexicon.lastTag? settings.phrasebook.wording Lexicon.facetTags (lower text)).map
        (·.2) := by
  have hlabel : lower text = "#" ↔ text = "#" := @lower_eq_singleton_iff text '#' (by decide)
  have huser : lower text = "@" ↔ text = "@" := @lower_eq_singleton_iff text '@' (by decide)
  unfold ofSettings SearchBox.of
  rw [Lexicon.facet?_ofWording]
  simp only [hlabel, huser]

/-- In accepted settings the wording of a keyword is typed by its small letters, and so are those
of all the tags that have the same. -/
theorem lastTag?_lower_eq_some_iff {settings : Settings} (h : settings.validated = .ok settings)
    {text : String} (htext : text ≠ "") {tag : String × Facet} :
    Lexicon.lastTag? settings.phrasebook.wording Lexicon.facetTags (lower text) = some tag ↔
      lower (settings.phrasebook.wording tag.1) = lower text
        ∧ ∃ before after, Lexicon.facetTags = before ++ tag :: after
          ∧ ∀ other ∈ after, lower (settings.phrasebook.wording other.1) ≠ lower text := by
  have hne : lower text ≠ "" := fun hnil => htext (lower_eq_empty_iff.1 hnil)
  have hword : ∀ {before after other}, Lexicon.facetTags = before ++ tag :: after →
      other ∈ tag :: after → Lexicon.word (settings.phrasebook.wording other.1) =
        lower (settings.phrasebook.wording other.1) := by
    intro before after other htags hother
    refine Settings.word_wording h ?_
    rw [htags]
    exact List.mem_append_right _ hother
  rw [Lexicon.lastTag?_eq_some_iff]
  constructor
  · rintro ⟨⟨-, htag⟩, before, after, htags, hafter⟩
    rw [hword htags (List.mem_cons_self ..)] at htag
    refine ⟨htag, before, after, htags, fun other hother => ?_⟩
    rw [← hword htags (List.mem_cons_of_mem _ hother)]
    exact hafter other hother
  · rintro ⟨htag, before, after, htags, hafter⟩
    rw [← hword htags (List.mem_cons_self ..)] at htag
    refine ⟨⟨hne, htag⟩, before, after, htags, fun other hother => ?_⟩
    rw [hword htags (List.mem_cons_of_mem _ hother)]
    exact hafter other hother

/-- A keyword may be worded as some search text has it for the keyword of a clause, and as a sigil
only in a short form; of the wordings that are not so, the one with the least tag is refused. A
keyword of accepted settings can be typed before every bare value, and means what the last tag
means that has its small letters, unless it is a sigil. -/
theorem keywords_agree :
    (∀ tag text, Settings.isTypeable tag text = true ↔
        (∃ input clause, Token.clause clause ∈ Token.scan input ∧ clause.keyword = text)
          ∧ (Settings.isAbbreviationTag tag = false → text ≠ "#" ∧ text ≠ "@"))
      ∧ (∀ settings : Settings,
        (settings.validated = .ok settings ↔ ∀ tag text, ¬settings.Untypeable tag text)
          ∧ ∀ failure, settings.validated = .error failure ↔
            ∃ tag text, failure = .untypeable tag text ∧ settings.Untypeable tag text
              ∧ ∀ tag' text', settings.Untypeable tag' text' → tag ≤ tag')
      ∧ ∀ settings box, ofSettings? settings = .ok box →
        ∀ before tag after, Lexicon.facetTags = before ++ tag :: after →
          let wording := box.phrasebook.wording
          let keyword := wording tag.1
          (∀ value : String, Token.Bare value.toList →
              Token.scan (keyword ++ (if keyword = "#" ∨ keyword = "@" then "" else ":") ++ value) =
                [.clause (.typed keyword value)])
            ∧ (∃ before' tag' after', Lexicon.facetTags = before' ++ tag' :: after'
              ∧ lower (wording tag'.1) = lower keyword
              ∧ (∀ other ∈ after', lower (wording other.1) ≠ lower keyword)
              ∧ box.lexicon.facet? (lower keyword) =
                some (if keyword = "#" then .label else if keyword = "@" then .user else tag'.2))
            ∧ (keyword ≠ "#" → keyword ≠ "@" →
              (∀ other ∈ after, lower (wording other.1) ≠ lower keyword) →
                box.lexicon.facet? (lower keyword) = some tag.2) := by
  refine ⟨fun tag text => ?_, fun settings => ⟨Settings.validated_eq_ok_iff, fun failure =>
    Settings.validated_eq_error_iff⟩, ?_⟩
  · rw [Token.exists_mem_scan_iff]
    exact Settings.isTypeable_iff
  · intro settings box hbox before tag after htags wording keyword
    obtain ⟨hvalid, rfl⟩ := ofSettings?_eq_ok_iff.1 hbox
    have htag : tag ∈ Lexicon.facetTags := by
      rw [htags]
      exact List.mem_append_right _ (List.mem_cons_self ..)
    have hk : Token.IsKeyword keyword.toList := Settings.isKeyword_wording hvalid htag
    have hne : keyword ≠ "" := Settings.wording_ne_empty hvalid htag
    refine ⟨fun value hbare => ?_, ?_, fun hlabel huser hafter => ?_⟩
    · rw [← Token.ofList_markAfter hk]
      exact Token.scan_bare hk hbare
    · have hword : Lexicon.word (settings.phrasebook.wording tag.1) = lower keyword :=
        Settings.word_wording hvalid htag
      obtain ⟨tag', hlast⟩ := Lexicon.exists_lastTag? settings.phrasebook.wording htag
        (hword.trans_ne (lower_eq_empty_iff.not.2 hne))
      rw [hword] at hlast
      obtain ⟨hlower, before', after', htags', hafter'⟩ :=
        (lastTag?_lower_eq_some_iff hvalid hne).1 hlast
      refine ⟨before', tag', after', htags', hlower, hafter', ?_⟩
      rw [facet?_lower, hlast]
      split_ifs <;> rfl
    · have hlast := (lastTag?_lower_eq_some_iff hvalid hne).2 ⟨rfl, before, after, htags, hafter⟩
      rw [facet?_lower, if_neg hlabel, if_neg huser, hlast]
      rfl

theorem keywords_agree_french :
    ofSettings? french = .ok (ofSettings french)
      ∧ Token.scan "ÉCHÉANCE:3" = [.clause (.typed "ÉCHÉANCE" "3")]
      ∧ (ofSettings french).lexicon.facet? "échéance" = some .dueAt := by
  have hword : (ofSettings french).phrasebook.wording "operator-due" = "ÉCHÉANCE" :=
    french.wording_of_get? (by decide +kernel)
  have hlater : ∀ other ∈ Lexicon.facetTags.drop 16,
      lower ((ofSettings french).phrasebook.wording other.1) ≠ lower "ÉCHÉANCE" := by
    show ∀ other ∈ Lexicon.facetTags.drop 16,
      lower (french.phrasebook.wording other.1) ≠ lower "ÉCHÉANCE"
    simp only [Settings.wording_phrasebook, Phrasebook.english, Phrasebook.wording_ofList]
    decide +kernel
  have hlower : lower "ÉCHÉANCE" = "échéance" := by decide +kernel
  obtain ⟨hscan, -, hfacet⟩ := keywords_agree.2.2 french _ ofSettings?_french
    (Lexicon.facetTags.take 15) ("operator-due", .dueAt) (Lexicon.facetTags.drop 16) rfl
  rw [hword] at hscan hfacet
  have hbare : Token.Bare "3".toList := @Token.bare_singleton '3' (by decide) (by decide)
  refine ⟨ofSettings?_french, hscan "3" hbare, ?_⟩
  rw [← hlower]
  exact hfacet (by decide) (by decide) hlater

end SearchBox

end BoardQuery

import BoardQuery.Proofs.Lookups
import BoardQuery.Proofs.Meanings
import BoardQuery.Proofs.Messages
import BoardQuery.Proofs.WellTyped

/-!
# Labels and label colors

A label is told from a label color twice. Reading goes by the display names of the colors, in small
letters, and reporting by their tokens as they stand. A color that was read is always reported as a
color (`labels_reported`). A name that was read is reported as a name if every token is a display
name too, but for capitals; this is also what it takes for the two to agree on all that can be typed
(`readLabel_alike_iff`).
-/

namespace BoardQuery

open Text

namespace Palette

/-- Every token is, but for capitals, the display name of one of the colors. -/
def NamesTokens (palette : Palette) : Prop :=
  ∀ token ∈ palette.tokens, ∃ name other,
    palette.names.get? name = some other ∧ lower name = lower token

theorem isColor_iff {palette : Palette} {name : String} :
    palette.isColor name = true ↔ name ∈ palette.tokens :=
  List.contains_iff_mem

theorem namesTokens_ofTokens_iff {wording : String → String} {tokens : List String} :
    (ofTokens wording tokens).NamesTokens ↔
      ∀ token ∈ tokens, ∃ other ∈ tokens, lower (wording (tag other)) = lower token := by
  have htokens : (ofTokens wording tokens).tokens = tokens := rfl
  unfold NamesTokens
  rw [htokens]
  refine forall₂_congr fun token _ => ?_
  constructor
  · rintro ⟨name, other, hname, hlower⟩
    obtain ⟨other, hother, rfl⟩ := exists_get?_names_iff.1 ⟨other, hname⟩
    exact ⟨other, hother, hlower⟩
  · rintro ⟨other, hother, hlower⟩
    obtain ⟨last, hlast⟩ := exists_get?_names_iff.2 ⟨other, hother, rfl⟩
    exact ⟨_, last, hlast, hlower⟩

end Palette

theorem Query.WellTyped.admits {settings : Settings} {q : Query} (h : q.WellTyped settings)
    {facet : Facet} {c : Criterion} (hc : c ∈ q.criteria.values facet) :
    facet.Admits settings c := by
  have hgroup : (facet, q.criteria.values facet) ∈ q.criteria.groups.groups := by
    rw [Grouped.groups_eq]
    exact List.mem_map.2 ⟨facet, Grouped.mem_facets_of_mem_values hc, rfl⟩
  exact (h.criteria _ hgroup).2.2 c hc

/-- The issue of a label that was not found, as a color or as a name. -/
theorem Issue.notFound?_label (palette : Palette) (name : String) :
    Issue.notFound? palette .label name =
      some ⟨if palette.isColor name then .labelColorNotFound else .labelNotFound, .text name,
        some (palette.isColor name)⟩ := by
  unfold Issue.notFound?
  cases palette.isColor name <;> rfl

/-- What a label is read as is among the labels of the query. -/
theorem Lexicon.readLabel_mem_values {l : Lexicon} {anchor : Calendar.Anchor} {tokens : List Token}
    {c : Clause} (hc : .clause c ∈ tokens) (hfacet : l.facet? (lower c.keyword) = some .label) :
    l.readLabel c.value ∈ (l.query anchor tokens).criteria.values .label := by
  have hread : l.read anchor c = .criterion .label (l.readLabel c.value) := by
    simp only [read, hfacet]
    rfl
  have hvalues : (l.query anchor tokens).criteria.values .label =
      Grouped.valuesOf (l.criteriaOf anchor tokens) .label := by
    rw [query_eq]
    exact Grouped.values_ofEntries _ _
  rw [hvalues, Grouped.mem_valuesOf]
  refine List.mem_filterMap.2 ⟨.criterion .label (l.readLabel c.value), ?_, rfl⟩
  exact List.mem_map.2 ⟨c, List.mem_filterMap.2 ⟨.clause c, hc, rfl⟩, hread⟩

namespace SearchBox

variable {settings : Settings}

theorem namesTokens_iff :
    (ofSettings settings).palette.NamesTokens ↔
      ∀ token ∈ settings.labelColors, ∃ other ∈ settings.labelColors,
        lower (settings.phrasebook.wording (Palette.tag other)) = lower token :=
  Palette.namesTokens_ofTokens_iff

theorem isColor_iff {name : String} :
    (ofSettings settings).palette.isColor name = true ↔ name ∈ settings.labelColors :=
  Palette.isColor_iff

/-- A label is read as a color that has its small letters in its display name, or as the name that
was typed if no color has. -/
theorem readLabel_cases (settings : Settings) (value : String) :
    (∃ token ∈ settings.labelColors,
        lower (settings.phrasebook.wording (Palette.tag token)) = lower value
          ∧ (ofSettings settings).lexicon.readLabel value = .color token)
      ∨ (ofSettings settings).lexicon.readLabel value = .named value
        ∧ ∀ token ∈ settings.labelColors,
          lower (settings.phrasebook.wording (Palette.tag token)) ≠ lower value := by
  unfold Lexicon.readLabel
  split
  · rename_i token hcolor
    obtain ⟨hmem, hlower⟩ := Lexicon.get?_colorTable_eq_some hcolor
    exact .inl ⟨token, hmem, hlower, rfl⟩
  · rename_i hcolor
    exact .inr ⟨rfl, Lexicon.lower_ne_of_get?_colorTable hcolor⟩

/-- Reading and reporting tell labels from colors alike, whatever is typed, if and only if every
token is a display name but for capitals. -/
theorem readLabel_alike_iff :
    (∀ value name, ((ofSettings settings).lexicon.readLabel value).name? = some name →
        ((ofSettings settings).palette.isColor name = true ↔
          (ofSettings settings).lexicon.readLabel value = .color name)) ↔
      (ofSettings settings).palette.NamesTokens := by
  rw [namesTokens_iff]
  simp only [isColor_iff]
  constructor
  · intro halike token htoken
    rcases readLabel_cases settings token with ⟨other, hother, hlower, -⟩ | ⟨hread, -⟩
    · exact ⟨other, hother, hlower⟩
    · have hcolor := (halike token token (by rw [hread]; rfl)).1 htoken
      rw [hread] at hcolor
      simp at hcolor
  · intro hnames value name hname
    rcases readLabel_cases settings value with ⟨token, htoken, -, hread⟩ | ⟨hread, hnot⟩
    · rw [hread] at hname ⊢
      obtain rfl := Option.some.inj hname
      exact iff_of_true htoken rfl
    · rw [hread] at hname ⊢
      obtain rfl := Option.some.inj hname
      refine iff_of_false (fun hvalue => ?_) (by simp)
      obtain ⟨other, hother, hlower⟩ := hnames value hvalue
      exact hnot other hother hlower

theorem namesTokens_standard : (ofSettings .standard).palette.NamesTokens := by
  have hworded : ∀ token ∈ Palette.boardColors,
      Phrasebook.english.wording (Palette.tag token) = token := by
    simp only [Phrasebook.english, Phrasebook.wording_ofList]
    decide
  have hphrasebook : Settings.standard.phrasebook = .english := Phrasebook.overlay_empty .english
  refine namesTokens_iff.2 fun token htoken => ⟨token, htoken, ?_⟩
  rw [hphrasebook, hworded token htoken]

/-- In the search box of accepted settings the labels of a query are colors and names. A color, when
it is reported as not found, is added to the issues as a color that was not found. A name is added
as a name that was not found, provided that every token of the label colors is a display name but
for capitals, as in the standard settings. Without that some token is read as a name and reported as
a color. -/
theorem labels_reported {box : SearchBox} (hbox : ofSettings? settings = .ok box)
    (anchor : Calendar.Anchor) (text : String) :
    let labels := (box.read anchor text).criteria.values .label
    (∀ c ∈ labels, (∃ token, c = .color token) ∨ ∃ name, c = .named name)
      ∧ (∀ token, .color token ∈ labels → ∀ q : Query,
        q.reportNotFound box.palette .label token =
          .ok { q with
            issues := q.issues.add .label ⟨.labelColorNotFound, .text token, some true⟩ })
      ∧ (box.palette.NamesTokens → ∀ name, .named name ∈ labels → ∀ q : Query,
        q.reportNotFound box.palette .label name =
          .ok { q with issues := q.issues.add .label ⟨.labelNotFound, .text name, some false⟩ })
      ∧ (ofSettings .standard).palette.NamesTokens
      ∧ ((∀ value name, (box.lexicon.readLabel value).name? = some name →
          (box.palette.isColor name = true ↔ box.lexicon.readLabel value = .color name)) ↔
        box.palette.NamesTokens) := by
  intro labels
  obtain ⟨-, rfl⟩ := ofSettings?_eq_ok_iff.1 hbox
  have hadmits : ∀ c ∈ labels, Facet.Admits settings c .label :=
    fun c hc => (ofSettings_read_wellTyped settings anchor text).admits hc
  refine ⟨fun c hc => ?_, fun token htoken q => ?_, fun hnames name hname q => ?_,
    namesTokens_standard, readLabel_alike_iff⟩
  · rcases hadmits c hc with ⟨name, rfl, -⟩ | ⟨token, -, rfl⟩
    · exact .inr ⟨name, rfl⟩
    · exact .inl ⟨token, rfl⟩
  · rcases hadmits _ htoken with ⟨name, hname, -⟩ | ⟨other, hother, hcolor⟩
    · simp at hname
    · obtain rfl := Criterion.color.inj hcolor
      have hissue := Issue.notFound?_label (ofSettings settings).palette token
      rw [isColor_iff.2 hother] at hissue
      exact Query.reportNotFound_of_some hissue
  · rcases hadmits _ hname with ⟨other, hother, hnot⟩ | ⟨token, -, hcolor⟩
    · obtain rfl := Criterion.named.inj hother
      have hcolor : (ofSettings settings).palette.isColor name = false := by
        rw [← Bool.not_eq_true, isColor_iff]
        intro hmem
        obtain ⟨token, htoken, hlower⟩ := namesTokens_iff.1 hnames name hmem
        exact hnot token htoken hlower
      have hissue := Issue.notFound?_label (ofSettings settings).palette name
      rw [hcolor] at hissue
      exact Query.reportNotFound_of_some hissue
    · simp at hcolor

/-- Two colors, each with the other's token for its display name. -/
def exchanged : Settings where
  language := "en"
  wordings := .ofList [("color-red", "Blue"), ("color-blue", "RED")]
  labelColors := ["red", "blue"]

theorem wording_exchanged : exchanged.phrasebook.wording = fun tag =>
    (exchanged.wordings.get? tag).getD (Phrasebook.english.wording tag) :=
  funext exchanged.wording_phrasebook

theorem namesTokens_exchanged : (ofSettings exchanged).palette.NamesTokens := by
  rw [namesTokens_iff, wording_exchanged]
  decide

theorem readLabel_exchanged :
    (ofSettings exchanged).lexicon.readLabel "Red" = .color "blue"
      ∧ (ofSettings exchanged).lexicon.readLabel "green" = .named "green" := by
  have hred := readLabel_cases exchanged "Red"
  have hgreen := readLabel_cases exchanged "green"
  rw [wording_exchanged] at hred hgreen
  constructor
  · rcases hred with ⟨token, htoken, hlower, hread⟩ | ⟨-, hnot⟩
    · have hblue : ∀ token ∈ exchanged.labelColors,
          lower ((exchanged.wordings.get? (Palette.tag token)).getD
            (Phrasebook.english.wording (Palette.tag token))) = lower "Red" → token = "blue" := by
        decide
      rw [hread, hblue token htoken hlower]
    · exact absurd (hnot "blue" (by decide)) (by decide)
  · rcases hgreen with ⟨token, htoken, hlower, -⟩ | ⟨hread, -⟩
    · have hnone : ∀ token ∈ exchanged.labelColors,
          lower ((exchanged.wordings.get? (Palette.tag token)).getD
            (Phrasebook.english.wording (Palette.tag token))) ≠ lower "green" := by
        decide
      exact absurd hlower (hnone token htoken)
    · exact hread

theorem labels_reported_exchanged :
    let box := ofSettings exchanged
    let labels := (box.read someDay "#Red #green").criteria.values .label
    (ofSettings? exchanged = .ok box ∧ box.palette.NamesTokens
        ∧ .color "blue" ∈ labels ∧ .named "green" ∈ labels)
      ∧ ∀ q : Query,
        q.reportNotFound box.palette .label "blue" =
            .ok { q with
              issues := q.issues.add .label ⟨.labelColorNotFound, .text "blue", some true⟩ }
          ∧ q.reportNotFound box.palette .label "green" =
            .ok { q with
              issues := q.issues.add .label ⟨.labelNotFound, .text "green", some false⟩ } := by
  intro box labels
  have hvalid : exchanged.validated = .ok exchanged := by decide
  have hbox : ofSettings? exchanged = .ok box := ofSettings?_eq_ok_iff.2 ⟨hvalid, rfl⟩
  have hscan : Token.scan "#Red #green" =
      [.clause ⟨"#", "Red", false⟩, .clause ⟨"#", "green", false⟩] := by
    decide +kernel
  have hsigil : box.lexicon.facet? (lower "#") = some .label :=
    (Lexicon.facet?_sigil exchanged.phrasebook.wording _).1
  have hlabels : ∀ c, .clause c ∈ Token.scan "#Red #green" → c.keyword = "#" →
      box.lexicon.readLabel c.value ∈ labels := by
    intro c hc hkeyword
    exact Lexicon.readLabel_mem_values hc (hkeyword ▸ hsigil)
  rw [hscan] at hlabels
  have hcolor := hlabels ⟨"#", "Red", false⟩ (by simp) rfl
  have hname := hlabels ⟨"#", "green", false⟩ (by simp) rfl
  rw [readLabel_exchanged.1] at hcolor
  rw [readLabel_exchanged.2] at hname
  obtain ⟨-, hcolors, hnames, -, -⟩ := labels_reported hbox someDay "#Red #green"
  exact ⟨⟨hbox, namesTokens_exchanged, hcolor, hname⟩, fun q =>
    ⟨hcolors _ hcolor q, hnames namesTokens_exchanged _ hname q⟩⟩

end SearchBox

end BoardQuery

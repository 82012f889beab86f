import BoardQuery.Proofs.Accepted
import BoardQuery.Proofs.Accounted
import BoardQuery.Proofs.Counts

/-!
# Queries are well typed

A search text is read as criteria that their facets admit, and as issues that the groups they are
in can have (`ofSettings_read_wellTyped`). A single clause decides it: whatever its keyword and its
value, it comes to a criterion or an issue that fits (`read_fits`), and a query holds nothing but
what its clauses come to.
-/

namespace BoardQuery

open Text Calendar

namespace Calendar

/-! ## Dates and timestamps -/

def IsTimestamp (text : String) : Prop :=
  ∃ m : Moment, text = m.written

def IsPlainDate (text : String) : Prop :=
  ∃ d : Date, text = d.written

/-- Numbers in writing lack the `T` that tells a timestamp from a date. -/
theorem not_mem_writePadded (width n : Nat) : 'T' ∉ writePadded width n :=
  fun h => absurd (isDigit_of_mem_writePadded h) (by decide)

theorem Date.not_mem_chars (d : Date) : 'T' ∉ d.chars := by
  have hyear : 'T' ∉ writeYear d.year := by
    unfold writeYear
    split
    · exact not_mem_writePadded _ _
    · rw [List.mem_cons, not_or]
      refine ⟨?_, not_mem_writePadded _ _⟩
      split <;> decide
  unfold Date.chars
  simp [hyear, not_mem_writePadded]

theorem Timestamp.written_ne (t : Timestamp) (d : Date) : t.written ≠ d.written := by
  intro h
  have hchars : t.chars = d.chars := by
    simpa [Timestamp.written, Date.written] using congrArg String.toList h
  have hmem : 'T' ∈ t.chars := by simp [Timestamp.chars]
  rw [hchars] at hmem
  exact d.not_mem_chars hmem

theorem not_isPlainDate_written (m : Moment) : ¬IsPlainDate m.written :=
  fun ⟨d, h⟩ => Timestamp.written_ne _ d h

theorem not_isTimestamp_written (d : Date) : ¬IsTimestamp d.written :=
  fun ⟨_, h⟩ => Timestamp.written_ne _ d h.symm

end Calendar

/-! ## What fits a facet -/

/-- The criteria that a facet can have in the search box of some settings. -/
def Facet.Admits (settings : Settings) (c : Criterion) : Facet → Prop
  | board | swimlane | list | user | member | assignee | comment => ∃ name, c = .named name
  | label =>
    (∃ name, c = .named name ∧ ∀ token ∈ settings.labelColors,
      lower (settings.phrasebook.wording (Palette.tag token)) ≠ lower name)
    ∨ ∃ token ∈ settings.labelColors, c = .color token
  | status => ∃ status : Status, c = .named (Named.name status)
  | dueAt => ∃ date, c = .bound .before date
  | createdAt | modifiedAt => ∃ comparison date, c = .bound comparison date
      ∧ (comparison = .notBefore ↔ IsTimestamp date) ∧ (comparison = .before ↔ IsPlainDate date)
  | has => ∃ part present, c = .part part present
  | sort => ∃ field order, c = .order field order
  | limit => ∃ count, c = .count count ∧ 1 ≤ count.toNat ∧ count.toNat < UInt32.size
  | unknown => False

/-- The issues that a facet's group can have once a text is read. -/
def Facet.Reports (issue : Issue) : Facet → Prop
  | unknown => ∃ keyword, issue = ⟨.unknownKeyword, .text keyword, none⟩
  | dueAt => ∃ keyword value, issue = ⟨.numberExpected, .clause keyword value, none⟩
  | sort => ∃ value, issue = ⟨.sortInvalid, .text value, none⟩
  | status => ∃ value, issue = ⟨.statusInvalid, .text value, none⟩
  | has => ∃ value, issue = ⟨.hasInvalid, .text value, none⟩
  | limit => ∃ value, issue = ⟨.limitInvalid, .text value, none⟩
  | _ => False

/-- The facets whose groups can have issues once a text is read. -/
def Facet.reporting : List Facet :=
  [unknown, dueAt, sort, status, has, limit]

theorem Facet.mem_reporting {facet : Facet} {issue : Issue} (h : facet.Reports issue) :
    facet ∈ reporting := by
  cases facet <;> first | exact h.elim | decide

theorem Facet.ne_unknown {settings : Settings} {facet : Facet} {c : Criterion}
    (h : facet.Admits settings c) : facet ≠ unknown := by
  rintro rfl
  exact h

/-- All groups of a query have members, and these fit the facets of their groups. -/
structure Query.WellTyped (settings : Settings) (q : Query) : Prop where
  criteria : ∀ group ∈ q.criteria.groups.groups,
    group.1 ≠ .unknown ∧ group.2 ≠ [] ∧ ∀ c ∈ group.2, group.1.Admits settings c
  issues : ∀ group ∈ q.issues.groups,
    group.1 ∈ Facet.reporting ∧ group.2 ≠ [] ∧ ∀ issue ∈ group.2, group.1.Reports issue

/-- A clause is read as a criterion that its facet admits, or as an issue that its group can have. -/
inductive Reading.Fits (settings : Settings) : Reading → Prop
  | criterion {facet : Facet} {c : Criterion} :
    facet.Admits settings c → Fits settings (.criterion facet c)
  | issue {group : Facet} {i : Issue} : group.Reports i → Fits settings (.issue group i)

theorem Reading.fits_ofOption {settings : Settings} {facet group : Facet}
    {understood : Option Criterion} {kind : IssueKind} {offence : Offence}
    (hc : ∀ c, understood = some c → facet.Admits settings c)
    (hissue : group.Reports ⟨kind, offence, none⟩) :
    (ofOption facet understood group kind offence).Fits settings := by
  unfold ofOption
  split
  · exact .criterion (hc _ rfl)
  · exact .issue hissue

namespace Lexicon

/-! ## What a clause is read as -/

theorem get?_colorTable_eq_some {wording : String → String} {tokens : List String}
    {key token : String}
    (h : (colorTable (Palette.ofTokens wording tokens).names).get? key = some token) :
    token ∈ tokens ∧ lower (wording (Palette.tag token)) = key := by
  obtain ⟨⟨name, token'⟩, hname, heq⟩ := List.mem_map.1 (SortedMap.mem_of_get?_ofList h)
  obtain ⟨rfl, rfl⟩ := Prod.mk.inj heq
  have hmem := SortedMap.mem_of_get?_ofList (SortedMap.get?_eq_some_iff.2 hname)
  obtain ⟨token, htoken, heq⟩ := List.mem_map.1 hmem
  obtain ⟨rfl, rfl⟩ := Prod.mk.inj heq
  exact ⟨htoken, rfl⟩

theorem lower_ne_of_get?_colorTable {wording : String → String} {tokens : List String}
    {key : String} (h : (colorTable (Palette.ofTokens wording tokens).names).get? key = none) :
    ∀ token ∈ tokens, lower (wording (Palette.tag token)) ≠ key := by
  intro token htoken
  rcases hget : (Palette.ofTokens wording tokens).names.get? (wording (Palette.tag token))
    with _ | token'
  · have hnot := SortedMap.get?_ofList_eq_none_iff.1 hget _ (List.mem_map.2 ⟨token, htoken, rfl⟩)
    exact absurd rfl hnot
  · exact SortedMap.get?_ofList_eq_none_iff.1 h _
      (List.mem_map.2 ⟨_, SortedMap.get?_eq_some_iff.1 hget, rfl⟩)

theorem readLabel_fits (settings : Settings) (value : String) :
    Facet.Admits settings ((SearchBox.ofSettings settings).lexicon.readLabel value) .label := by
  unfold readLabel
  split
  · rename_i token hcolor
    exact .inr ⟨token, (get?_colorTable_eq_some hcolor).1, rfl⟩
  · rename_i hcolor
    exact .inl ⟨value, rfl, lower_ne_of_get?_colorTable hcolor⟩

theorem facet?_ne_unknown {wording : String → String} {colorNames : SortedMap String}
    {keyword : String} {facet : Facet}
    (h : (ofWording wording colorNames).facet? keyword = some facet) : facet ≠ .unknown := by
  rw [facet?_ofWording] at h
  have htags : ∀ tag ∈ facetTags, tag.2 ≠ .unknown := by decide
  split_ifs at h
  · obtain rfl := Option.some.inj h
    decide
  · obtain rfl := Option.some.inj h
    decide
  · obtain ⟨tag, htag, rfl⟩ := Option.map_eq_some_iff.1 h
    exact htags tag (mem_of_lastTag? wording htag)

/-- A date clause sets a bound: a timestamp that is some days away, or a date before which a
period ends. -/
theorem readDate?_eq_some {l : Lexicon} {anchor : Anchor} {facet : Facet} {value : String}
    {c : Criterion} (h : l.readDate? anchor facet value = some c) :
    (∃ m : Moment, c = .bound (if facet = .dueAt then .before else .notBefore) m.written)
      ∨ ∃ d : Date, c = .bound .before d.written := by
  unfold readDate? at h
  split at h
  · unfold Anchor.daysBound? at h
    split at h
    · rename_i hdue
      obtain ⟨m, -, rfl⟩ := Option.map_eq_some_iff.1 h
      exact .inl ⟨m, by rw [if_pos hdue]⟩
    · rename_i hdue
      obtain ⟨m, -, rfl⟩ := Option.map_eq_some_iff.1 h
      exact .inl ⟨m, by rw [if_neg hdue]⟩
  · split at h
    · obtain ⟨d, -, rfl⟩ := Option.map_eq_some_iff.1 h
      exact .inr ⟨d, rfl⟩
    · split at h
      · exact .inr ⟨anchor.today, (Option.some.inj h).symm⟩
      · simp at h

theorem admits_dueAt {settings : Settings} {l : Lexicon} {anchor : Anchor} {value : String}
    {c : Criterion} (h : l.readDate? anchor .dueAt value = some c) :
    Facet.Admits settings c .dueAt := by
  rcases readDate?_eq_some h with ⟨m, rfl⟩ | ⟨d, rfl⟩
  · exact ⟨m.written, rfl⟩
  · exact ⟨d.written, rfl⟩

/-- The bound of a date gone by is a timestamp or a date, as its comparison tells. -/
theorem bound_of_readDate? {l : Lexicon} {anchor : Anchor} {facet : Facet} {value : String}
    {c : Criterion} (hfacet : facet ≠ .dueAt) (h : l.readDate? anchor facet value = some c) :
    ∃ comparison date, c = .bound comparison date
      ∧ (comparison = .notBefore ↔ IsTimestamp date)
      ∧ (comparison = .before ↔ IsPlainDate date) := by
  rcases readDate?_eq_some h with ⟨m, rfl⟩ | ⟨d, rfl⟩
  · rw [if_neg hfacet]
    refine ⟨.notBefore, m.written, rfl, ?_, ?_⟩
    · exact iff_of_true rfl ⟨m, rfl⟩
    · exact iff_of_false (by decide) (not_isPlainDate_written m)
  · refine ⟨.before, d.written, rfl, ?_, ?_⟩
    · exact iff_of_false (by decide) (not_isTimestamp_written d)
    · exact iff_of_true rfl ⟨d, rfl⟩

theorem admits_limit {settings : Settings} {value : String} {c : Criterion}
    (h : readLimit? value = some c) : Facet.Admits settings c .limit := by
  obtain ⟨count, rfl, hlimit⟩ := readLimit?_eq_some_iff.1 h
  exact ⟨count, rfl, hlimit.pos, hlimit.fits⟩

theorem readValue_fits {settings : Settings} {l : Lexicon}
    (hlabel : ∀ value, Facet.Admits settings (l.readLabel value) .label) (anchor : Anchor)
    {facet : Facet} (hfacet : facet ≠ .unknown) (keyword : String) (clause : Clause) :
    (l.readValue anchor facet keyword clause).Fits settings := by
  cases facet with
  | label => exact .criterion (hlabel clause.value)
  | sort =>
    refine Reading.fits_ofOption (fun c hc => ?_) ⟨_, rfl⟩
    obtain ⟨field, -, rfl⟩ := Option.map_eq_some_iff.1 hc
    exact ⟨field, _, rfl⟩
  | status =>
    refine Reading.fits_ofOption (fun c hc => ?_) ⟨_, rfl⟩
    obtain ⟨status, -, rfl⟩ := Option.map_eq_some_iff.1 hc
    exact ⟨status, rfl⟩
  | has =>
    refine Reading.fits_ofOption (fun c hc => ?_) ⟨_, rfl⟩
    obtain ⟨part, -, rfl⟩ := Option.map_eq_some_iff.1 hc
    exact ⟨part, _, rfl⟩
  | limit => exact Reading.fits_ofOption (fun c hc => admits_limit hc) ⟨_, rfl⟩
  | dueAt => exact Reading.fits_ofOption (fun c hc => admits_dueAt hc) ⟨_, _, rfl⟩
  | createdAt =>
    exact Reading.fits_ofOption (fun c hc => bound_of_readDate? (by decide) hc) ⟨_, _, rfl⟩
  | modifiedAt =>
    exact Reading.fits_ofOption (fun c hc => bound_of_readDate? (by decide) hc) ⟨_, _, rfl⟩
  | unknown => exact absurd rfl hfacet
  | board | swimlane | list | user | member | assignee | comment =>
    exact .criterion ⟨clause.value, rfl⟩

theorem read_fits (settings : Settings) (anchor : Anchor) (clause : Clause) :
    ((SearchBox.ofSettings settings).lexicon.read anchor clause).Fits settings := by
  unfold read
  simp only []
  split
  · rename_i facet hfacet
    exact readValue_fits (readLabel_fits settings) anchor (facet?_ne_unknown hfacet) _ clause
  · exact .issue ⟨_, rfl⟩

variable {l : Lexicon} {anchor : Anchor} {tokens : List Token}

theorem fits_of_mem_readings {settings : Settings}
    (h : ∀ clause, (l.read anchor clause).Fits settings) {reading : Reading}
    (hreading : reading ∈ l.readings anchor tokens) : reading.Fits settings := by
  obtain ⟨clause, -, rfl⟩ := List.mem_map.1 hreading
  exact h clause

theorem admits_of_mem_criteriaOf {settings : Settings}
    (h : ∀ clause, (l.read anchor clause).Fits settings) {facet : Facet} {c : Criterion}
    (hmem : (facet, c) ∈ l.criteriaOf anchor tokens) : facet.Admits settings c := by
  obtain ⟨reading, hreading, hcriterion⟩ := List.mem_filterMap.1 hmem
  cases fits_of_mem_readings h hreading with
  | criterion hadmits =>
    obtain ⟨rfl, rfl⟩ := Prod.mk.inj (Option.some.inj hcriterion)
    exact hadmits
  | issue => simp [Reading.criterion?] at hcriterion

theorem reports_of_mem_issuesOf {settings : Settings}
    (h : ∀ clause, (l.read anchor clause).Fits settings) {group : Facet} {i : Issue}
    (hmem : (group, i) ∈ l.issuesOf anchor tokens) : group.Reports i := by
  obtain ⟨reading, hreading, hissue⟩ := List.mem_filterMap.1 hmem
  cases fits_of_mem_readings h hreading with
  | criterion => simp [Reading.issue?] at hissue
  | issue hreports =>
    obtain ⟨rfl, rfl⟩ := Prod.mk.inj (Option.some.inj hissue)
    exact hreports

/-- A query of clauses that fit is well typed. -/
theorem query_wellTyped {settings : Settings}
    (h : ∀ clause, (l.read anchor clause).Fits settings) (tokens : List Token) :
    (l.query anchor tokens).WellTyped settings := by
  rw [query_eq]
  constructor
  · rw [Grouped.groups_ofEntries]
    intro group hgroup
    obtain ⟨hne, hentries⟩ := Grouped.of_mem_gathered hgroup
    have hadmits : ∀ c ∈ group.2, group.1.Admits settings c :=
      fun c hc => admits_of_mem_criteriaOf h (hentries c hc)
    obtain ⟨c, hc⟩ := List.exists_mem_of_ne_nil _ hne
    exact ⟨Facet.ne_unknown (hadmits c hc), hne, hadmits⟩
  · rw [Grouped.groups_ofEntries]
    intro group hgroup
    obtain ⟨hne, hentries⟩ := Grouped.of_mem_gathered hgroup
    have hreports : ∀ i ∈ group.2, group.1.Reports i :=
      fun i hi => reports_of_mem_issuesOf h (hentries i hi)
    obtain ⟨i, hi⟩ := List.exists_mem_of_ne_nil _ hne
    exact ⟨Facet.mem_reporting (hreports i hi), hne, hreports⟩

end Lexicon

namespace SearchBox

/-! ## What a text is read as -/

theorem ofSettings_read_wellTyped (settings : Settings) (anchor : Anchor) (text : String) :
    ((ofSettings settings).read anchor text).WellTyped settings :=
  Lexicon.query_wellTyped (Lexicon.read_fits settings anchor) (Token.scan text)

/-- In the search box of accepted settings, and in the English one, all texts are read as well
typed queries. -/
theorem read_wellTyped {settings : Settings} {box : SearchBox}
    (hbox : ofSettings? settings = .ok box ∨ settings = .standard ∧ box = .english)
    (anchor : Anchor) (text : String) : (box.read anchor text).WellTyped settings := by
  rcases hbox with hbox | ⟨rfl, rfl⟩
  · obtain ⟨-, rfl⟩ := ofSettings?_eq_ok_iff.1 hbox
    exact ofSettings_read_wellTyped settings anchor text
  · rw [english_eq]
    exact ofSettings_read_wellTyped .standard anchor text

theorem read_wellTyped_french :
    (ofSettings? french = .ok (ofSettings french)
        ∨ french = .standard ∧ ofSettings french = .english)
      ∧ ((ofSettings french).read ⟨⟨2026, 10, 18, by decide, by decide⟩, .fixed 0⟩
        "échéance:3 limit:0").WellTyped french :=
  ⟨.inl ofSettings?_french, read_wellTyped (.inl ofSettings?_french) _ _⟩

end SearchBox

end BoardQuery

import BoardQuery.Proofs.DayCounts
import BoardQuery.Proofs.FreeText

/-!
# Tags without a wording

A tag that a phrasebook leaves out stands for itself, and the tables of the lexicon have it
(`get?_table_of_leavesOut`). The tag of a value can be typed: after a keyword and a colon it is read
as what it stands for (`read_of_standsFor`). The tag of a keyword cannot. It holds a hyphen, which is
no letter, so no text has a keyword with its small letters (`lower_keyword_ne`), and with a colon and
a value after it the tag is free text (`scan_keywordTag`).
-/

namespace BoardQuery

open Text Calendar

namespace Phrasebook

variable {α : Type} {p : Phrasebook} {tags : List (String × α)} {tag : String} {value : α}

/-- A phrasebook does not word a tag of a table, and words no other tag of the table by the small
letters of this one. -/
structure LeavesOut (p : Phrasebook) (tags : List (String × α)) (tag : String) (value : α) :
    Prop where
  mem : (tag, value) ∈ tags
  unworded : p.phrases.get? tag = none
  alone : ∀ other ∈ tags, other.1 ≠ tag → Lexicon.word (p.wording other.1) ≠ lower tag

theorem LeavesOut.wording_eq (h : p.LeavesOut tags tag value) : p.wording tag = tag := by
  rw [wording, h.unworded, Option.getD_none]

/-- What the tag of a value stands for in a clause about a facet whose values its table words, if a
phrasebook leaves it out. A period stands for nothing where its end is no supported date. -/
inductive StandsFor (p : Phrasebook) (anchor : Anchor) (tag : String) : Facet → Criterion → Prop
  | period {facet : Facet} {period : Period} {d : Date} :
    p.LeavesOut Lexicon.periodTags tag period → facet.isDate = true →
      anchor.today.rollover period = some d →
      StandsFor p anchor tag facet (.bound .before d.written)
  | status {status : Status} : p.LeavesOut Lexicon.statusTags tag status →
      StandsFor p anchor tag .status (.named (Named.name status))
  | sort {field : SortField} : p.LeavesOut Lexicon.sortFieldTags tag field →
      StandsFor p anchor tag .sort (.order field .ascending)
  | has {part : CardPart} : p.LeavesOut Lexicon.partTags tag part →
      StandsFor p anchor tag .has (.part part true)

end Phrasebook

namespace Lexicon

/-! ## Tables -/

/-- The tags of values. -/
def valueTags : List String :=
  periodTags.map (·.1) ++ statusTags.map (·.1) ++ sortFieldTags.map (·.1) ++ partTags.map (·.1)

section Tables

variable {α : Type} {p : Phrasebook} {tags : List (String × α)} {tag : String} {value : α}

/-- The tags of a table differ, and none of them needs quotes. -/
structure Plain (tags : List (String × α)) : Prop where
  nodup : (tags.map (·.1)).Nodup
  bare : ∀ tag ∈ tags, Token.Bare tag.1.toList

theorem plain_facetTags : Plain facetTags := ⟨by decide, by decide⟩

theorem plain_periodTags : Plain periodTags := ⟨by decide, by decide⟩

theorem plain_statusTags : Plain statusTags := ⟨by decide, by decide⟩

theorem plain_sortFieldTags : Plain sortFieldTags := ⟨by decide, by decide⟩

theorem plain_partTags : Plain partTags := ⟨by decide, by decide⟩

/-- A tag that is left out is found by its own small letters. -/
theorem get?_table_of_leavesOut (htags : Plain tags) (h : p.LeavesOut tags tag value) :
    (table p.wording tags).get? (lower tag) = some value := by
  have hbare : Token.Bare tag.toList := htags.bare _ h.mem
  have hword : word (p.wording tag) = lower tag := by
    rw [h.wording_eq, word_eq_lower hbare.blank]
  have hne : lower tag ≠ "" := by
    obtain ⟨c, cs, hcs, -⟩ := hbare.head
    rw [Ne, lower_eq_empty_iff]
    rintro rfl
    simp at hcs
  obtain ⟨before, after, hsplit⟩ := List.append_of_mem h.mem
  -- what comes after the tag in the table are other tags, and the phrasebook words none of them so
  have hafter : ∀ other ∈ after, other.1 ≠ tag := by
    have hnodup := htags.nodup
    rw [hsplit, List.map_append, List.map_cons] at hnodup
    intro other hother heq
    exact (List.nodup_cons.1 (List.nodup_append.1 hnodup).2.1).1
      (List.mem_map.2 ⟨other, hother, heq⟩)
  have hlast : lastTag? p.wording tags (lower tag) = some (tag, value) := by
    refine (lastTag?_eq_some_iff p.wording).2 ⟨⟨hne, hword⟩, before, after, hsplit, ?_⟩
    intro other hother
    refine h.alone other ?_ (hafter other hother)
    rw [hsplit]
    exact List.mem_append_right _ (List.mem_cons_of_mem _ hother)
  rw [get?_table, hlast, Option.map_some]

end Tables

/-! ## The tags of values -/

theorem bare_of_mem_valueTags {tag : String} (h : tag ∈ valueTags) : Token.Bare tag.toList := by
  simp only [valueTags, List.mem_append, List.mem_map] at h
  rcases h with ((⟨entry, hentry, rfl⟩ | ⟨entry, hentry, rfl⟩) | ⟨entry, hentry, rfl⟩) |
    ⟨entry, hentry, rfl⟩
  · exact plain_periodTags.bare entry hentry
  · exact plain_statusTags.bare entry hentry
  · exact plain_sortFieldTags.bare entry hentry
  · exact plain_partTags.bare entry hentry

theorem typed_of_mem_valueTags {tag : String} (h : tag ∈ valueTags) (keyword : String) :
    Clause.typed keyword tag = ⟨keyword, tag, false⟩ := by
  have hall : ∀ tag ∈ valueTags, (tag.toList.head? == some Clause.negationMark) = false := by
    decide
  rw [Clause.typed, hall tag h]

end Lexicon

namespace Phrasebook

variable {p : Phrasebook} {anchor : Anchor} {tag : String} {facet : Facet} {criterion : Criterion}

theorem StandsFor.mem_valueTags (h : p.StandsFor anchor tag facet criterion) :
    tag ∈ Lexicon.valueTags := by
  unfold Lexicon.valueTags
  rw [List.mem_append, List.mem_append, List.mem_append]
  cases h with
  | period hleft => exact .inl (.inl (.inl (List.mem_map.2 ⟨_, hleft.mem, rfl⟩)))
  | status hleft => exact .inl (.inl (.inr (List.mem_map.2 ⟨_, hleft.mem, rfl⟩)))
  | sort hleft => exact .inl (.inr (List.mem_map.2 ⟨_, hleft.mem, rfl⟩))
  | has hleft => exact .inr (List.mem_map.2 ⟨_, hleft.mem, rfl⟩)

end Phrasebook

namespace Lexicon

section Values

variable {l : Lexicon} {anchor : Anchor} {keyword value : String} {facet : Facet}

theorem read_period {period : Period} {d : Date}
    (hfacet : l.facet? (lower keyword) = some facet) (hdate : facet.isDate = true)
    (hcount : readCount? value.toList = none) (hperiod : l.period? value = some period)
    (hrollover : anchor.today.rollover period = some d) :
    l.read anchor (.typed keyword value) = .criterion facet (.bound .before d.written) := by
  have hread : l.readDate? anchor facet value = some (.bound .before d.written) := by
    simp only [readDate?, hcount, hperiod, hrollover, Option.map_some]
  have hclause := @read_of_facet?_date l anchor (.typed keyword value) facet hfacet hdate
  rw [hclause, Clause.typed, hread, Reading.ofOption]

theorem read_status {status : Status} (hfacet : l.facet? (lower keyword) = some .status)
    (hstatus : l.status? value = some status) :
    l.read anchor (.typed keyword value) = .criterion .status (.named (Named.name status)) := by
  simp only [read, Clause.typed, hfacet, readValue, hstatus, Option.map_some, Reading.ofOption]

theorem read_sort {field : SortField} (hfacet : l.facet? (lower keyword) = some .sort)
    (hfield : l.sortField? value = some field) :
    l.read anchor ⟨keyword, value, false⟩ = .criterion .sort (.order field .ascending) := by
  simp [read, hfacet, readValue, Clause.bareValue, hfield, Reading.ofOption]

theorem read_has {part : CardPart} (hfacet : l.facet? (lower keyword) = some .has)
    (hpart : l.part? value = some part) :
    l.read anchor ⟨keyword, value, false⟩ = .criterion .has (.part part true) := by
  simp [read, hfacet, readValue, Clause.bareValue, hpart, Reading.ofOption]

end Values

variable {p : Phrasebook} {anchor : Anchor} {colorNames : SortedMap String} {keyword tag : String}
  {facet : Facet} {criterion : Criterion}

/-- A value's tag that is left out is read as what it stands for, under every keyword of a facet
whose values its table words. -/
theorem read_of_standsFor {l : Lexicon} (hl : l = ofWording p.wording colorNames)
    (hfacet : l.facet? (lower keyword) = some facet) (h : p.StandsFor anchor tag facet criterion) :
    l.read anchor (.typed keyword tag) = .criterion facet criterion := by
  have htyped := typed_of_mem_valueTags h.mem_valueTags keyword
  cases h with
  | @period _ period d hleft hdate hrollover =>
    have hcounts : ∀ tag ∈ periodTags, readCount? tag.1.toList = none := by decide
    have hperiod : l.period? tag = some period := by
      simp only [hl, period?, ofWording]
      exact get?_table_of_leavesOut plain_periodTags hleft
    exact read_period hfacet hdate (hcounts (tag, period) hleft.mem) hperiod hrollover
  | @status status hleft =>
    have hstatus : l.status? tag = some status := by
      simp only [hl, status?, ofWording]
      exact get?_table_of_leavesOut plain_statusTags hleft
    exact read_status hfacet hstatus
  | @sort field hleft =>
    have hfield : l.sortField? tag = some field := by
      simp only [hl, sortField?, ofWording]
      exact get?_table_of_leavesOut plain_sortFieldTags hleft
    rw [htyped]
    exact read_sort hfacet hfield
  | @has part hleft =>
    have hpart : l.part? tag = some part := by
      simp only [hl, part?, ofWording]
      exact get?_table_of_leavesOut plain_partTags hleft
    rw [htyped]
    exact read_has hfacet hpart

/-! ## The tags of keywords -/

/-- The tag of a keyword is a word with a hyphen after it and more. -/
theorem keywordTag_eq (htag : (tag, facet) ∈ facetTags) :
    tag.toList = "operator".toList ++ '-' :: tag.toList.drop 9 := by
  have hall : ∀ entry ∈ facetTags,
      entry.1.toList = "operator".toList ++ '-' :: entry.1.toList.drop 9 := by decide
  exact hall (tag, facet) htag

theorem hyphen_mem_lower (htag : (tag, facet) ∈ facetTags) : '-' ∈ (lower tag).toList := by
  refine mem_lower_of_isSmall ⟨by decide, by decide⟩ ?_
  rw [keywordTag_eq htag]
  exact List.mem_append_right _ (List.mem_cons_self ..)

theorem facet?_of_leavesOut (h : p.LeavesOut facetTags tag facet) :
    (ofWording p.wording colorNames).facet? (lower tag) = some facet := by
  have hmem : '-' ∈ (lower tag).toList := hyphen_mem_lower h.mem
  have hsign : ∀ sign : String, '-' ∉ sign.toList → lower tag ≠ sign := by
    intro sign hnot heq
    rw [heq] at hmem
    exact hnot hmem
  have hlabel : lower tag ≠ "#" := hsign "#" (by decide)
  have huser : lower tag ≠ "@" := hsign "@" (by decide)
  rw [facet?_of_not_sigil p.wording colorNames hlabel huser]
  exact get?_table_of_leavesOut plain_facetTags h

/-- No keyword has the small letters of a keyword's tag. -/
theorem lower_keyword_ne (htag : (tag, facet) ∈ facetTags)
    (hk : Token.IsKeyword keyword.toList) : lower keyword ≠ lower tag := by
  intro h
  have hlower : '-' ∈ (lower keyword).toList := by
    rw [h]
    exact hyphen_mem_lower htag
  have hmem : '-' ∈ keyword.toList := mem_of_mem_lower (by decide) (by decide) hlower
  rcases Token.isKeyword_iff.1 hk with ⟨c, hc, hkeyword⟩ | hword
  · rw [hkeyword, List.mem_singleton] at hmem
    exact absurd (hmem ▸ hc) (by decide)
  · exact absurd ((isWord_iff.1 hword).2 '-' hmem) (by decide)

theorem heading?_keywordTag (htag : (tag, facet) ∈ facetTags) (rest : List Char) :
    Token.heading? (tag.toList ++ rest) = none := by
  rw [keywordTag_eq htag, List.append_assoc, List.cons_append,
    Token.heading?_append_cons (by decide) (by decide), if_neg (by decide)]

/-- Before a colon and a value, the tag of a keyword is free text. -/
theorem scan_keywordTag (htag : (tag, facet) ∈ facetTags) {value : String}
    (hvalue : ∀ c ∈ value.toList, isBlank c = false) :
    Token.scan (tag ++ ":" ++ value) = [.text (tag ++ ":" ++ value)] := by
  have htyped : (tag ++ ":" ++ value).toList = tag.toList ++ ':' :: value.toList := by
    simp
  have hbare : Token.Bare tag.toList := plain_facetTags.bare (tag, facet) htag
  obtain ⟨c, cs, hcs, hquote⟩ := hbare.head
  refine Token.scan_bareWord ⟨⟨c, cs ++ ':' :: value.toList, ?_, hquote⟩, fun d hd => ?_⟩ ?_
  · rw [htyped, hcs, List.cons_append]
  · rw [htyped, List.mem_append, List.mem_cons] at hd
    rcases hd with hd | rfl | hd
    · exact hbare.blank d hd
    · decide
    · exact hvalue d hd
  · rw [htyped]
    exact heading?_keywordTag htag _

end Lexicon

namespace SearchBox

/-- What a phrasebook leaves out stands for itself. The tag of a value can then be typed: after any
word and a colon it is one clause, which is read as what the tag stands for under the facet that the
word means. The tag of a keyword cannot, although the lexicon has it: no text has a keyword with its
small letters, and with a colon and a word after it the tag is free text. -/
theorem unworded_tags (p : Phrasebook) (palette : Palette) :
    let box := SearchBox.of p palette
    (∀ keyword tag, isWord keyword.toList = true → tag ∈ Lexicon.valueTags →
        Token.scan (keyword ++ ":" ++ tag) = [.clause (.typed keyword tag)])
      ∧ (∀ anchor keyword facet tag criterion,
        box.lexicon.facet? (lower keyword) = some facet → p.StandsFor anchor tag facet criterion →
          box.lexicon.read anchor (.typed keyword tag) = .criterion facet criterion)
      ∧ ∀ tag facet, p.LeavesOut Lexicon.facetTags tag facet →
        box.lexicon.facet? (lower tag) = some facet
          ∧ (∀ text clause, .clause clause ∈ Token.scan text → lower clause.keyword ≠ lower tag)
          ∧ ∀ anchor value, (∀ c ∈ value.toList, isLetter c = true) →
            box.read anchor (tag ++ ":" ++ value) = Query.empty.addText (tag ++ ":" ++ value) := by
  intro box
  refine ⟨fun keyword tag hkeyword htag => ?_, fun anchor keyword facet tag criterion hfacet h => ?_,
    fun tag facet h => ⟨?_, fun text clause hclause => ?_, fun anchor value hvalue => ?_⟩⟩
  · exact Token.scan_word hkeyword (Lexicon.bare_of_mem_valueTags htag)
  · exact Lexicon.read_of_standsFor rfl hfacet h
  · exact Lexicon.facet?_of_leavesOut h
  · exact Lexicon.lower_keyword_ne h.mem (Token.isKeyword_of_mem_scan hclause)
  · have hscan := Lexicon.scan_keywordTag h.mem fun c hc => isBlank_of_isLetter (hvalue c hc)
    rw [read, hscan]
    rfl

/-- German wordings of two keywords, and of nothing else. -/
def sparse : Phrasebook :=
  .ofList [("operator-due", "Fällig"), ("operator-status", "Status")]

theorem leavesOut_sparse_board : sparse.LeavesOut Lexicon.facetTags "operator-board" .board where
  mem := by decide
  unworded := by decide
  alone := by
    simp only [sparse, Phrasebook.wording_ofList]
    decide

theorem leavesOut_sparse_week : sparse.LeavesOut Lexicon.periodTags "predicate-week" .week where
  mem := by decide
  unworded := by decide
  alone := by
    simp only [sparse, Phrasebook.wording_ofList]
    decide

/-- The tag of a week is typed after a keyword in capitals, and the tag of the board is not. -/
theorem unworded_tags_sparse :
    let box := SearchBox.of sparse (.ofTokens sparse.wording [])
    let anchor : Anchor := ⟨⟨2026, 10, 18, by decide, by decide⟩, .fixed 0⟩
    Token.scan ("FÄLLIG" ++ ":" ++ "predicate-week") = [.clause (.typed "FÄLLIG" "predicate-week")]
      ∧ box.lexicon.facet? (lower "FÄLLIG") = some .dueAt
      ∧ sparse.StandsFor anchor "predicate-week" .dueAt (.bound .before "2026-10-19")
      ∧ box.lexicon.read anchor (.typed "FÄLLIG" "predicate-week") =
        .criterion .dueAt (.bound .before "2026-10-19")
      ∧ sparse.LeavesOut Lexicon.facetTags "operator-board" .board
      ∧ box.lexicon.facet? (lower "operator-board") = some .board
      ∧ box.read anchor ("operator-board" ++ ":" ++ "x") =
        Query.empty.addText ("operator-board" ++ ":" ++ "x") := by
  intro box anchor
  obtain ⟨hscan, hread, hkeyword⟩ := unworded_tags sparse (.ofTokens sparse.wording [])
  have hdue : box.lexicon.facet? (lower "FÄLLIG") = some .dueAt := by
    have hlower : lower "FÄLLIG" = "fällig" := by decide
    rw [hlower]
    simp only [box, SearchBox.of, Lexicon.facet?_ofWording, Lexicon.lastTag?, sparse,
      Phrasebook.wording_ofList]
    decide
  have hstands : sparse.StandsFor anchor "predicate-week" .dueAt (.bound .before "2026-10-19") := by
    have hmonday : Date.written ⟨2026, 10, 19, by decide, by decide⟩ = "2026-10-19" := by decide
    rw [← hmonday]
    exact .period leavesOut_sparse_week rfl (by decide)
  have hvalue : isWord "x".toList = true := by decide
  obtain ⟨hboard, -, htext⟩ := hkeyword "operator-board" .board leavesOut_sparse_board
  exact ⟨hscan "FÄLLIG" "predicate-week" (by decide) (by decide), hdue, hstands,
    hread anchor "FÄLLIG" .dueAt "predicate-week" _ hdue hstands, leavesOut_sparse_board, hboard,
    htext anchor "x" (isWord_iff.1 hvalue).2⟩

/-- The tag of a keyword that is left out cannot be typed in its place, although the lexicon has
it. -/
theorem hyphen_hides_keyword :
    let box := SearchBox.of sparse (.ofTokens sparse.wording Palette.boardColors)
    sparse.LeavesOut Lexicon.facetTags "operator-board" .board
      ∧ box.lexicon.facet? (lower "operator-board") = some .board
      ∧ isWord "x".toList = true
      ∧ Token.scan ("operator-board" ++ ":" ++ "x") ≠ [.clause (.typed "operator-board" "x")] := by
  intro box
  have hvalue : isWord "x".toList = true := by decide
  refine ⟨leavesOut_sparse_board, Lexicon.facet?_of_leavesOut leavesOut_sparse_board, hvalue, ?_⟩
  rw [Lexicon.scan_keywordTag leavesOut_sparse_board.mem fun c hc =>
    isBlank_of_isLetter ((isWord_iff.1 hvalue).2 c hc)]
  simp

end SearchBox

end BoardQuery

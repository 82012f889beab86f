import BoardQuery.Proofs.Accounted
import BoardQuery.Proofs.Filling
import BoardQuery.Proofs.Tables

/-!
# Messages of a search

A message about a text has it in the place of each placeholder. So has a message about a clause
with the keyword and the value, provided that they are settled in the wording (`messages_filled`).
In English the keyword always is; a value that holds `%s` is not, and is put in there once more
(`fill_numberExpected`).
-/

namespace BoardQuery

open Text

/-! ## The English message about a refused date -/

/-- Whether no placeholder of a message about a clause can begin in a text. -/
def IsPlain (cs : List Char) : Prop :=
  '_' ∉ cs ∧ '%' ∉ cs

instance (cs : List Char) : Decidable (IsPlain cs) :=
  inferInstanceAs (Decidable (_ ∧ _))

theorem substituteChars_plain {p cs : List Char} (hp : p ∈ Offence.clausePlaceholders)
    (h : IsPlain cs) (text : List Char) : substituteChars p text cs = cs := by
  have hmarks : ∀ p ∈ Offence.clausePlaceholders, '_' ∈ p ∨ '%' ∈ p := by decide
  refine substituteChars_eq_self fun hoccurs => ?_
  rcases hmarks p hp with hmark | hmark
  · exact h.1 (hoccurs.subset hmark)
  · exact h.2 (hoccurs.subset hmark)

/-- The message about a keyword and the value that it refused, in characters. -/
def refusal (keyword value : List Char) : List Char :=
  "operator".toList ++ ' ' ::
    (keyword ++ ' ' :: ("expected a number, got ".toList ++ '\'' :: (value ++ ['\''])))

/-- The blanks and quotes keep the keyword, the value and the rest of the message apart. -/
theorem substituteChars_refusal {p : List Char} (hp : p ∈ Offence.clausePlaceholders)
    (text keyword value : List Char) :
    substituteChars p text (refusal keyword value) =
      refusal (substituteChars p text keyword) (substituteChars p text value) := by
  have hmarks : ∀ p ∈ Offence.clausePlaceholders, ' ' ∉ p ∧ '\'' ∉ p := by
    decide
  obtain ⟨hblank, hquote⟩ := hmarks p hp
  have hne := Offence.isCode_clausePlaceholders.ne_nil p hp
  have hfirst : IsPlain "operator".toList := by decide
  have hsecond : IsPlain "expected a number, got ".toList := by decide
  unfold refusal
  rw [substituteChars_append_cons hblank hne, substituteChars_append_cons hblank hne,
    substituteChars_append_cons hquote hne, substituteChars_append_cons hquote hne,
    substituteChars_plain hp hfirst, substituteChars_plain hp hsecond, substituteChars_nil]

theorem wording_numberExpected :
    Phrasebook.english.wording "operator-number-expected" =
      "operator __operator__ expected a number, got '__value__'" :=
  (Phrasebook.wording_ofList _ _).trans (by decide)

/-- The value is put into the English message, and then into itself. -/
theorem Offence.fill_numberExpected {keyword : String} (hkeyword : IsPlain keyword.toList)
    (value : String) :
    (Offence.clause keyword value).fill (Phrasebook.english.wording "operator-number-expected") =
      "operator " ++ keyword ++ " expected a number, got '" ++ substitute "%s" value value
        ++ "'" := by
  have htemplate : "operator __operator__ expected a number, got '__value__'".toList =
      refusal "__operator__".toList "__value__".toList := by
    decide
  have hvalue : ¬"__operator__".toList <:+: "__value__".toList := by decide
  rw [← String.toList_inj, Offence.toList_fill_clause, wording_numberExpected, htemplate,
    substituteChars_refusal (by decide), substituteChars_refusal (by decide),
    substituteChars_refusal (by decide), substituteChars_self (by decide),
    substituteChars_eq_self hvalue, substituteChars_plain (by decide) hkeyword,
    substituteChars_self (by decide), substituteChars_plain (by decide) hkeyword]
  unfold refusal
  simp [toList_substitute]

/-! ## Where issues come from -/

theorem Reading.ofOption_eq_issue {facet group group' : Facet} {understood : Option Criterion}
    {kind : IssueKind} {offence : Offence} {issue : Issue}
    (h : ofOption facet understood group kind offence = .issue group' issue) :
    group' = group ∧ issue = ⟨kind, offence, none⟩ := by
  unfold ofOption at h
  split at h
  · cases h
  · cases h
    exact ⟨rfl, rfl⟩

namespace Lexicon

variable (l : Lexicon) (anchor : Calendar.Anchor)

/-- Issues among the due dates are about the keyword of a date and the value that it refused. -/
theorem read_eq_issue_dueAt {c : Clause} {issue : Issue}
    (h : l.read anchor c = .issue .dueAt issue) :
    (∃ facet, l.facet? (lower c.keyword) = some facet)
      ∧ issue = ⟨.numberExpected, .clause (lower c.keyword) c.value, none⟩ := by
  unfold read at h
  rcases hfacet : l.facet? (lower c.keyword) with _ | facet
  · simp [hfacet] at h
  · refine ⟨⟨facet, rfl⟩, ?_⟩
    simp only [hfacet] at h
    cases facet with
    | dueAt | createdAt | modifiedAt => exact (Reading.ofOption_eq_issue h).2
    | sort | status | has | limit => exact absurd (Reading.ofOption_eq_issue h).1 (by decide)
    | _ => exact Reading.noConfusion h

theorem mem_issuesOf {tokens : List Token} {c : Clause} {group : Facet} {issue : Issue}
    (hc : .clause c ∈ tokens) (hissue : l.read anchor c = .issue group issue) :
    (group, issue) ∈ l.issuesOf anchor tokens := by
  refine List.mem_filterMap.2 ⟨.issue group issue, ?_, rfl⟩
  exact List.mem_map.2 ⟨c, List.mem_filterMap.2 ⟨.clause c, hc, rfl⟩, hissue⟩

/-- What holds of the sigils and of every word of a keyword holds of every keyword. -/
theorem forall_keyword {wording : String → String} {P : String → Prop} (hlabel : P "#")
    (huser : P "@") (hword : ∀ tag ∈ facetTags, P (word (wording tag.1)))
    {colorNames : SortedMap String} {keyword : String} {facet : Facet}
    (h : (ofWording wording colorNames).facet? keyword = some facet) : P keyword := by
  rw [facet?_ofWording] at h
  split at h
  · rename_i hkeyword
    exact hkeyword ▸ hlabel
  · split at h
    · rename_i hkeyword
      exact hkeyword ▸ huser
    · obtain ⟨tag, htag, -⟩ := Option.map_eq_some_iff.1 h
      rw [← ((lastTag?_eq_some_iff wording).1 htag).1.2]
      exact hword tag (mem_of_lastTag? wording htag)

end Lexicon

namespace SearchBox

/-- The English lexicon by the list of phrases. -/
theorem lexicon_english :
    english.lexicon = .ofWording
      (fun tag => ((Phrasebook.englishKeywords ++ Phrasebook.englishValues
        ++ Phrasebook.englishColors ++ Phrasebook.englishMessages).reverse.lookup tag).getD tag)
      english.palette.names :=
  congrArg (Lexicon.ofWording · english.palette.names)
    (funext fun _ => Phrasebook.wording_ofList _ _)

theorem isPlain_keyword {keyword : String} {facet : Facet}
    (h : english.lexicon.facet? keyword = some facet) : IsPlain keyword.toList := by
  rw [lexicon_english] at h
  exact Lexicon.forall_keyword (P := fun keyword => IsPlain keyword.toList) (by decide)
    (by decide) (by decide) h

/-- A date that is refused in an English search is among its issues, and has its message there. -/
theorem message_of_refused {anchor : Calendar.Anchor} {text : String} {c : Clause} {issue : Issue}
    (hc : .clause c ∈ Token.scan text)
    (hread : english.lexicon.read anchor c = .issue .dueAt issue) :
    issue ∈ (english.read anchor text).issues.flat
      ∧ ∀ i : Nat, (english.read anchor text).issues.flat[i]? = some issue →
        (english.messages (english.read anchor text))[i]? =
          some ("operator " ++ lower c.keyword ++ " expected a number, got '"
            ++ substitute "%s" c.value c.value ++ "'") := by
  refine ⟨?_, fun i hi => ?_⟩
  · have hissues : (english.read anchor text).issues =
        .ofEntries (english.lexicon.issuesOf anchor (Token.scan text)) :=
      congrArg Query.issues (english.lexicon.query_eq anchor (Token.scan text))
    rw [hissues, (Grouped.flat_ofEntries_perm _).mem_iff]
    exact List.mem_map_of_mem (english.lexicon.mem_issuesOf anchor hc hread)
  · obtain ⟨⟨facet, hfacet⟩, rfl⟩ := english.lexicon.read_eq_issue_dueAt anchor hread
    rw [messages, Phrasebook.messages, List.getElem?_map, hi, Option.map_some,
      ← Offence.fill_numberExpected (isPlain_keyword hfacet)]
    rfl

/-- The English message has the value as it was typed only if the value is `%s` or does not hold
it. -/
theorem refusal_eq_iff (keyword value : String) :
    "operator " ++ keyword ++ " expected a number, got '" ++ substitute "%s" value value ++ "'" =
        "operator " ++ keyword ++ " expected a number, got '" ++ value ++ "'" ↔
      value = "%s" ∨ ¬"%s".toList <:+: value.toList := by
  rw [String.append_left_inj, String.append_right_inj, ← String.toList_inj, toList_substitute,
    ← String.toList_inj]
  exact substituteChars_self_iff (by decide)

/-- A text is put once into a message about it, and so are a keyword and a value if they are settled
there. In English a refused date is reported with its keyword and its value, in which each `%s` is
replaced by the value again: the value is as it was typed only if it is `%s` or does not hold it. -/
theorem messages_filled (p : Phrasebook) (tag : String) (anchor : Calendar.Anchor)
    (text : String) :
    (∀ typed, p.message tag (.text typed) = (Offence.text typed).fillAtOnce (p.wording tag))
      ∧ (∀ keyword value, Separate Offence.clausePlaceholders (p.wording tag).toList →
        Offence.Settled (p.wording tag) keyword value →
          p.message tag (.clause keyword value) =
            (Offence.clause keyword value).fillAtOnce (p.wording tag))
      ∧ ∀ c issue, .clause c ∈ Token.scan text →
        english.lexicon.read anchor c = .issue .dueAt issue →
          issue ∈ (english.read anchor text).issues.flat
            ∧ ∀ i : Nat, (english.read anchor text).issues.flat[i]? = some issue →
              (english.messages (english.read anchor text))[i]? =
                  some ("operator " ++ lower c.keyword ++ " expected a number, got '"
                    ++ substitute "%s" c.value c.value ++ "'")
                ∧ ((english.messages (english.read anchor text))[i]? =
                    some ("operator " ++ lower c.keyword ++ " expected a number, got '"
                      ++ c.value ++ "'") ↔
                  c.value = "%s" ∨ ¬"%s".toList <:+: c.value.toList) := by
  refine ⟨fun typed => Offence.fill_text _ typed,
    fun keyword value hseparate hsettled => Offence.fill_clause hseparate hsettled,
    fun c issue hc hread => ?_⟩
  obtain ⟨hissue, hmessage⟩ := message_of_refused hc hread
  refine ⟨hissue, fun i hi => ⟨hmessage i hi, ?_⟩⟩
  rw [hmessage i hi, Option.some_inj]
  exact refusal_eq_iff (lower c.keyword) c.value

/-- A day in universal time. -/
def someDay : Calendar.Anchor :=
  ⟨⟨2026, 10, 18, by decide, by decide⟩, .fixed 0⟩

theorem read_due_word : ∀ value ∈ ["soon", "a%s"],
    english.lexicon.read someDay ⟨"due", value, false⟩ =
      .issue .dueAt ⟨.numberExpected, .clause "due" value, none⟩ := by
  rw [lexicon_english]
  decide

/-- A word without a placeholder is put into the message as it was typed. -/
theorem messages_filled_word :
    english.phrasebook.message "operator-number-expected" (.clause "due" "soon") =
        (Offence.clause "due" "soon").fillAtOnce
          (english.phrasebook.wording "operator-number-expected")
      ∧ "operator due expected a number, got 'soon'"
        ∈ english.messages (english.read someDay "due:soon") := by
  obtain ⟨-, hpair, hrefused⟩ :=
    messages_filled english.phrasebook "operator-number-expected" someDay "due:soon"
  have hwording : english.phrasebook.wording "operator-number-expected" = _ :=
    wording_numberExpected
  refine ⟨hpair _ _ ?_ ?_, ?_⟩
  · rw [hwording]
    decide +kernel
  · rw [hwording]
    decide +kernel
  · obtain ⟨hissue, hmessage⟩ := hrefused ⟨"due", "soon", false⟩ _ (by decide +kernel)
      (read_due_word "soon" (by decide))
    obtain ⟨i, hi⟩ := List.getElem?_of_mem hissue
    have htyped := (hmessage i hi).2.2 (.inr (by decide +kernel))
    exact List.mem_of_getElem? (htyped.trans (congrArg some (by decide +kernel)))

/-- A value that holds `%s` is put into the message once more, in the place of that `%s`. -/
theorem value_filled_again :
    (¬∀ (p : Phrasebook) (tag keyword value : String),
        Separate Offence.clausePlaceholders (p.wording tag).toList →
          p.message tag (.clause keyword value) =
            (Offence.clause keyword value).fillAtOnce (p.wording tag))
      ∧ ¬∀ (anchor : Calendar.Anchor) (text : String) (c : Clause) (issue : Issue),
        .clause c ∈ Token.scan text → english.lexicon.read anchor c = .issue .dueAt issue →
          ∀ i : Nat, (english.read anchor text).issues.flat[i]? = some issue →
            (english.messages (english.read anchor text))[i]? =
              some ("operator " ++ lower c.keyword ++ " expected a number, got '" ++ c.value
                ++ "'") := by
  constructor
  · intro h
    have hmessage := h .english "operator-number-expected" "due" "a%s"
    rw [Phrasebook.message, wording_numberExpected] at hmessage
    exact absurd (hmessage (by decide +kernel)) (by decide +kernel)
  · intro h
    have hread := read_due_word "a%s" (by decide)
    have hclause : Token.clause ⟨"due", "a%s", false⟩ ∈ Token.scan "due:a%s" := by decide +kernel
    obtain ⟨hissue, hmessage⟩ := message_of_refused hclause hread
    obtain ⟨i, hi⟩ := List.getElem?_of_mem hissue
    have hsame := (hmessage i hi).symm.trans (h someDay "due:a%s" _ _ hclause hread i hi)
    exact absurd hsame (by decide +kernel)

end SearchBox

end BoardQuery

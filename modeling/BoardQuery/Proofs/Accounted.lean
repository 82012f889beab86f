import BoardQuery.Proofs.Gathered
import BoardQuery.SearchBox

/-!
# Every token is accounted for

A query is told by three lists that are read off its tokens one by one: the criteria and the issues
that clauses are read as, and the free texts (`query_eq`). So no token is dropped or merged with
another, and one that is refused leaves what comes of the others as it is (`read_accounts`).
-/

namespace BoardQuery

namespace Reading

/-- The criterion that is read, with its facet. -/
def criterion? : Reading → Option (Facet × Criterion)
  | .criterion facet c => some (facet, c)
  | .issue .. => none

/-- The issue that is read, with the facet of its group. -/
def issue? : Reading → Option (Facet × Issue)
  | .criterion .. => none
  | .issue group i => some (group, i)

theorem length_filterMap_add (readings : List Reading) :
    (readings.filterMap criterion?).length + (readings.filterMap issue?).length
      = readings.length := by
  induction readings with
  | nil => rfl
  | cons reading readings ih =>
    rcases reading with ⟨facet, c⟩ | ⟨group, issue⟩
    · simp only [List.filterMap_cons, criterion?, issue?, List.length_cons]
      omega
    · simp only [List.filterMap_cons, criterion?, issue?, List.length_cons]
      omega

end Reading

namespace Token

def asClause? : Token → Option Clause
  | .clause c => some c
  | .text _ => none

def asText? : Token → Option String
  | .clause _ => none
  | .text s => some s

/-- The free texts among some tokens that are not empty. -/
def fragments (tokens : List Token) : List String :=
  (tokens.filterMap asText?).filter (!·.isEmpty)

theorem length_filterMap_add (tokens : List Token) :
    (tokens.filterMap asClause?).length + (tokens.filterMap asText?).length = tokens.length := by
  induction tokens with
  | nil => rfl
  | cons token tokens ih =>
    rcases token with c | s
    · simp only [List.filterMap_cons, asClause?, asText?, List.length_cons]
      omega
    · simp only [List.filterMap_cons, asClause?, asText?, List.length_cons]
      omega

theorem fragments_append (tokens tokens' : List Token) :
    fragments (tokens ++ tokens') = fragments tokens ++ fragments tokens' := by
  rw [fragments, List.filterMap_append, List.filter_append]
  rfl

theorem ne_empty_of_mem_fragments {tokens : List Token} {s : String} (h : s ∈ fragments tokens) :
    s ≠ "" := by
  have hs := (List.mem_filter.1 h).2
  rintro rfl
  simp at hs

end Token

theorem intercalate_cons_ne_empty {sep s : String} (hs : s ≠ "") (ss : List String) :
    sep.intercalate (s :: ss) ≠ "" := by
  rcases ss with _ | ⟨s', ss⟩
  · rw [String.intercalate_singleton]
    exact hs
  · rw [String.intercalate_cons_cons]
    intro hnil
    simp only [String.append_eq_empty_iff] at hnil
    exact hs hnil.1.1

/-- Free text that is added to the texts before it, of which the first is not empty. -/
theorem addText_intercalate {groups : Grouped Criterion} {ss : List String}
    (h : ∀ s ∈ ss.head?, s ≠ "") (s : String) :
    (Criteria.mk groups (" ".intercalate ss)).addText s =
      ⟨groups, " ".intercalate (ss ++ [s])⟩ := by
  rw [Criteria.addText]
  rcases ss with _ | ⟨first, ss⟩
  · rfl
  · have hne := @intercalate_cons_ne_empty " " first (h first rfl) ss
    rw [if_neg (by simpa using hne), String.intercalate_append_of_ne_nil (by simp) (by simp),
      String.intercalate_singleton]

namespace Lexicon

variable (l : Lexicon) (anchor : Calendar.Anchor)

def readings (tokens : List Token) : List Reading :=
  (tokens.filterMap Token.asClause?).map (l.read anchor)

/-- The criteria that the clauses among some tokens are read as. -/
def criteriaOf (tokens : List Token) : List (Facet × Criterion) :=
  (l.readings anchor tokens).filterMap Reading.criterion?

/-- The issues that the clauses among some tokens are read as. -/
def issuesOf (tokens : List Token) : List (Facet × Issue) :=
  (l.readings anchor tokens).filterMap Reading.issue?

theorem criteriaOf_append (tokens tokens' : List Token) :
    l.criteriaOf anchor (tokens ++ tokens') =
      l.criteriaOf anchor tokens ++ l.criteriaOf anchor tokens' := by
  simp only [criteriaOf, readings, List.filterMap_append, List.map_append]

theorem issuesOf_append (tokens tokens' : List Token) :
    l.issuesOf anchor (tokens ++ tokens') =
      l.issuesOf anchor tokens ++ l.issuesOf anchor tokens' := by
  simp only [issuesOf, readings, List.filterMap_append, List.map_append]

theorem query_concat (tokens : List Token) (token : Token) :
    l.query anchor (tokens ++ [token]) = l.addToken anchor (l.query anchor tokens) token := by
  rw [query, List.foldl_append]
  rfl

/-- A query is made of the criteria, the issues and the free texts of its tokens. -/
theorem query_eq (tokens : List Token) :
    l.query anchor tokens =
      ⟨⟨.ofEntries (l.criteriaOf anchor tokens), " ".intercalate (Token.fragments tokens)⟩,
        .ofEntries (l.issuesOf anchor tokens)⟩ := by
  induction tokens using List.reverseRecOn with
  | nil => rfl
  | append_singleton tokens token ih =>
    rw [query_concat, ih, criteriaOf_append, issuesOf_append, Token.fragments_append]
    rcases token with c | s
    · have hfragments : Token.fragments [.clause c] = [] := rfl
      simp only [addToken, criteriaOf, issuesOf, readings, List.filterMap_cons, Token.asClause?,
        List.filterMap_nil, List.map_cons, List.map_nil, hfragments, List.append_nil]
      rcases l.read anchor c with ⟨facet, criterion⟩ | ⟨group, issue⟩
      · simp only [Reading.criterion?, Reading.issue?, List.append_nil, Grouped.ofEntries_concat]
        rfl
      · simp only [Reading.criterion?, Reading.issue?, List.append_nil, Grouped.ofEntries_concat]
        rfl
    · have hcriteria : l.criteriaOf anchor [.text s] = [] := rfl
      have hissues : l.issuesOf anchor [.text s] = [] := rfl
      rw [hcriteria, hissues, List.append_nil, List.append_nil, addToken, Query.addText]
      by_cases hs : s.isEmpty = true
      · have hfragments : Token.fragments [.text s] = [] := by
          simp [Token.fragments, Token.asText?, hs]
        rw [if_pos hs, hfragments, List.append_nil]
      · have hfragments : Token.fragments [.text s] = [s] := by
          simp [Token.fragments, Token.asText?, hs]
        rw [if_neg hs, hfragments, addText_intercalate fun _ hfirst =>
          Token.ne_empty_of_mem_fragments (List.mem_of_mem_head? hfirst)]

theorem criteriaOf_of_issue {c : Clause} {group : Facet} {issue : Issue}
    (h : l.read anchor c = .issue group issue) : l.criteriaOf anchor [.clause c] = [] := by
  simp [criteriaOf, readings, Token.asClause?, h, Reading.criterion?]

theorem issuesOf_of_issue {c : Clause} {group : Facet} {issue : Issue}
    (h : l.read anchor c = .issue group issue) :
    l.issuesOf anchor [.clause c] = [(group, issue)] := by
  simp [issuesOf, readings, Token.asClause?, h, Reading.issue?]

/-- Without a clause that is refused, the criteria and the text are the same, and the issues are
the other ones. -/
theorem query_without_refused {c : Clause} {group : Facet} {issue : Issue}
    (h : l.read anchor c = .issue group issue) (before after : List Token) :
    (l.query anchor (before ++ .clause c :: after)).criteria =
        (l.query anchor (before ++ after)).criteria
      ∧ ∀ facet,
        (l.query anchor (before ++ .clause c :: after)).issues.values facet =
            Grouped.valuesOf (l.issuesOf anchor before) facet
              ++ (if facet = group then [issue] else [])
              ++ Grouped.valuesOf (l.issuesOf anchor after) facet
          ∧ (l.query anchor (before ++ after)).issues.values facet =
            Grouped.valuesOf (l.issuesOf anchor before) facet
              ++ Grouped.valuesOf (l.issuesOf anchor after) facet := by
  have hcons : before ++ .clause c :: after = before ++ ([.clause c] ++ after) := rfl
  have hfragments : Token.fragments [.clause c] = [] := rfl
  rw [hcons, query_eq, query_eq]
  simp only [criteriaOf_append, issuesOf_append, Token.fragments_append, hfragments,
    criteriaOf_of_issue l anchor h, issuesOf_of_issue l anchor h, List.nil_append, true_and]
  intro facet
  simp only [Grouped.values_ofEntries, Grouped.valuesOf_append, Grouped.valuesOf_singleton,
    List.append_assoc, true_and]

end Lexicon

namespace SearchBox

/-- Each token of a search text comes to one criterion of a facet, one issue of a group or one free
text, in the order of the tokens, and to nothing else; the groups stand in the order of their first
members. A clause that is refused leaves all that comes of the other tokens as it is. -/
theorem read_accounts (box : SearchBox) (anchor : Calendar.Anchor) (text : String) :
    let tokens := Token.scan text
    let criteria := box.lexicon.criteriaOf anchor tokens
    let issues := box.lexicon.issuesOf anchor tokens
    let q := box.read anchor text
    ((∀ facet, q.criteria.values facet = Grouped.valuesOf criteria facet)
        ∧ q.criteria.groups.groups = Grouped.gathered criteria)
      ∧ ((∀ facet, q.issues.values facet = Grouped.valuesOf issues facet)
        ∧ q.issues.groups = Grouped.gathered issues)
      ∧ q.criteria.text = " ".intercalate (Token.fragments tokens)
      ∧ q.criteria.groups.flat.length + q.issues.flat.length
          + (tokens.filterMap Token.asText?).length = tokens.length
      ∧ ∀ before after c group issue, tokens = before ++ .clause c :: after →
          box.lexicon.read anchor c = .issue group issue →
            q.criteria = (box.lexicon.query anchor (before ++ after)).criteria
              ∧ ∀ facet,
                q.issues.values facet =
                    Grouped.valuesOf (box.lexicon.issuesOf anchor before) facet
                      ++ (if facet = group then [issue] else [])
                      ++ Grouped.valuesOf (box.lexicon.issuesOf anchor after) facet
                  ∧ (box.lexicon.query anchor (before ++ after)).issues.values facet =
                    Grouped.valuesOf (box.lexicon.issuesOf anchor before) facet
                      ++ Grouped.valuesOf (box.lexicon.issuesOf anchor after) facet := by
  intro tokens criteria issues q
  have hq : q = ⟨⟨.ofEntries criteria, " ".intercalate (Token.fragments tokens)⟩,
      .ofEntries issues⟩ := box.lexicon.query_eq anchor tokens
  have hreadings : (box.lexicon.readings anchor tokens).length
      = (tokens.filterMap Token.asClause?).length := List.length_map _
  have hlength : criteria.length + issues.length
      = (tokens.filterMap Token.asClause?).length := by
    rw [← hreadings]
    exact Reading.length_filterMap_add _
  have htokens := Token.length_filterMap_add tokens
  refine ⟨⟨fun facet => ?_, ?_⟩, ⟨fun facet => ?_, ?_⟩, ?_, ?_, ?_⟩
  · rw [hq]
    exact Grouped.values_ofEntries criteria facet
  · rw [hq]
    exact Grouped.groups_ofEntries criteria
  · rw [hq]
    exact Grouped.values_ofEntries issues facet
  · rw [hq]
    exact Grouped.groups_ofEntries issues
  · rw [hq]
  · have hcriteria := (Grouped.flat_ofEntries_perm criteria).length_eq
    have hissues := (Grouped.flat_ofEntries_perm issues).length_eq
    rw [List.length_map] at hcriteria hissues
    rw [hq, hcriteria, hissues]
    omega
  · intro before after c group issue htokens hissue
    have hread : q = box.lexicon.query anchor (before ++ .clause c :: after) :=
      congrArg (box.lexicon.query anchor) htokens
    rw [hread]
    exact box.lexicon.query_without_refused anchor hissue before after

end SearchBox

end BoardQuery

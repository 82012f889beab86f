import BoardQuery.Proofs.Accounted

/-!
# Looking names up and reporting them back

A query that was read can be changed by more criteria and by reports of names that were not found;
a report that is refused changes nothing. Such a query is told by the entries of its history
(`after_read`), so are the names to be looked up (`lookups_ofEntries`), and to report all of them
adds one issue for each (`reportAllNotFound_eq_ok`). The facets whose names are looked up are the
ones whose names can be reported (`notFound?_eq_none_iff`).
-/

namespace BoardQuery

/-! ## Which names can be reported -/

theorem Issue.notFound?_eq_none_iff {palette : Palette} {facet : Facet} {name : String} :
    Issue.notFound? palette facet name = none ↔ facet.namesThings = false := by
  cases facet with
  | label =>
    unfold Issue.notFound?
    simp only [Facet.namesThings]
    split <;> simp
  | _ => simp [Issue.notFound?, IssueKind.notFound?, Facet.namesThings]

/-- The issue of a name that was not found, with its facet. -/
def Issue.notFoundEntry? (palette : Palette) (entry : Facet × String) : Option (Facet × Issue) :=
  (Issue.notFound? palette entry.1 entry.2).map (entry.1, ·)

/-- A name of a naming facet comes to an issue. -/
theorem Issue.exists_notFound (palette : Palette) {entry : Facet × String}
    (h : entry.1.namesThings = true) :
    ∃ issue, Issue.notFound? palette entry.1 entry.2 = some issue
      ∧ Issue.notFoundEntry? palette entry = some (entry.1, issue) := by
  rcases hissue : Issue.notFound? palette entry.1 entry.2 with _ | issue
  · rw [Issue.notFound?_eq_none_iff.1 hissue] at h
    simp at h
  · refine ⟨issue, rfl, ?_⟩
    rw [Issue.notFoundEntry?, hissue, Option.map_some]

namespace Criteria

theorem mem_lookups {c : Criteria} {facet : Facet} {name : String} :
    (facet, name) ∈ c.lookups ↔
      facet.namesThings = true ∧ ∃ criterion ∈ c.values facet, criterion.name? = some name := by
  unfold lookups
  rw [Grouped.groups_eq, List.mem_flatMap]
  constructor
  · rintro ⟨group, hgroup, hname⟩
    obtain ⟨hgroup, hthings⟩ := List.mem_filter.1 hgroup
    obtain ⟨facet', -, rfl⟩ := List.mem_map.1 hgroup
    obtain ⟨name', hheld, heq⟩ := List.mem_map.1 hname
    obtain ⟨rfl, rfl⟩ := Prod.mk.inj heq
    exact ⟨hthings, List.mem_filterMap.1 hheld⟩
  · rintro ⟨hthings, criterion, hcriterion, hname⟩
    have hfacet := Grouped.mem_facets_of_mem_values hcriterion
    refine ⟨(facet, c.groups.values facet), ?_, ?_⟩
    · exact List.mem_filter.2 ⟨List.mem_map.2 ⟨facet, hfacet, rfl⟩, hthings⟩
    · exact List.mem_map.2 ⟨name, List.mem_filterMap.2 ⟨criterion, hcriterion, hname⟩, rfl⟩

theorem namesThings_of_mem_lookups {c : Criteria} {entry : Facet × String}
    (h : entry ∈ c.lookups) : entry.1.namesThings = true :=
  (mem_lookups.1 h).1

/-- The names to be looked up among criteria that were added one after the other. -/
theorem lookups_ofEntries (entries : List (Facet × Criterion)) (text : String) :
    (Criteria.mk (.ofEntries entries) text).lookups =
      ((entries.map (·.1)).eraseDups.filter Facet.namesThings).flatMap fun facet =>
        ((Grouped.valuesOf entries facet).filterMap Criterion.name?).map (facet, ·) := by
  unfold lookups
  rw [Grouped.groups_ofEntries, Grouped.gathered, List.filter_map, List.flatMap_map]
  rfl

end Criteria

namespace Query

/-- What can be done to a query once it is read. -/
inductive Call where
  | add (facet : Facet) (criterion : Criterion)
  | report (facet : Facet) (name : String)
deriving DecidableEq, Repr

/-- The criterion that a call adds, with its facet. -/
def Call.criterion? : Call → Option (Facet × Criterion)
  | .add facet c => some (facet, c)
  | .report .. => none

/-- The issue that a call adds, with its facet. -/
def Call.issue? (palette : Palette) : Call → Option (Facet × Issue)
  | .add .. => none
  | .report facet name => Issue.notFoundEntry? palette (facet, name)

/-- The query after a call; one that fails leaves it as it was. -/
def apply (palette : Palette) (q : Query) : Call → Query
  | .add facet c => q.add facet c
  | .report facet name =>
    match q.reportNotFound palette facet name with
    | .ok q' => q'
    | .error _ => q

def after (palette : Palette) (q : Query) (calls : List Call) : Query :=
  calls.foldl (apply palette) q

/-! ## The history of a query -/

theorem reportNotFound_of_some {palette : Palette} {q : Query} {facet : Facet} {name : String}
    {issue : Issue} (h : Issue.notFound? palette facet name = some issue) :
    q.reportNotFound palette facet name = .ok { q with issues := q.issues.add facet issue } := by
  unfold reportNotFound Issues.addNotFound
  rw [h]
  rfl

theorem reportNotFound_of_none {palette : Palette} {q : Query} {facet : Facet} {name : String}
    (h : Issue.notFound? palette facet name = none) :
    q.reportNotFound palette facet name = .error (.namesNothing facet) := by
  unfold reportNotFound Issues.addNotFound
  rw [h]
  rfl

theorem apply_ofEntries (palette : Palette) (criteria : List (Facet × Criterion))
    (issues : List (Facet × Issue)) (text : String) (call : Call) :
    apply palette ⟨⟨.ofEntries criteria, text⟩, .ofEntries issues⟩ call =
      ⟨⟨.ofEntries (criteria ++ [call].filterMap Call.criterion?), text⟩,
        .ofEntries (issues ++ [call].filterMap (Call.issue? palette))⟩ := by
  rcases call with ⟨facet, c⟩ | ⟨facet, name⟩
  · simp only [List.filterMap_cons, List.filterMap_nil, Call.criterion?, Call.issue?,
      List.append_nil, Grouped.ofEntries_concat]
    rfl
  · have hcriteria : [Call.report facet name].filterMap Call.criterion? = [] := rfl
    rcases hissue : Issue.notFound? palette facet name with _ | issue
    · have hissues : [Call.report facet name].filterMap (Call.issue? palette) = [] := by
        simp [Call.issue?, Issue.notFoundEntry?, hissue]
      simp only [apply]
      rw [reportNotFound_of_none hissue, hcriteria, hissues, List.append_nil, List.append_nil]
    · have hissues : [Call.report facet name].filterMap (Call.issue? palette) =
          [(facet, issue)] := by
        simp [Call.issue?, Issue.notFoundEntry?, hissue]
      simp only [apply]
      rw [reportNotFound_of_some hissue, hcriteria, hissues, List.append_nil,
        Grouped.ofEntries_concat]

theorem after_ofEntries (palette : Palette) (criteria : List (Facet × Criterion))
    (issues : List (Facet × Issue)) (text : String) (calls : List Call) :
    after palette ⟨⟨.ofEntries criteria, text⟩, .ofEntries issues⟩ calls =
      ⟨⟨.ofEntries (criteria ++ calls.filterMap Call.criterion?), text⟩,
        .ofEntries (issues ++ calls.filterMap (Call.issue? palette))⟩ := by
  induction calls using List.reverseRecOn with
  | nil => simp [after]
  | append_singleton calls call ih =>
    unfold after at ih ⊢
    rw [List.foldl_append, ih, List.foldl_cons, List.foldl_nil, apply_ofEntries]
    simp only [List.filterMap_append, List.append_assoc]

/-! ## Reporting all names -/

theorem foldlM_reportNotFound (palette : Palette) (criteria : Criteria) :
    ∀ (names : List (Facet × String)) (issues : List (Facet × Issue)),
      (∀ entry ∈ names, entry.1.namesThings = true) →
        names.foldlM (fun (q : Query) entry => q.reportNotFound palette entry.1 entry.2)
            ⟨criteria, .ofEntries issues⟩ =
          .ok ⟨criteria, .ofEntries (issues ++ names.filterMap (Issue.notFoundEntry? palette))⟩
  | [], issues, _ => by
    rw [List.foldlM_nil, List.filterMap_nil, List.append_nil]
    rfl
  | entry :: names, issues, h => by
    obtain ⟨hentry, hnames⟩ := List.forall_mem_cons.1 h
    obtain ⟨issue, hissue, hfirst⟩ := Issue.exists_notFound palette hentry
    rw [List.foldlM_cons, reportNotFound_of_some hissue]
    show names.foldlM _ (Query.mk criteria ((Grouped.ofEntries issues).add entry.1 issue)) = _
    rw [← Grouped.ofEntries_concat, foldlM_reportNotFound palette criteria names _ hnames,
      List.filterMap_cons_some hfirst, List.append_assoc]
    rfl

/-- Each name of a facet comes to one issue in the facet's group, in the order of the names. -/
theorem valuesOf_notFoundEntry (palette : Palette) (facet : Facet) :
    ∀ names : List (Facet × String), (∀ entry ∈ names, entry.1.namesThings = true) →
      (Grouped.valuesOf (names.filterMap (Issue.notFoundEntry? palette)) facet).map some =
        (Grouped.valuesOf names facet).map (Issue.notFound? palette facet)
  | [], _ => rfl
  | (facet', name) :: names, h => by
    obtain ⟨hentry, hnames⟩ := List.forall_mem_cons.1 h
    have ih := valuesOf_notFoundEntry palette facet names hnames
    obtain ⟨issue, hissue, hfirst⟩ := Issue.exists_notFound palette hentry
    rw [List.filterMap_cons_some hfirst]
    by_cases hfacet : facet' = facet
    · subst hfacet
      simpa [Grouped.valuesOf, hissue] using ih
    · simpa [Grouped.valuesOf, hfacet] using ih

theorem length_notFoundEntry (palette : Palette) {names : List (Facet × String)}
    (h : ∀ entry ∈ names, entry.1.namesThings = true) :
    (names.filterMap (Issue.notFoundEntry? palette)).length = names.length := by
  rw [List.length_filterMap_eq_countP, List.countP_eq_length]
  intro entry hentry
  obtain ⟨issue, -, hissue⟩ := Issue.exists_notFound palette (h entry hentry)
  rw [hissue]
  rfl

/-- To report all names of a query works and adds one issue for each at the end of its facet's
group. -/
theorem reportAllNotFound_eq_ok (palette : Palette) {q : Query} {issues : List (Facet × Issue)}
    (hissues : q.issues = .ofEntries issues) :
    ∃ q', q.reportAllNotFound palette = .ok q'
      ∧ q'.criteria = q.criteria ∧ q'.lookups = q.lookups
      ∧ q.issues.facets <+: q'.issues.facets
      ∧ (∀ facet, (q'.issues.values facet).map some = (q.issues.values facet).map some
        ++ (Grouped.valuesOf q.lookups facet).map (Issue.notFound? palette facet))
      ∧ q'.issues.flat.length = q.issues.flat.length + q.lookups.length := by
  obtain ⟨criteria, _⟩ := q
  obtain rfl : _ = Grouped.ofEntries issues := hissues
  have hthings : ∀ entry ∈ criteria.lookups, entry.1.namesThings = true :=
    fun _ => Criteria.namesThings_of_mem_lookups
  refine ⟨_, foldlM_reportNotFound palette criteria criteria.lookups issues hthings, rfl, rfl,
    Grouped.facets_prefix_append _ _, fun facet => ?_, ?_⟩
  · rw [Grouped.values_ofEntries, Grouped.values_ofEntries, Grouped.valuesOf_append,
      List.map_append, valuesOf_notFoundEntry palette facet _ hthings]
    rfl
  · have hold := (Grouped.flat_ofEntries_perm issues).length_eq
    have hnew := (Grouped.flat_ofEntries_perm
      (issues ++ criteria.lookups.filterMap (Issue.notFoundEntry? palette))).length_eq
    rw [List.length_map] at hold hnew
    rw [hold, hnew, List.length_append, length_notFoundEntry palette hthings]
    rfl

end Query

namespace SearchBox

/-- A query that was read and then called upon is told by the entries of its history. -/
theorem after_read (box : SearchBox) (anchor : Calendar.Anchor) (text : String)
    (calls : List Query.Call) :
    (box.read anchor text).after box.palette calls =
      ⟨⟨.ofEntries (box.lexicon.criteriaOf anchor (Token.scan text)
          ++ calls.filterMap Query.Call.criterion?),
        " ".intercalate (Token.fragments (Token.scan text))⟩,
      .ofEntries (box.lexicon.issuesOf anchor (Token.scan text)
        ++ calls.filterMap (Query.Call.issue? box.palette))⟩ := by
  unfold read
  rw [Lexicon.query_eq]
  exact Query.after_ofEntries ..

/-- The facets whose names are looked up after some calls are those whose values name things. -/
theorem exists_mem_lookups_iff (box : SearchBox) (anchor : Calendar.Anchor) (text : String)
    {facet : Facet} :
    (∃ calls name, (facet, name) ∈ ((box.read anchor text).after box.palette calls).lookups) ↔
      facet.namesThings = true := by
  constructor
  · rintro ⟨calls, name, h⟩
    exact Criteria.namesThings_of_mem_lookups h
  · intro hthings
    refine ⟨[.add facet (.named "")], "", ?_⟩
    refine Criteria.mem_lookups.2 ⟨hthings, .named "", ?_, rfl⟩
    have hvalues := Grouped.values_add (box.read anchor text).criteria.groups facet facet
      (Criterion.named "")
    rw [if_pos rfl] at hvalues
    show _ ∈ ((box.read anchor text).criteria.groups.add facet (.named "")).values facet
    rw [hvalues]
    exact List.mem_append_right _ (List.mem_singleton_self _)

/-- After any calls the names to be looked up are those that the criteria of naming facets hold, in
the order of the facets' first criteria and then of the criteria. To report all of them works, adds
one issue for each at the end of its facet's group, and changes nothing else. A name of a facet
that is never looked up cannot be reported. -/
theorem lookups_reported (box : SearchBox) (anchor : Calendar.Anchor) (text : String)
    (calls : List Query.Call) :
    let q := (box.read anchor text).after box.palette calls
    let entries := box.lexicon.criteriaOf anchor (Token.scan text)
      ++ calls.filterMap Query.Call.criterion?
    (q.criteria.groups.groups = Grouped.gathered entries
        ∧ q.lookups = ((entries.map (·.1)).eraseDups.filter Facet.namesThings).flatMap fun facet =>
          ((Grouped.valuesOf entries facet).filterMap Criterion.name?).map (facet, ·))
      ∧ (∃ q', q.reportAllNotFound box.palette = .ok q'
        ∧ q'.criteria = q.criteria ∧ q'.lookups = q.lookups
        ∧ q.issues.facets <+: q'.issues.facets
        ∧ (∀ facet, (q'.issues.values facet).map some = (q.issues.values facet).map some
          ++ (Grouped.valuesOf q.lookups facet).map (Issue.notFound? box.palette facet))
        ∧ q'.issues.flat.length = q.issues.flat.length + q.lookups.length)
      ∧ ∀ facet,
        (∀ calls' name,
          (facet, name) ∉ ((box.read anchor text).after box.palette calls').lookups) →
        ∀ name, q.reportNotFound box.palette facet name = .error (.namesNothing facet)
          ∧ q.apply box.palette (.report facet name) = q := by
  intro q entries
  have hq : q = _ := box.after_read anchor text calls
  refine ⟨⟨?_, ?_⟩, Query.reportAllNotFound_eq_ok box.palette (congrArg Query.issues hq), ?_⟩
  · rw [hq]
    exact Grouped.groups_ofEntries entries
  · rw [hq]
    exact Criteria.lookups_ofEntries entries _
  · intro facet hnever name
    have hthings : facet.namesThings = false := by
      rw [← Bool.not_eq_true, ← box.exists_mem_lookups_iff anchor text]
      rintro ⟨calls', name', h⟩
      exact hnever calls' name' h
    have hissue : Issue.notFound? box.palette facet name = none :=
      Issue.notFound?_eq_none_iff.2 hthings
    have herror : q.reportNotFound box.palette facet name = .error (.namesNothing facet) :=
      Query.reportNotFound_of_none hissue
    refine ⟨herror, ?_⟩
    simp only [Query.apply]
    rw [herror]

/-- No state of a card is looked up, so none can be reported. -/
theorem lookups_reported_status :
    (∀ calls name, (Facet.status, name) ∉
        ((english.read ⟨⟨2026, 10, 18, by decide, by decide⟩, .fixed 0⟩ "status:open").after
          english.palette calls).lookups)
      ∧ ((english.read ⟨⟨2026, 10, 18, by decide, by decide⟩, .fixed 0⟩ "status:open").after
        english.palette []).reportNotFound english.palette .status "open" =
          .error (.namesNothing .status) := by
  have hnever : ∀ calls name, (Facet.status, name) ∉
      ((english.read ⟨⟨2026, 10, 18, by decide, by decide⟩, .fixed 0⟩ "status:open").after
        english.palette calls).lookups := by
    intro calls name h
    have hthings : Facet.status.namesThings = true := Criteria.namesThings_of_mem_lookups h
    exact absurd hthings (by decide)
  exact ⟨hnever, ((lookups_reported english _ "status:open" []).2.2 .status hnever "open").1⟩

end SearchBox

end BoardQuery

import BoardQuery.Proofs.Lookups

/-!
# Issues after a run of calls

Issues are told by the records of the calls that succeeded, in the order of the calls
(`after_eq_ofEntries`). A call that fails leaves them as they are, whenever it is made: what comes
of a call depends on the call alone (`perform_of_some`, `perform_of_none`).
-/

namespace BoardQuery

namespace Issues

/-- What can be done to issues: to add one, or to report a name that was not found. -/
inductive Call where
  | add (facet : Facet) (issue : Issue)
  | report (facet : Facet) (name : String)
deriving DecidableEq, Repr

namespace Call

variable (palette : Palette)

/-- The issues after a call that succeeds, or why it fails. -/
def perform (issues : Issues) : Call → Except Failure Issues
  | .add facet issue => .ok (Grouped.add issues facet issue)
  | .report facet name => issues.addNotFound palette facet name

/-- The issue that a call adds, with its facet. -/
def record? : Call → Option (Facet × Issue)
  | .add facet issue => some (facet, issue)
  | .report facet name => Issue.notFoundEntry? palette (facet, name)

theorem perform_of_some {call : Call} {entry : Facet × Issue}
    (h : call.record? palette = some entry) (issues : Issues) :
    call.perform palette issues = .ok (Grouped.add issues entry.1 entry.2) := by
  rcases call with ⟨facet, issue⟩ | ⟨facet, name⟩
  · obtain rfl := Option.some.inj h
    rfl
  · obtain ⟨issue, hissue, rfl⟩ := Option.map_eq_some_iff.1 h
    rw [perform, addNotFound, hissue]

theorem perform_of_none {call : Call} (h : call.record? palette = none) (issues : Issues) :
    ∃ facet name, call = .report facet name ∧ facet.namesThings = false
      ∧ call.perform palette issues = .error (.namesNothing facet) := by
  rcases call with ⟨facet, issue⟩ | ⟨facet, name⟩
  · simp [record?] at h
  · have hissue : Issue.notFound? palette facet name = none := Option.map_eq_none_iff.1 h
    refine ⟨facet, name, rfl, Issue.notFound?_eq_none_iff.1 hissue, ?_⟩
    rw [perform, addNotFound, hissue]

/-- The record of a call is what it adds to any issues. -/
theorem record?_eq_some_iff {call : Call} {entry : Facet × Issue} :
    call.record? palette = some entry ↔
      ∀ issues, call.perform palette issues = .ok (Grouped.add issues entry.1 entry.2) := by
  refine ⟨perform_of_some palette, fun h => ?_⟩
  rcases hrecord : call.record? palette with _ | ⟨facet, issue⟩
  · obtain ⟨facet, name, -, -, herror⟩ := perform_of_none palette hrecord Grouped.empty
    rw [h] at herror
    simp at herror
  · have hadded := (perform_of_some palette hrecord Grouped.empty).symm.trans (h Grouped.empty)
    have hgroups := congrArg Grouped.groups (Except.ok.inj hadded)
    have hentry : facet = entry.1 ∧ issue = entry.2 := by
      simpa [Grouped.add, Grouped.change, Grouped.changeGroup, Grouped.empty] using hgroups
    rw [hentry.1, hentry.2]

theorem exists_perform_eq_ok_iff {call : Call} {issues : Issues} :
    (∃ issues', call.perform palette issues = .ok issues') ↔
      ∃ entry, call.record? palette = some entry := by
  rcases h : call.record? palette with _ | entry
  · obtain ⟨facet, name, -, -, herror⟩ := perform_of_none palette h issues
    simp [herror]
  · simp [perform_of_some palette h issues]

end Call

variable (palette : Palette)

/-- The issues after a call; one that fails leaves them as they were. -/
def apply (issues : Issues) (call : Call) : Issues :=
  match call.perform palette issues with
  | .ok issues' => issues'
  | .error _ => issues

/-- The issues after some calls, before which there were none. -/
def after (calls : List Call) : Issues :=
  calls.foldl (apply palette) Grouped.empty

theorem after_concat (calls : List Call) (call : Call) :
    after palette (calls ++ [call]) = apply palette (after palette calls) call := by
  rw [after, List.foldl_append]
  rfl

theorem apply_of_error {issues : Issues} {call : Call} {failure : Failure}
    (h : call.perform palette issues = .error failure) : apply palette issues call = issues := by
  rw [apply, h]

/-- The issues that some calls add, each with its facet. -/
def recordsOf (calls : List Call) : List (Facet × Issue) :=
  calls.filterMap (Call.record? palette)

theorem after_eq_ofEntries (calls : List Call) :
    after palette calls = .ofEntries (recordsOf palette calls) := by
  unfold recordsOf
  induction calls using List.reverseRecOn with
  | nil => rfl
  | append_singleton calls call ih =>
    rw [after_concat, List.filterMap_append]
    rcases hrecord : call.record? palette with _ | entry
    · obtain ⟨facet, name, -, -, herror⟩ :=
        Call.perform_of_none palette hrecord (after palette calls)
      rw [apply_of_error palette herror, ih, List.filterMap_cons_none hrecord, List.filterMap_nil,
        List.append_nil]
    · rw [apply, Call.perform_of_some palette hrecord, ih, List.filterMap_cons_some hrecord,
        List.filterMap_nil, Grouped.ofEntries_concat]

/-- There is an issue once a call has succeeded. -/
theorem groups_after_ne_nil_iff {calls : List Call} :
    (after palette calls).groups ≠ [] ↔
      ∃ earlier call later issues, calls = earlier ++ call :: later
        ∧ call.perform palette (after palette earlier) = .ok issues := by
  rw [after_eq_ofEntries, Grouped.groups_ofEntries_ne_nil_iff]
  constructor
  · intro hne
    obtain ⟨entry, hentry⟩ := List.exists_mem_of_ne_nil _ hne
    obtain ⟨call, hcall, hrecord⟩ := List.mem_filterMap.1 hentry
    obtain ⟨earlier, later, rfl⟩ := List.append_of_mem hcall
    obtain ⟨issues, hissues⟩ := (Call.exists_perform_eq_ok_iff palette).2 ⟨entry, hrecord⟩
    exact ⟨earlier, call, later, issues, rfl, hissues⟩
  · rintro ⟨earlier, call, later, issues, rfl, hissues⟩
    obtain ⟨entry, hrecord⟩ := (Call.exists_perform_eq_ok_iff palette).1 ⟨issues, hissues⟩
    refine List.ne_nil_of_mem (a := entry) (List.mem_filterMap.2 ⟨call, ?_, hrecord⟩)
    exact List.mem_append_right _ (List.mem_cons_self ..)

/-- After any calls a facet has the records of the calls for it that succeeded, in their order. The
groups follow each other in the order of their first records, so all records are there and none is
merged with another; there is an issue once a call has succeeded, and one message for each issue in
its place. Only reports for facets whose values name nothing fail, and they change nothing. -/
theorem after_keeps_records (p : Phrasebook) (calls : List Call) :
    let issues := after palette calls
    let records := recordsOf palette calls
    (∀ (call : Call) (entry : Facet × Issue), call.record? palette = some entry ↔
        ∀ before, call.perform palette before = .ok (Grouped.add before entry.1 entry.2))
      ∧ (∀ facet, issues.values facet = Grouped.valuesOf records facet)
      ∧ issues.flat = (records.map (·.1)).eraseDups.flatMap (Grouped.valuesOf records)
      ∧ issues.flat.Perm (records.map (·.2))
      ∧ (issues.groups ≠ [] ↔ ∃ earlier call later issues', calls = earlier ++ call :: later
        ∧ call.perform palette (after palette earlier) = .ok issues')
      ∧ ((p.messages issues).length = issues.flat.length
        ∧ ∀ (i : Nat) (issue : Issue), issues.flat[i]? = some issue →
          (p.messages issues)[i]? = some (p.message issue.kind.tag issue.offence))
      ∧ ∀ (call : Call) (failure : Failure), call.perform palette issues = .error failure →
        (∃ facet name, call = .report facet name ∧ facet.namesThings = false
          ∧ failure = .namesNothing facet)
        ∧ after palette (calls ++ [call]) = issues := by
  intro issues records
  have hissues : issues = .ofEntries records := after_eq_ofEntries palette calls
  refine ⟨fun call entry => Call.record?_eq_some_iff palette, fun facet => ?_, ?_, ?_,
    groups_after_ne_nil_iff palette, ⟨List.length_map .., fun i issue hi => ?_⟩,
    fun call failure herror => ⟨?_, ?_⟩⟩
  · rw [hissues, Grouped.values_ofEntries]
  · have hvalues : (Grouped.ofEntries records).values = Grouped.valuesOf records :=
      funext (Grouped.values_ofEntries records)
    rw [hissues, Grouped.flat_eq, Grouped.facets_ofEntries, hvalues]
  · rw [hissues]
    exact Grouped.flat_ofEntries_perm records
  · rw [Phrasebook.messages, List.getElem?_map, hi, Option.map_some]
  · rcases hrecord : call.record? palette with _ | entry
    · obtain ⟨facet, name, hcall, hthings, hfails⟩ := Call.perform_of_none palette hrecord issues
      rw [hfails] at herror
      exact ⟨facet, name, hcall, hthings, (Except.error.inj herror).symm⟩
    · rw [Call.perform_of_some palette hrecord] at herror
      simp at herror
  · rw [after_concat]
    exact apply_of_error palette herror

end Issues

end BoardQuery

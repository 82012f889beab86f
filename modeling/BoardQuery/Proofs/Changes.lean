import BoardQuery.Proofs.Accounted
import Mathlib.Data.List.DropRight

/-!
# Criteria after a run of changes

Criteria are told by the changes that were made to them. A facet is listed once, where it was first
changed, and keeps its place (`facets_after`). It has the criteria that it was last set to and those
that were added since (`values_after`), and the text is made of the fragments from the first on that
is not empty (`text_after`).
-/

namespace BoardQuery

namespace Criteria

/-- What can be done to criteria. -/
inductive Change where
  | add (facet : Facet) (criterion : Criterion)
  | set (facet : Facet) (criteria : List Criterion)
  | addText (text : String)
deriving DecidableEq, Repr

namespace Change

/-- The facet that a change is about. -/
def facet? : Change → Option Facet
  | .add facet _ => some facet
  | .set facet _ => some facet
  | .addText _ => none

/-- The criterion that a change adds to a facet. -/
def added? (facet : Facet) : Change → Option Criterion
  | .add facet' criterion => if facet = facet' then some criterion else none
  | _ => none

/-- The criteria that a change sets a facet to. -/
def set? (facet : Facet) : Change → Option (List Criterion)
  | .set facet' criteria => if facet = facet' then some criteria else none
  | _ => none

def text? : Change → Option String
  | .addText text => some text
  | _ => none

end Change

def apply (c : Criteria) : Change → Criteria
  | .add facet criterion => c.add facet criterion
  | .set facet criteria => c.set facet criteria
  | .addText text => c.addText text

/-- The criteria after some changes, of which there were none before. -/
def after (changes : List Change) : Criteria :=
  changes.foldl apply empty

theorem after_concat (changes : List Change) (change : Change) :
    after (changes ++ [change]) = (after changes).apply change := by
  rw [after, List.foldl_append]
  rfl

/-! ## Facets -/

theorem facets_apply_of_none (c : Criteria) {change : Change} (h : change.facet? = none) :
    (c.apply change).groups.facets = c.groups.facets := by
  rcases change with ⟨facet, criterion⟩ | ⟨facet, criteria⟩ | text
  · simp [Change.facet?] at h
  · simp [Change.facet?] at h
  · rfl

theorem facets_apply_of_some (c : Criteria) {change : Change} {facet : Facet}
    (h : change.facet? = some facet) :
    (c.apply change).groups.facets =
      if facet ∈ c.groups.facets then c.groups.facets else c.groups.facets ++ [facet] := by
  rcases change with ⟨facet', criterion⟩ | ⟨facet', criteria⟩ | text
  · obtain rfl := Option.some.inj h
    exact Grouped.facets_change ..
  · obtain rfl := Option.some.inj h
    exact Grouped.facets_change ..
  · simp [Change.facet?] at h

/-- Facets are listed in the order of their first changes. -/
theorem facets_after (changes : List Change) :
    (after changes).groups.facets = (changes.filterMap Change.facet?).eraseDups := by
  induction changes using List.reverseRecOn with
  | nil => rfl
  | append_singleton changes change ih =>
    rw [after_concat, List.filterMap_append]
    rcases hfacet : change.facet? with _ | facet
    · rw [facets_apply_of_none _ hfacet, ih, List.filterMap_cons_none hfacet, List.filterMap_nil,
        List.append_nil]
    · rw [facets_apply_of_some _ hfacet, ih, List.filterMap_cons_some hfacet, List.filterMap_nil,
        Grouped.eraseDups_concat]
      simp only [List.mem_eraseDups]

theorem mem_facets_after_iff {changes : List Change} {facet : Facet} :
    facet ∈ (after changes).groups.facets ↔ some facet ∈ changes.map Change.facet? := by
  rw [facets_after, List.mem_eraseDups, List.mem_filterMap, List.mem_map]

/-- Later changes leave the facets where they are. -/
theorem facets_after_prefix (changes later : List Change) :
    (after changes).groups.facets <+: (after (changes ++ later)).groups.facets := by
  rw [facets_after, facets_after, List.filterMap_append, List.eraseDups_append]
  exact List.prefix_append _ _

/-! ## Values -/

/-- The criteria that changes last set a facet to. -/
def lastSet (facet : Facet) (changes : List Change) : List Criterion :=
  (changes.reverse.findSome? (Change.set? facet)).getD []

/-- The changes since a facet was last set. -/
def sinceSet (facet : Facet) (changes : List Change) : List Change :=
  changes.rtakeWhile fun change => (change.set? facet).isNone

/-- What changes leave a facet with: what it was last set to, and what was added since. -/
def history (facet : Facet) (changes : List Change) : List Criterion :=
  lastSet facet changes ++ (sinceSet facet changes).filterMap (Change.added? facet)

theorem history_concat (facet : Facet) (changes : List Change) (change : Change) :
    history facet (changes ++ [change]) =
      (change.set? facet).getD (history facet changes ++ (change.added? facet).toList) := by
  unfold history lastSet sinceSet
  rw [List.reverse_append, List.reverse_singleton, List.singleton_append, List.findSome?_cons]
  rcases hset : change.set? facet with _ | criteria
  · rw [List.rtakeWhile_concat_pos _ _ _ (by simp [hset]), List.filterMap_append,
      ← List.append_assoc]
    rcases hadded : change.added? facet with _ | criterion
    · simp [hadded]
    · simp [hadded]
  · rw [List.rtakeWhile_concat_neg _ _ _ (by simp [hset]), List.filterMap_nil, List.append_nil]
    rfl

theorem values_apply (c : Criteria) (change : Change) (facet : Facet) :
    (c.apply change).values facet =
      (change.set? facet).getD (c.values facet ++ (change.added? facet).toList) := by
  rcases change with ⟨facet', criterion⟩ | ⟨facet', criteria⟩ | text
  · by_cases h : facet = facet'
    · simp [apply, add, values, Change.set?, Change.added?, h]
    · simp [apply, add, values, Change.set?, Change.added?, h]
  · by_cases h : facet = facet'
    · simp [apply, set, values, Change.set?, h]
    · simp [apply, set, values, Change.set?, Change.added?, h]
  · simp [apply, addText, values, Change.set?, Change.added?]

theorem values_after (changes : List Change) (facet : Facet) :
    (after changes).values facet = history facet changes := by
  induction changes using List.reverseRecOn with
  | nil => rfl
  | append_singleton changes change ih => rw [after_concat, values_apply, history_concat, ih]

/-! ## Text -/

theorem text_apply (c : Criteria) {change : Change} (h : change.text? = none) :
    (c.apply change).text = c.text := by
  rcases change with ⟨facet, criterion⟩ | ⟨facet, criteria⟩ | text
  · rfl
  · rfl
  · simp [Change.text?] at h

/-- The fragments of text from the first on that is not empty. -/
def fragments (changes : List Change) : List String :=
  (changes.filterMap Change.text?).dropWhile String.isEmpty

theorem ne_empty_of_mem_head?_fragments {changes : List Change} {s : String}
    (h : s ∈ (fragments changes).head?) : s ≠ "" := by
  have hs := List.head?_dropWhile_not String.isEmpty (changes.filterMap Change.text?)
  unfold fragments at h
  rw [Option.mem_def] at h
  rw [h] at hs
  simpa using hs

/-- Fragments are joined by spaces; empty ones before the first other leave no trace. -/
theorem text_after (changes : List Change) :
    (after changes).text = " ".intercalate (fragments changes) := by
  induction changes using List.reverseRecOn with
  | nil => rfl
  | append_singleton changes change ih =>
    rw [after_concat]
    rcases htext : change.text? with _ | text
    · rw [text_apply _ htext, ih]
      simp [fragments, htext]
    · obtain rfl : change = .addText text := by
        cases change <;> simp_all [Change.text?]
      have hafter : after changes =
          ⟨(after changes).groups, " ".intercalate (fragments changes)⟩ := by
        rw [← ih]
      rw [apply, hafter, addText_intercalate fun _ => ne_empty_of_mem_head?_fragments]
      unfold fragments
      rw [List.filterMap_append, List.dropWhile_append]
      split
      · rename_i hnone
        rw [List.isEmpty_iff.1 hnone]
        by_cases hempty : text = "" <;> simp [Change.text?, hempty]
      · rfl

/-! ## What can be read after a run -/

/-- No criterion is found for a facet, however it is asked for. -/
structure Vacant (c : Criteria) (facet : Facet) : Prop where
  values : c.values facet = []
  first? : c.first? facet = none
  has : c.has facet = false

theorem vacant_of_values {c : Criteria} {facet : Facet} (h : c.values facet = []) :
    c.Vacant facet where
  values := h
  first? := by rw [Criteria.first?, h, List.head?_nil]
  has := by rw [Criteria.has, h]; rfl

theorem has_eq_true_iff {c : Criteria} {facet : Facet} :
    c.has facet = true ↔ ∃ criterion, c.first? facet = some criterion := by
  unfold has first?
  rcases c.values facet with _ | ⟨criterion, criteria⟩
  · simp
  · simp

theorem history_of_not_mem {facet : Facet} {changes : List Change}
    (h : some facet ∉ changes.map Change.facet?) : history facet changes = [] := by
  rw [← values_after]
  exact Grouped.values_eq_nil fun hfacet => h (mem_facets_after_iff.1 hfacet)

/-- Criteria after any changes list each facet that was changed once, in the order of first changes
and for good. A facet has what it was last set to and what was added since. One that was never
changed reads like one that was set to nothing, but is not listed. The text is what was added, with
spaces between and without empty fragments before the first other. -/
theorem after_told_by_history (changes : List Change) :
    let c := after changes
    let facets := (changes.filterMap Change.facet?).eraseDups
    (c.groups.groups = facets.map (fun facet => (facet, history facet changes)) ∧ facets.Nodup)
      ∧ (∀ later, c.groups.facets <+: (after (changes ++ later)).groups.facets)
      ∧ (∀ facet, c.values facet = history facet changes
        ∧ c.first? facet = (history facet changes).head?
        ∧ (c.has facet = true ↔ ∃ criterion, c.first? facet = some criterion))
      ∧ (∀ facet, some facet ∉ changes.map Change.facet? →
        c.Vacant facet ∧ facet ∉ c.groups.facets)
      ∧ (∀ facet, (after (changes ++ [.set facet []])).Vacant facet
        ∧ facet ∈ (after (changes ++ [.set facet []])).groups.facets)
      ∧ c.text = " ".intercalate (fragments changes) := by
  intro c facets
  have hfacets : c.groups.facets = facets := facets_after changes
  refine ⟨⟨?_, ?_⟩, facets_after_prefix changes, fun facet => ⟨?_, ?_, has_eq_true_iff⟩,
    fun facet hnot => ⟨?_, ?_⟩, fun facet => ⟨?_, ?_⟩, text_after changes⟩
  · rw [Grouped.groups_eq, hfacets]
    exact List.map_congr_left fun facet _ => congrArg _ (values_after changes facet)
  · rw [← hfacets]
    exact c.groups.nodup
  · exact values_after changes facet
  · rw [first?, values_after]
  · exact vacant_of_values ((values_after changes facet).trans (history_of_not_mem hnot))
  · exact fun hfacet => hnot (mem_facets_after_iff.1 hfacet)
  · refine vacant_of_values ?_
    rw [values_after, history_concat]
    simp [Change.set?]
  · rw [mem_facets_after_iff]
    simp [Change.facet?]

end Criteria

end BoardQuery

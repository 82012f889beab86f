import BoardQuery.Proofs.Changes
import BoardQuery.Proofs.WireForm
import Mathlib.Data.List.Perm.Subperm

/-!
# When criteria are the same

Groupings are the same when they have the same facets, in whatever order, with the same values each
(`Grouped.same_iff`). What changes leave a facet with depends on the changes to that facet alone
(`history_changesOf`). So criteria come out the same, however the changes to different facets and to
the text were interleaved, and only the order in which the facets are listed can tell such runs
apart (`same_after`).
-/

namespace BoardQuery

/-- Two groupings are the same if and only if they have the same facets and each of these has the
same values in both. -/
theorem Grouped.same_iff {α : Type} [DecidableEq α] {g h : Grouped α} :
    g.same h = true ↔
      (∀ facet, facet ∈ g.facets ↔ facet ∈ h.facets)
        ∧ ∀ facet ∈ g.facets, g.values facet = h.values facet := by
  have hlength : ∀ g : Grouped α, g.groups.length = g.facets.length :=
    fun g => (List.length_map _).symm
  unfold same
  rw [Bool.and_eq_true, beq_iff_eq, List.all_eq_true, hlength, hlength, groups_eq g,
    List.forall_mem_map]
  simp only [beq_iff_eq, lookup_groups_eq_some_iff]
  constructor
  · rintro ⟨hcount, hall⟩
    -- facets without repetition that are all among others, and no fewer, are the others
    have hsubset : g.facets ⊆ h.facets := fun facet hfacet => (hall facet hfacet).1
    have hperm : g.facets.Perm h.facets :=
      (List.subperm_of_subset g.nodup hsubset).perm_of_length_le hcount.ge
    exact ⟨fun facet => hperm.mem_iff, fun facet hfacet => (hall facet hfacet).2.symm⟩
  · rintro ⟨hfacets, hvalues⟩
    have hperm : g.facets.Perm h.facets := (List.perm_ext_iff_of_nodup g.nodup h.nodup).2 hfacets
    exact ⟨hperm.length_eq, fun facet hfacet =>
      ⟨(hfacets facet).1 hfacet, (hvalues facet hfacet).symm⟩⟩

namespace Criteria

theorem same_eq_true_iff {c d : Criteria} :
    c.same d = true ↔
      c.text = d.text ∧ (∀ facet, facet ∈ c.groups.facets ↔ facet ∈ d.groups.facets)
        ∧ ∀ facet ∈ c.groups.facets, c.values facet = d.values facet := by
  unfold same
  rw [Bool.and_eq_true, beq_iff_eq, Grouped.same_iff, and_comm]
  rfl

/-- Criteria that are the same are written alike if they list their facets in the same order. -/
theorem compact_eq_iff_of_same {c d : Criteria} (h : c.same d = true) :
    c.toJson.compact = d.toJson.compact ↔ c.groups.facets = d.groups.facets := by
  obtain ⟨htext, -, hvalues⟩ := same_eq_true_iff.1 h
  rw [Json.Value.compact_inj, toJson_eq_iff]
  refine ⟨fun hwritten => hwritten.1, fun hfacets => ⟨hfacets, htext, fun facet => ?_⟩⟩
  by_cases hfacet : facet ∈ c.groups.facets
  · rw [hvalues facet hfacet]
  · have hnone : facet ∉ d.groups.facets := hfacets ▸ hfacet
    rw [values, values, Grouped.values_eq_nil hfacet, Grouped.values_eq_nil hnone]

/-! ## Changes facet by facet -/

/-- The changes to a facet, in their order. -/
def changesOf (facet : Facet) (changes : List Change) : List Change :=
  changes.filter fun change => change.facet? = some facet

theorem set?_of_facet?_ne {change : Change} {facet : Facet} (h : change.facet? ≠ some facet) :
    change.set? facet = none ∧ change.added? facet = none := by
  rcases change with ⟨facet', criterion⟩ | ⟨facet', criteria⟩ | text
  · have hne : facet ≠ facet' := fun heq => h (heq ▸ rfl)
    simp [Change.set?, Change.added?, hne]
  · have hne : facet ≠ facet' := fun heq => h (heq ▸ rfl)
    simp [Change.set?, Change.added?, hne]
  · simp [Change.set?, Change.added?]

/-- What changes leave a facet with depends on the changes to that facet alone. -/
theorem history_changesOf (facet : Facet) (changes : List Change) :
    history facet (changesOf facet changes) = history facet changes := by
  unfold changesOf
  induction changes using List.reverseRecOn with
  | nil => rfl
  | append_singleton changes change ih =>
    rw [List.filter_append, history_concat]
    by_cases h : change.facet? = some facet
    · rw [List.filter_cons_of_pos (by simpa using h), List.filter_nil, history_concat, ih]
    · obtain ⟨hset, hadded⟩ := set?_of_facet?_ne h
      rw [List.filter_cons_of_neg (by simpa using h), List.filter_nil, List.append_nil, ih, hset,
        hadded]
      simp

theorem changesOf_ne_nil_iff {facet : Facet} {changes : List Change} :
    changesOf facet changes ≠ [] ↔ some facet ∈ changes.map Change.facet? := by
  simp [changesOf, List.filter_eq_nil_iff]

/-- Two runs make the same changes to each facet, in the same order, and add the same fragments of
text, in the same order. -/
structure Interleaved (changes changes' : List Change) : Prop where
  facets : ∀ facet, changesOf facet changes = changesOf facet changes'
  text : changes.filterMap Change.text? = changes'.filterMap Change.text?

/-- The criteria after two runs are the same if and only if their texts are the same, the same
facets were changed, be it only to nothing, and each of these has the same criteria. It does not
matter how the changes to different facets and to the text were interleaved. What can tell the same
criteria apart is the order in which they list their facets. -/
theorem same_after (changes changes' : List Change) :
    let c := after changes
    let d := after changes'
    (c.same d = true ↔ c.text = d.text
        ∧ (∀ facet, some facet ∈ changes.map Change.facet? ↔
          some facet ∈ changes'.map Change.facet?)
        ∧ ∀ facet, some facet ∈ changes.map Change.facet? → c.values facet = d.values facet)
      ∧ (Interleaved changes changes' → c.same d = true)
      ∧ (c.same d = true →
        (c.toJson.compact = d.toJson.compact ↔ c.groups.facets = d.groups.facets)) := by
  intro c d
  have hsame : c.same d = true ↔ _ := same_eq_true_iff
  simp only [c, d, mem_facets_after_iff] at hsame
  refine ⟨hsame, fun h => hsame.2 ⟨?_, fun facet => ?_, fun facet _ => ?_⟩, compact_eq_iff_of_same⟩
  · rw [text_after, text_after, fragments, fragments, h.text]
  · rw [← changesOf_ne_nil_iff, ← changesOf_ne_nil_iff, h.facets]
  · rw [values_after, values_after, ← history_changesOf, h.facets, history_changesOf]

/-- Two boards are added before and after another facet is emptied; the criteria are the same, and
list the facets in different orders. -/
theorem same_after_emptied :
    let changes : List Change :=
      [.add .board (.named "a"), .addText "x", .set .list [], .add .board (.named "b")]
    let changes' : List Change :=
      [.set .list [], .add .board (.named "a"), .add .board (.named "b"), .addText "x"]
    Interleaved changes changes' ∧ (after changes).same (after changes') = true
      ∧ (after changes).toJson.compact ≠ (after changes').toJson.compact := by
  intro changes changes'
  have hinterleaved : Interleaved changes changes' :=
    ⟨fun facet => by cases facet <;> rfl, rfl⟩
  obtain ⟨-, hsame, hwritten⟩ := same_after changes changes'
  have h := hsame hinterleaved
  exact ⟨hinterleaved, h, (hwritten h).not.2 (by decide)⟩

/-- A facet that was emptied is not the same as one that was never changed. -/
example : (after [.set .list []]).same (after []) = false := by
  decide

end Criteria

end BoardQuery

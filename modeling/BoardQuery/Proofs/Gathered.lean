import BoardQuery.Grouped
import Mathlib.Data.List.Induction

/-!
# Entries gathered by facet

A grouping is told by its facets in their order and the values of each (`groups_eq`). Entries that
are added one after the other end up gathered: every facet stands where its first entry came, with
the values of its entries in their order (`groups_ofEntries`), and no entry is dropped or doubled
(`flat_ofEntries_perm`).
-/

namespace BoardQuery

namespace Grouped

variable {α : Type}

def facets (g : Grouped α) : List Facet :=
  g.groups.map (·.1)

theorem facets_change (g : Grouped α) (facet : Facet) (f : List α → List α) :
    (g.change facet f).facets =
      if facet ∈ g.facets then g.facets else g.facets ++ [facet] :=
  changeGroup_facets f facet g.groups

theorem facets_add (g : Grouped α) (facet : Facet) (value : α) :
    (g.add facet value).facets = if facet ∈ g.facets then g.facets else g.facets ++ [facet] :=
  facets_change g facet _

theorem lookup_eq_of_mem : ∀ {groups : List (Facet × List α)} {facet : Facet} {values : List α},
    (groups.map (·.1)).Nodup → (facet, values) ∈ groups → groups.lookup facet = some values
  | [], _, _, _, h => by simp at h
  | (facet', values') :: groups, facet, values, hnodup, h => by
    rw [List.map_cons, List.nodup_cons] at hnodup
    rcases List.mem_cons.1 h with hfirst | hrest
    · obtain ⟨rfl, rfl⟩ := Prod.mk.inj hfirst
      rw [List.lookup_cons_self]
    · have hne : facet ≠ facet' := by
        rintro rfl
        exact hnodup.1 (List.mem_map.2 ⟨_, hrest, rfl⟩)
      rw [List.lookup_cons, beq_false_of_ne hne]
      exact lookup_eq_of_mem hnodup.2 hrest

/-- A grouping is told by its facets and their values. -/
theorem groups_eq (g : Grouped α) :
    g.groups = g.facets.map fun facet => (facet, g.values facet) := by
  rw [facets, List.map_map]
  refine (List.map_id _).symm.trans (List.map_congr_left fun group hgroup => ?_)
  obtain ⟨facet, values⟩ := group
  simp only [id, Function.comp, Grouped.values, lookup_eq_of_mem g.nodup hgroup, Option.getD_some]

theorem flat_eq (g : Grouped α) : g.flat = g.facets.flatMap g.values := by
  rw [flat, groups_eq, List.flatMap_map]

theorem lookup_groups_eq_some_iff {g : Grouped α} {facet : Facet} {values : List α} :
    g.groups.lookup facet = some values ↔ facet ∈ g.facets ∧ g.values facet = values := by
  constructor
  · intro h
    obtain ⟨before, after, hgroups, -⟩ := List.lookup_eq_some_iff.1 h
    have hmem : (facet, values) ∈ g.groups := by simp [hgroups]
    exact ⟨List.mem_map.2 ⟨_, hmem, rfl⟩, by rw [Grouped.values, h, Option.getD_some]⟩
  · rintro ⟨hfacet, rfl⟩
    refine lookup_eq_of_mem g.nodup ?_
    rw [groups_eq]
    exact List.mem_map.2 ⟨facet, hfacet, rfl⟩

theorem mem_facets_of_mem_values {g : Grouped α} {facet : Facet} {value : α}
    (h : value ∈ g.values facet) : facet ∈ g.facets := by
  rcases hlookup : g.groups.lookup facet with _ | values
  · rw [values, hlookup] at h
    simp at h
  · exact (lookup_groups_eq_some_iff.1 hlookup).1

theorem values_eq_nil {g : Grouped α} {facet : Facet} (h : facet ∉ g.facets) :
    g.values facet = [] := by
  by_contra hne
  obtain ⟨value, hvalue⟩ := List.exists_mem_of_ne_nil _ hne
  exact h (mem_facets_of_mem_values hvalue)

theorem groups_eq_iff {g h : Grouped α} :
    g.groups = h.groups ↔ g.facets = h.facets ∧ ∀ facet, g.values facet = h.values facet := by
  constructor
  · intro heq
    exact ⟨congrArg (List.map Prod.fst) heq, fun facet => by rw [values, values, heq]⟩
  · rintro ⟨hfacets, hvalues⟩
    rw [groups_eq g, groups_eq h, hfacets]
    exact List.map_congr_left fun facet _ => by rw [hvalues]

/-! ## Adding one value after the other -/

/-- The values that entries have for a facet, in their order. -/
def valuesOf (entries : List (Facet × α)) (facet : Facet) : List α :=
  (entries.filter (·.1 = facet)).map (·.2)

/-- Entries by facet: the facets in order of their first entries, each with its values. -/
def gathered (entries : List (Facet × α)) : List (Facet × List α) :=
  (entries.map (·.1)).eraseDups.map fun facet => (facet, valuesOf entries facet)

/-- The grouping of entries that are added one after the other. -/
def ofEntries (entries : List (Facet × α)) : Grouped α :=
  entries.foldl (fun g entry => g.add entry.1 entry.2) empty

theorem ofEntries_concat (entries : List (Facet × α)) (facet : Facet) (value : α) :
    ofEntries (entries ++ [(facet, value)]) = (ofEntries entries).add facet value := by
  rw [ofEntries, List.foldl_append]
  rfl

theorem valuesOf_append (entries entries' : List (Facet × α)) (facet : Facet) :
    valuesOf (entries ++ entries') facet = valuesOf entries facet ++ valuesOf entries' facet := by
  rw [valuesOf, List.filter_append, List.map_append]
  rfl

theorem valuesOf_singleton (facet facet' : Facet) (value : α) :
    valuesOf [(facet, value)] facet' = if facet' = facet then [value] else [] := by
  by_cases h : facet = facet'
  · simp [valuesOf, h]
  · simp [valuesOf, h, Ne.symm h]

theorem eraseDups_concat {β : Type} [DecidableEq β] (bs : List β) (b : β) :
    (bs ++ [b]).eraseDups = if b ∈ bs then bs.eraseDups else bs.eraseDups ++ [b] := by
  rw [List.eraseDups_append]
  split
  · rename_i h
    simp [List.removeAll, h]
  · rename_i h
    simp [List.removeAll, h, List.eraseDups_cons]

theorem values_ofEntries (entries : List (Facet × α)) (facet : Facet) :
    (ofEntries entries).values facet = valuesOf entries facet := by
  induction entries using List.reverseRecOn with
  | nil => rfl
  | append_singleton entries entry ih =>
    obtain ⟨facet', value⟩ := entry
    rw [ofEntries_concat, values_add, valuesOf_append, valuesOf_singleton, ← ih]
    split
    · rename_i h
      rw [h]
    · rw [List.append_nil]

theorem facets_ofEntries (entries : List (Facet × α)) :
    (ofEntries entries).facets = (entries.map (·.1)).eraseDups := by
  induction entries using List.reverseRecOn with
  | nil => rfl
  | append_singleton entries entry ih =>
    obtain ⟨facet, value⟩ := entry
    rw [ofEntries_concat, facets_add, ih, List.map_append, List.map_singleton, eraseDups_concat]
    simp only [List.mem_eraseDups]

/-- More entries leave the groups where they are. -/
theorem facets_prefix_append (entries entries' : List (Facet × α)) :
    (ofEntries entries).facets <+: (ofEntries (entries ++ entries')).facets := by
  rw [facets_ofEntries, facets_ofEntries, List.map_append, List.eraseDups_append]
  exact List.prefix_append _ _

theorem groups_ofEntries (entries : List (Facet × α)) :
    (ofEntries entries).groups = gathered entries := by
  rw [groups_eq, facets_ofEntries]
  exact List.map_congr_left fun facet _ => by rw [values_ofEntries]

theorem groups_ofEntries_ne_nil_iff {entries : List (Facet × α)} :
    (ofEntries entries).groups ≠ [] ↔ entries ≠ [] := by
  rw [groups_ofEntries]
  rcases entries with _ | ⟨entry, entries⟩
  · simp [gathered]
  · simp [gathered, List.eraseDups_cons]

theorem mem_valuesOf {entries : List (Facet × α)} {facet : Facet} {value : α} :
    value ∈ valuesOf entries facet ↔ (facet, value) ∈ entries := by
  simp [valuesOf]

/-- Every group of a gathering has a value, and all of its values are entries. -/
theorem of_mem_gathered {entries : List (Facet × α)} {group : Facet × List α}
    (h : group ∈ gathered entries) :
    group.2 ≠ [] ∧ ∀ value ∈ group.2, (group.1, value) ∈ entries := by
  obtain ⟨facet, hfacet, rfl⟩ := List.mem_map.1 h
  obtain ⟨entry, hentry, rfl⟩ := List.mem_map.1 (List.mem_eraseDups.1 hfacet)
  refine ⟨List.ne_nil_of_mem (mem_valuesOf.2 hentry), fun value hvalue => ?_⟩
  exact mem_valuesOf.1 hvalue

theorem flat_changeGroup_perm (facet : Facet) (value : α) : ∀ groups : List (Facet × List α),
    ((changeGroup (· ++ [value]) facet groups).flatMap (·.2)).Perm
      (groups.flatMap (·.2) ++ [value])
  | [] => by simp [changeGroup]
  | (facet', values) :: groups => by
    rw [changeGroup]
    split
    · rw [List.flatMap_cons, List.flatMap_cons, List.append_assoc, List.append_assoc]
      exact List.Perm.append_left _ List.perm_append_comm
    · rw [List.flatMap_cons, List.flatMap_cons, List.append_assoc]
      exact List.Perm.append_left _ (flat_changeGroup_perm facet value groups)

theorem flat_add_perm (g : Grouped α) (facet : Facet) (value : α) :
    (g.add facet value).flat.Perm (g.flat ++ [value]) :=
  flat_changeGroup_perm facet value g.groups

/-- No value is dropped or doubled. -/
theorem flat_ofEntries_perm (entries : List (Facet × α)) :
    (ofEntries entries).flat.Perm (entries.map (·.2)) := by
  induction entries using List.reverseRecOn with
  | nil => exact .refl _
  | append_singleton entries entry ih =>
    obtain ⟨facet, value⟩ := entry
    rw [ofEntries_concat, List.map_append]
    exact (flat_add_perm _ facet value).trans (ih.append_right _)

end Grouped

end BoardQuery

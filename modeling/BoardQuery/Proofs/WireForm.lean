import BoardQuery.Proofs.Compact
import BoardQuery.Proofs.Gathered
import BoardQuery.Wire

/-!
# What the wire form keeps

The wire form of criteria tells the facets in their order, the text and the criteria, of which only
a label color reads like a name (`Criterion.toJson_eq_iff`). That of issues tells all
(`Issue.toJson_inj`). So two searches that are written alike ask for the same, label colors
apart, and have the same issues (`compact_eq_iff`).
-/

namespace BoardQuery

open Json

/-! ## Names -/

/-- A finite set of names in which every member is found by its name. -/
class LawfulNamed (α : Type) [Named α] : Prop where
  find?_name : ∀ a : α, Named.find? α (Named.name a) = some a

namespace LawfulNamed

theorem name_inj {α : Type} [Named α] [LawfulNamed α] {a b : α} :
    Named.name a = Named.name b ↔ a = b := by
  refine ⟨fun h => ?_, congrArg _⟩
  have hfind := congrArg (Named.find? α) h
  rw [find?_name, find?_name] at hfind
  exact Option.some.inj hfind

instance : LawfulNamed Facet := ⟨by rintro ⟨⟩ <;> rfl⟩

instance : LawfulNamed SortField := ⟨by rintro ⟨⟩ <;> rfl⟩

instance : LawfulNamed SortOrder := ⟨by rintro ⟨⟩ <;> rfl⟩

instance : LawfulNamed CardPart := ⟨by rintro ⟨⟩ <;> rfl⟩

instance : LawfulNamed Comparison := ⟨by rintro ⟨⟩ <;> rfl⟩

instance : LawfulNamed IssueKind := ⟨by rintro ⟨⟩ <;> rfl⟩

end LawfulNamed

theorem Facet.name_inj {facet facet' : Facet} : facet.name = facet'.name ↔ facet = facet' :=
  @LawfulNamed.name_inj Facet _ _ facet facet'

theorem IssueKind.tag_inj {kind kind' : IssueKind} : kind.tag = kind'.tag ↔ kind = kind' :=
  @LawfulNamed.name_inj IssueKind _ _ kind kind'

/-! ## Criteria and issues -/

/-- A criterion without the mark that tells a label color from a name. -/
def Criterion.unmarked : Criterion → Criterion
  | .color token => .named token
  | c => c

theorem Criterion.toJson_eq_iff {c d : Criterion} :
    c.toJson = d.toJson ↔ c.unmarked = d.unmarked := by
  cases c <;> cases d <;>
    simp [toJson, unmarked, LawfulNamed.name_inj, UInt32.toNat_inj]

theorem Issue.offenceToJson_inj {o o' : Offence} :
    offenceToJson o = offenceToJson o' ↔ o = o' := by
  cases o <;> cases o' <;> simp [offenceToJson]

theorem Issue.toJson_inj {i j : Issue} : i.toJson = j.toJson ↔ i = j := by
  obtain ⟨kind, offence, color⟩ := i
  obtain ⟨kind', offence', color'⟩ := j
  cases color <;> cases color' <;>
    simp [toJson, IssueKind.tag_inj, offenceToJson_inj]

/-! ## Groups -/

theorem map_eq_map_iff {α β γ : Type} {f : α → β} {g : α → γ}
    (h : ∀ a a', f a = f a' ↔ g a = g a') :
    ∀ as as' : List α, as.map f = as'.map f ↔ as.map g = as'.map g
  | [], [] => by simp
  | [], a' :: as' => by simp
  | a :: as, [] => by simp
  | a :: as, a' :: as' => by
    simp only [List.map_cons, List.cons.injEq, h a a', map_eq_map_iff h as as']

theorem map_pair_eq_iff {α β γ : Type} {name : α → β}
    (hname : ∀ a a', name a = name a' ↔ a = a') {f g : α → γ} :
    ∀ as as' : List α, as.map (fun a => (name a, f a)) = as'.map (fun a => (name a, g a)) ↔
      as = as' ∧ ∀ a ∈ as, f a = g a
  | [], [] => by simp
  | [], a' :: as' => by simp
  | a :: as, [] => by simp
  | a :: as, a' :: as' => by
    simp only [List.map_cons, List.cons.injEq, Prod.mk.injEq, hname, map_pair_eq_iff hname as as',
      List.forall_mem_cons]
    constructor
    · rintro ⟨⟨rfl, hfirst⟩, rfl, hrest⟩
      exact ⟨⟨rfl, rfl⟩, hfirst, hrest⟩
    · rintro ⟨⟨rfl, rfl⟩, hfirst, hrest⟩
      exact ⟨⟨rfl, hfirst⟩, rfl, hrest⟩

namespace Grouped

variable {α : Type}

theorem toJson_eq (toJson : α → Value) (g : Grouped α) :
    g.toJson toJson =
      .object (g.facets.map fun facet => (facet.name, .list ((g.values facet).map toJson))) := by
  rw [Grouped.toJson, groups_eq, List.map_map]
  rfl

/-- Groups are told by their written form as far as their values are. -/
theorem toJson_eq_iff {toJson : α → Value} {g h : Grouped α} :
    g.toJson toJson = h.toJson toJson ↔
      g.facets = h.facets
        ∧ ∀ facet, (g.values facet).map toJson = (h.values facet).map toJson := by
  rw [toJson_eq, toJson_eq, Value.object.injEq, map_pair_eq_iff fun _ _ => Facet.name_inj]
  refine and_congr_right fun hfacets => ?_
  simp only [Value.list.injEq]
  refine ⟨fun hvalues facet => ?_, fun hvalues facet _ => hvalues facet⟩
  by_cases hmem : facet ∈ g.facets
  · exact hvalues facet hmem
  · rw [values_eq_nil hmem, values_eq_nil (hfacets ▸ hmem)]

end Grouped

/-! ## The wire form -/

theorem Criteria.toJson_eq_iff {c d : Criteria} :
    c.toJson = d.toJson ↔ c.groups.facets = d.groups.facets ∧ c.text = d.text
      ∧ ∀ facet,
        (c.values facet).map Criterion.unmarked = (d.values facet).map Criterion.unmarked := by
  have hvalues : ∀ cs ds : List Criterion,
      cs.map Criterion.toJson = ds.map Criterion.toJson ↔
        cs.map Criterion.unmarked = ds.map Criterion.unmarked :=
    map_eq_map_iff fun _ _ => Criterion.toJson_eq_iff
  simp only [toJson, Value.object.injEq, List.cons.injEq, Prod.mk.injEq, true_and, and_true,
    Value.text.injEq, Grouped.toJson_eq_iff, hvalues]
  exact and_right_comm.trans and_assoc

theorem Issues.toJson_inj {i j : Issues} :
    Issues.toJson i = Issues.toJson j ↔ i.groups = j.groups := by
  have hvalues : ∀ facet,
      (i.values facet).map Issue.toJson = (j.values facet).map Issue.toJson ↔
        i.values facet = j.values facet :=
    fun facet => List.map_inj_right fun _ _ => Issue.toJson_inj.1
  unfold toJson
  simp only [Grouped.toJson_eq_iff, hvalues, Grouped.groups_eq_iff]

/-- Criteria are written alike if and only if they have the same facets in the same order, the same
text, and under each facet the same criteria but for the mark of label colors. Issues are written
alike if and only if their groups are the same. -/
theorem compact_eq_iff :
    (∀ c d : Criteria, c.toJson.compact = d.toJson.compact ↔
      c.groups.facets = d.groups.facets ∧ c.text = d.text
        ∧ ∀ facet,
          (c.values facet).map Criterion.unmarked = (d.values facet).map Criterion.unmarked)
    ∧ ∀ i j : Issues,
      (Issues.toJson i).compact = (Issues.toJson j).compact ↔ i.groups = j.groups :=
  ⟨fun _ _ => Value.compact_inj.trans Criteria.toJson_eq_iff,
    fun _ _ => Value.compact_inj.trans Issues.toJson_inj⟩

end BoardQuery

import BoardQuery.Facet

/-!
# Values grouped by facet

Groups stand in the order in which their facets were first written to, and values in the order in
which they were added. A facet has at most one group; a group may be empty.
-/

namespace BoardQuery

/-- Values grouped by facet, in order of first writing. -/
structure Grouped (α : Type) where
  groups : List (Facet × List α)
  nodup : (groups.map (·.1)).Nodup
deriving DecidableEq, Repr

namespace Grouped

variable {α : Type}

def empty : Grouped α := ⟨[], by simp⟩

/-- Changes the values of one facet, in a new last group if it has none. -/
def changeGroup (change : List α → List α) (facet : Facet) :
    List (Facet × List α) → List (Facet × List α)
  | [] => [(facet, change [])]
  | (facet', values) :: groups =>
    if facet' = facet then (facet', change values) :: groups
    else (facet', values) :: changeGroup change facet groups

theorem changeGroup_facets (change : List α → List α) (facet : Facet)
    (groups : List (Facet × List α)) :
    (changeGroup change facet groups).map (·.1) =
      if facet ∈ groups.map (·.1) then groups.map (·.1) else groups.map (·.1) ++ [facet] := by
  induction groups with
  | nil => simp [changeGroup]
  | cons group groups ih =>
    obtain ⟨facet', values⟩ := group
    by_cases h : facet' = facet
    · simp [changeGroup, h]
    · have h' : facet ≠ facet' := Ne.symm h
      simp only [changeGroup, h, if_false, List.map_cons, ih, List.mem_cons, h', false_or]
      split <;> simp

def change (g : Grouped α) (facet : Facet) (f : List α → List α) : Grouped α where
  groups := changeGroup f facet g.groups
  nodup := by
    rw [changeGroup_facets]
    split
    · exact g.nodup
    · next h =>
      rw [List.nodup_append]
      exact ⟨g.nodup, by simp, fun a ha b hb hab => h (by simp_all)⟩

/-- Adds a value at the end of its facet's group. -/
def add (g : Grouped α) (facet : Facet) (value : α) : Grouped α :=
  g.change facet (· ++ [value])

def set (g : Grouped α) (facet : Facet) (values : List α) : Grouped α :=
  g.change facet fun _ => values

def values (g : Grouped α) (facet : Facet) : List α :=
  (g.groups.lookup facet).getD []

/-- All values, group after group. -/
def flat (g : Grouped α) : List α :=
  g.groups.flatMap (·.2)

theorem lookup_changeGroup (f : List α → List α) (facet facet' : Facet)
    (groups : List (Facet × List α)) :
    (changeGroup f facet groups).lookup facet' =
      if facet' = facet then some (f ((groups.lookup facet).getD [])) else groups.lookup facet' := by
  induction groups with
  | nil =>
    by_cases h : facet' = facet
    · simp [changeGroup, h]
    · simp [changeGroup, List.lookup_cons, beq_false_of_ne h, h]
  | cons group groups ih =>
    obtain ⟨facet'', values⟩ := group
    simp only [changeGroup]
    by_cases h : facet'' = facet
    · subst h
      by_cases h' : facet' = facet''
      · simp [h']
      · simp [List.lookup_cons, beq_false_of_ne h', h']
    · by_cases h' : facet' = facet''
      · subst h'
        simp [h]
      · simp [h, List.lookup_cons, beq_false_of_ne h', beq_false_of_ne (Ne.symm h), ih]

theorem values_change (g : Grouped α) (facet facet' : Facet) (f : List α → List α) :
    (g.change facet f).values facet' =
      if facet' = facet then f (g.values facet) else g.values facet' := by
  simp only [values, change, lookup_changeGroup]
  split <;> rfl

@[simp]
theorem values_add (g : Grouped α) (facet facet' : Facet) (value : α) :
    (g.add facet value).values facet' =
      if facet' = facet then g.values facet ++ [value] else g.values facet' :=
  values_change g facet facet' _

@[simp]
theorem values_set (g : Grouped α) (facet facet' : Facet) (values : List α) :
    (g.set facet values).values facet' =
      if facet' = facet then values else g.values facet' :=
  values_change g facet facet' _

/-- Whether two groupings hold the same groups, in whatever order. -/
def same [DecidableEq α] (g h : Grouped α) : Bool :=
  g.groups.length == h.groups.length &&
    g.groups.all fun (facet, values) => h.groups.lookup facet == some values

end Grouped

end BoardQuery

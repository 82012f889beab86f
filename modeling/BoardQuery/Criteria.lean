import BoardQuery.Criterion
import BoardQuery.Grouped

/-!
# The criteria of a search

What a search asks for: criteria grouped by facet, and the free text. A facet keeps all of its
criteria, also where a reader of the result takes only the first.
-/

namespace BoardQuery

/-- The criteria and the free text of a search. -/
structure Criteria where
  groups : Grouped Criterion
  text : String
deriving DecidableEq, Repr

namespace Criteria

def empty : Criteria := ⟨.empty, ""⟩

/-- Adds a criterion after the ones that its facet has. -/
def add (c : Criteria) (facet : Facet) (criterion : Criterion) : Criteria :=
  { c with groups := c.groups.add facet criterion }

def set (c : Criteria) (facet : Facet) (criteria : List Criterion) : Criteria :=
  { c with groups := c.groups.set facet criteria }

/-- Adds free text, with a space between it and the text before it. -/
def addText (c : Criteria) (text : String) : Criteria :=
  { c with text := if c.text.isEmpty then text else c.text ++ " " ++ text }

def values (c : Criteria) (facet : Facet) : List Criterion :=
  c.groups.values facet

def first? (c : Criteria) (facet : Facet) : Option Criterion :=
  (c.values facet).head?

def has (c : Criteria) (facet : Facet) : Bool :=
  !(c.values facet).isEmpty

/-- The names to be looked up on the board, each with its facet. -/
def lookups (c : Criteria) : List (Facet × String) :=
  (c.groups.groups.filter (·.1.namesThings)).flatMap fun (facet, criteria) =>
    (criteria.filterMap Criterion.name?).map (facet, ·)

/-- Whether two searches ask for the same, whatever the order of their facets. -/
def same (c d : Criteria) : Bool :=
  c.groups.same d.groups && c.text == d.text

end Criteria

end BoardQuery

/-!
# The parts of a search text

A search text is a sequence of clauses, such as `label:red`, `#red` or `board:"Sprint 12"`, and of
free text between them.
-/

namespace BoardQuery

/-- A keyword with the value typed for it, quotes taken off. In a negated clause the first
character of the value is the negation mark. -/
structure Clause where
  keyword : String
  value : String
  negated : Bool
deriving DecidableEq, Repr

namespace Clause

/-- The mark that negates a clause when its value starts with it. -/
def negationMark : Char := '-'

/-- The clause of a keyword and a value as they are typed. -/
def typed (keyword value : String) : Clause :=
  ⟨keyword, value, value.toList.head? == some negationMark⟩

/-- The value without its negation mark. -/
def bareValue (clause : Clause) : String :=
  if clause.negated then String.ofList (clause.value.toList.drop 1) else clause.value

end Clause

inductive Token where
  | clause (clause : Clause)
  | text (text : String)
deriving DecidableEq, Repr

end BoardQuery

/-!
# Finite sets of names

The fixed notions of the query language each have one name that stands for them outside the
program, the same in every locale.
-/

namespace BoardQuery

/-- A finite type whose members have names. -/
class Named (α : Type) where
  /-- The members, in the order in which they are listed. -/
  all : List α
  name : α → String

/-- The member of a name. -/
def Named.find? (α : Type) [Named α] (name : String) : Option α :=
  (Named.all : List α).find? (Named.name · == name)

end BoardQuery

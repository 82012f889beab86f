import BoardQuery.Named

/-!
# Facets

A facet is one dimension in which a search can narrow down the cards of a board.
-/

namespace BoardQuery

/-- A dimension of the search. Clauses whose keyword is not understood belong to `unknown`. -/
inductive Facet where
  | board | swimlane | list | label | user | member | assignee | status
  | dueAt | createdAt | modifiedAt | comment | has | sort | limit | unknown
deriving DecidableEq, Repr

namespace Facet

def name : Facet → String
  | board => "board"
  | swimlane => "swimlane"
  | list => "list"
  | label => "label"
  | user => "user"
  | member => "member"
  | assignee => "assignee"
  | status => "status"
  | dueAt => "dueAt"
  | createdAt => "createdAt"
  | modifiedAt => "modifiedAt"
  | comment => "comment"
  | has => "has"
  | sort => "sort"
  | limit => "limit"
  | unknown => "unknown"

instance : Named Facet where
  all := [board, swimlane, list, label, user, member, assignee, status, dueAt, createdAt,
    modifiedAt, comment, has, sort, limit, unknown]
  name := name

/-- Whether the values of a facet name things of the board, which are looked up after reading. -/
def namesThings : Facet → Bool
  | board | swimlane | list | label | user | member | assignee | comment => true
  | _ => false

def isDate : Facet → Bool
  | dueAt | createdAt | modifiedAt => true
  | _ => false

end Facet

end BoardQuery

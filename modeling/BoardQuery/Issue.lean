import BoardQuery.Criteria

/-!
# Issues of a search

What is wrong with a search is kept as a cause and the text it concerns. Its wording comes from a
phrasebook, where each kind of issue has a tag.
-/

namespace BoardQuery

/-- The kinds of issue. The first six arise when clauses are read, the others when a name is not
found on the board. -/
inductive IssueKind where
  | unknownKeyword | numberExpected | sortInvalid | statusInvalid | hasInvalid | limitInvalid
  | boardNotFound | swimlaneNotFound | listNotFound | labelNotFound | labelColorNotFound
  | userNotFound | commentNotFound
deriving DecidableEq, Repr

namespace IssueKind

/-- The tag under which a phrasebook words a kind of issue. -/
def tag : IssueKind → String
  | unknownKeyword => "operator-unknown-error"
  | numberExpected => "operator-number-expected"
  | sortInvalid => "operator-sort-invalid"
  | statusInvalid => "operator-status-invalid"
  | hasInvalid => "operator-has-invalid"
  | limitInvalid => "operator-limit-invalid"
  | boardNotFound => "board-title-not-found"
  | swimlaneNotFound => "swimlane-title-not-found"
  | listNotFound => "list-title-not-found"
  | labelNotFound => "label-not-found"
  | labelColorNotFound => "label-color-not-found"
  | userNotFound => "user-username-not-found"
  | commentNotFound => "comment-not-found"

instance : Named IssueKind where
  all := [unknownKeyword, numberExpected, sortInvalid, statusInvalid, hasInvalid, limitInvalid,
    boardNotFound, swimlaneNotFound, listNotFound, labelNotFound, labelColorNotFound,
    userNotFound, commentNotFound]
  name := tag

/-- The kind of issue that a name is which is not found for a facet. Labels are told apart further
by whether the name is a color. -/
def notFound? : Facet → Option IssueKind
  | .board => some boardNotFound
  | .swimlane => some swimlaneNotFound
  | .list => some listNotFound
  | .label => some labelNotFound
  | .comment => some commentNotFound
  | .user | .assignee | .member => some userNotFound
  | _ => none

end IssueKind

/-- The text that an issue concerns: a text alone, or a keyword with the value it refused. -/
inductive Offence where
  | text (text : String)
  | clause (keyword value : String)
deriving DecidableEq, Repr

/-- An issue of a search. For a label that was not found, `color` tells whether it is a color. -/
structure Issue where
  kind : IssueKind
  offence : Offence
  color : Option Bool
deriving DecidableEq, Repr

abbrev Issues := Grouped Issue

end BoardQuery

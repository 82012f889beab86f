import BoardQuery.Phrasebook

/-!
# The English phrasebook

The wording that a locale's own phrases are put over.
-/

namespace BoardQuery

namespace Phrasebook

def englishKeywords : List (String × String) := [
  ("operator-board", "board"),
  ("operator-board-abbrev", "b"),
  ("operator-swimlane", "swimlane"),
  ("operator-swimlane-abbrev", "s"),
  ("operator-list", "list"),
  ("operator-list-abbrev", "l"),
  ("operator-label", "label"),
  ("operator-label-abbrev", "#"),
  ("operator-user", "user"),
  ("operator-user-abbrev", "@"),
  ("operator-member", "member"),
  ("operator-member-abbrev", "m"),
  ("operator-assignee", "assignee"),
  ("operator-assignee-abbrev", "a"),
  ("operator-status", "status"),
  ("operator-due", "due"),
  ("operator-created", "created"),
  ("operator-modified", "modified"),
  ("operator-comment", "comment"),
  ("operator-has", "has"),
  ("operator-sort", "sort"),
  ("operator-limit", "limit")]

def englishValues : List (String × String) := [
  ("predicate-archived", "archived"),
  ("predicate-all", "all"),
  ("predicate-open", "open"),
  ("predicate-ended", "ended"),
  ("predicate-public", "public"),
  ("predicate-private", "private"),
  ("predicate-overdue", "overdue"),
  ("predicate-week", "week"),
  ("predicate-month", "month"),
  ("predicate-quarter", "quarter"),
  ("predicate-year", "year"),
  ("predicate-due", "due"),
  ("predicate-created", "created"),
  ("predicate-modified", "modified"),
  ("predicate-description", "description"),
  ("predicate-checklist", "checklist"),
  ("predicate-attachment", "attachment"),
  ("predicate-start", "start"),
  ("predicate-end", "end"),
  ("predicate-assignee", "assignee"),
  ("predicate-member", "member")]

def englishColors : List (String × String) := [
  ("color-white", "white"),
  ("color-green", "green"),
  ("color-yellow", "yellow"),
  ("color-orange", "orange"),
  ("color-red", "red"),
  ("color-purple", "purple"),
  ("color-blue", "blue"),
  ("color-sky", "sky"),
  ("color-lime", "lime"),
  ("color-pink", "pink"),
  ("color-black", "black"),
  ("color-silver", "silver"),
  ("color-peachpuff", "peachpuff"),
  ("color-crimson", "crimson"),
  ("color-plum", "plum"),
  ("color-darkgreen", "darkgreen"),
  ("color-slateblue", "slateblue"),
  ("color-magenta", "magenta"),
  ("color-gold", "gold"),
  ("color-navy", "navy"),
  ("color-gray", "gray"),
  ("color-saddlebrown", "saddlebrown"),
  ("color-paleturquoise", "paleturquoise"),
  ("color-mistyrose", "mistyrose"),
  ("color-indigo", "indigo")]

def englishMessages : List (String × String) := [
  ("operator-unknown-error", "%s is not an operator"),
  ("operator-number-expected", "operator __operator__ expected a number, got '__value__'"),
  ("operator-sort-invalid", "sort of '%s' is invalid"),
  ("operator-status-invalid", "'%s' is not a valid status"),
  ("operator-has-invalid", "%s is not a valid existence check"),
  ("operator-limit-invalid", "%s is not a valid limit.  Limit should be a positive integer."),
  ("board-title-not-found", "Board '%s' not found."),
  ("swimlane-title-not-found", "Swimlane '%s' not found."),
  ("list-title-not-found", "List '%s' not found."),
  ("label-not-found", "Label '%s' not found."),
  ("label-color-not-found", "Label color %s not found."),
  ("user-username-not-found", "Username '%s' not found."),
  ("comment-not-found", "Card with comment containing text '%s' not found.")]

def english : Phrasebook :=
  .ofList (englishKeywords ++ englishValues ++ englishColors ++ englishMessages)

end Phrasebook

end BoardQuery

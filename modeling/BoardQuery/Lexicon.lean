import BoardQuery.Calendar.Rollover
import BoardQuery.Criterion
import BoardQuery.Facet
import BoardQuery.Palette
import BoardQuery.Text.Blank
import BoardQuery.Text.Lowercase

/-!
# Lexicons

A lexicon tells what the words of a search mean in one locale. Words are compared in small letters
and without the blanks at their ends. Where two tags have the same wording the later one in its
table counts, and a tag with a blank wording cannot be typed. The two sigils keep their meaning in
every locale.
-/

namespace BoardQuery

open Text

/-- What can be said of a due date besides a number of days and a period. -/
inductive DueWord where
  | overdue
deriving DecidableEq, Repr

instance : Named DueWord where
  all := [.overdue]
  name
    | .overdue => "overdue"

/-- What the words of a search mean: a table for each place in which a word can stand. -/
structure Lexicon where
  facets : SortedMap Facet
  dueWords : SortedMap DueWord
  periods : SortedMap Calendar.Period
  statuses : SortedMap Status
  sortFields : SortedMap SortField
  parts : SortedMap CardPart
  colors : SortedMap String
deriving DecidableEq, Repr

namespace Lexicon

/-! ## Tags -/

def facetTags : List (String × Facet) := [
  ("operator-board", .board),
  ("operator-board-abbrev", .board),
  ("operator-swimlane", .swimlane),
  ("operator-swimlane-abbrev", .swimlane),
  ("operator-list", .list),
  ("operator-list-abbrev", .list),
  ("operator-label", .label),
  ("operator-label-abbrev", .label),
  ("operator-user", .user),
  ("operator-user-abbrev", .user),
  ("operator-member", .member),
  ("operator-member-abbrev", .member),
  ("operator-assignee", .assignee),
  ("operator-assignee-abbrev", .assignee),
  ("operator-status", .status),
  ("operator-due", .dueAt),
  ("operator-created", .createdAt),
  ("operator-modified", .modifiedAt),
  ("operator-comment", .comment),
  ("operator-has", .has),
  ("operator-sort", .sort),
  ("operator-limit", .limit)]

/-- The sigils, which mean the same in every locale. -/
def sigils : List (String × Facet) :=
  [("#", .label), ("@", .user)]

def dueWordTags : List (String × DueWord) :=
  [("predicate-overdue", .overdue)]

def periodTags : List (String × Calendar.Period) := [
  ("predicate-week", .week),
  ("predicate-month", .month),
  ("predicate-quarter", .quarter),
  ("predicate-year", .year)]

def statusTags : List (String × Status) := [
  ("predicate-archived", .archived),
  ("predicate-all", .all),
  ("predicate-open", .open),
  ("predicate-ended", .ended),
  ("predicate-public", .public),
  ("predicate-private", .private)]

def sortFieldTags : List (String × SortField) := [
  ("predicate-due", .dueAt),
  ("predicate-created", .createdAt),
  ("predicate-modified", .modifiedAt)]

def partTags : List (String × CardPart) := [
  ("predicate-description", .description),
  ("predicate-checklist", .checklist),
  ("predicate-attachment", .attachment),
  ("predicate-start", .startAt),
  ("predicate-end", .endAt),
  ("predicate-due", .dueAt),
  ("predicate-assignee", .assignees),
  ("predicate-member", .members)]

/-! ## Tables -/

variable {α : Type} (wording : String → String)

/-- The word by which a wording is typed. -/
def word (text : String) : String :=
  lower (String.ofList (trim text.toList))

/-- Adds a tag to a table by its word, unless its wording is blank. -/
def enter (table : SortedMap α) (entry : String × α) : SortedMap α :=
  if (word (wording entry.1)).isEmpty then table
  else table.insert (word (wording entry.1)) entry.2

/-- The table of some tags in a locale's wording. -/
def table (tags : List (String × α)) : SortedMap α :=
  tags.foldl (enter wording) .empty

/-- The table of keywords, with the sigils put over it. -/
def facetTable : SortedMap Facet :=
  (table wording facetTags).overlay (.ofList sigils)

/-- The table of color names, given the token of each display name. Of two display names that
differ only in capitals the later in ascending order counts. -/
def colorTable (names : SortedMap String) : SortedMap String :=
  .ofList (names.entries.map fun (name, token) => (lower name, token))

/-- The lexicon of a locale's wording and of the display names of its label colors. -/
def ofWording (colorNames : SortedMap String) : Lexicon where
  facets := facetTable wording
  dueWords := table wording dueWordTags
  periods := table wording periodTags
  statuses := table wording statusTags
  sortFields := table wording sortFieldTags
  parts := table wording partTags
  colors := colorTable colorNames

/-! ## Meanings -/

/-- The facet of a keyword that is in small letters already. -/
def facet? (l : Lexicon) (keyword : String) : Option Facet :=
  l.facets.get? keyword

def dueWord? (l : Lexicon) (value : String) : Option DueWord :=
  l.dueWords.get? (lower value)

def period? (l : Lexicon) (value : String) : Option Calendar.Period :=
  l.periods.get? (lower value)

def status? (l : Lexicon) (value : String) : Option Status :=
  l.statuses.get? (lower value)

def sortField? (l : Lexicon) (value : String) : Option SortField :=
  l.sortFields.get? (lower value)

def part? (l : Lexicon) (value : String) : Option CardPart :=
  l.parts.get? (lower value)

/-- The token of the label color that has a display name. -/
def color? (l : Lexicon) (value : String) : Option String :=
  l.colors.get? (lower value)

end Lexicon

end BoardQuery

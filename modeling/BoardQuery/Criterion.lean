import BoardQuery.Named

/-!
# Criteria of a search

A criterion is one constraint on a facet of a card. Which kinds of criterion a facet has is decided
where clauses are read; the type allows every kind under every facet.
-/

namespace BoardQuery

/-- The state in which a card or its board is. -/
inductive Status where
  | archived | all | «open» | ended | «public» | «private»
deriving DecidableEq, Repr

instance : Named Status where
  all := [.archived, .all, .open, .ended, .public, .private]
  name
    | .archived => "archived"
    | .all => "all"
    | .open => "open"
    | .ended => "ended"
    | .public => "public"
    | .private => "private"

/-- A date of the card by which results are ordered. -/
inductive SortField where
  | dueAt | createdAt | modifiedAt
deriving DecidableEq, Repr

instance : Named SortField where
  all := [.dueAt, .createdAt, .modifiedAt]
  name
    | .dueAt => "dueAt"
    | .createdAt => "createdAt"
    | .modifiedAt => "modifiedAt"

/-- Whether the earliest or the latest date comes first. -/
inductive SortOrder where
  | ascending | descending
deriving DecidableEq, Repr

instance : Named SortOrder where
  all := [.ascending, .descending]
  name
    | .ascending => "asc"
    | .descending => "desc"

/-- A part of a card that it may lack. -/
inductive CardPart where
  | description | checklist | attachment | startAt | endAt | dueAt | assignees | members
deriving DecidableEq, Repr

instance : Named CardPart where
  all := [.description, .checklist, .attachment, .startAt, .endAt, .dueAt, .assignees, .members]
  name
    | .description => "description"
    | .checklist => "checklist"
    | .attachment => "attachment"
    | .startAt => "startAt"
    | .endAt => "endAt"
    | .dueAt => "dueAt"
    | .assignees => "assignees"
    | .members => "members"

/-- On which side of a bound a date lies. -/
inductive Comparison where
  | before | notBefore
deriving DecidableEq, Repr

instance : Named Comparison where
  all := [.before, .notBefore]
  name
    | .before => "$lt"
    | .notBefore => "$gte"

/-- One constraint on a facet. -/
inductive Criterion where
  /-- A bound on a date, which is written as a calendar date or as a timestamp. -/
  | bound (comparison : Comparison) (date : String)
  | order (field : SortField) (order : SortOrder)
  | part (part : CardPart) (present : Bool)
  /-- A name, as it was typed. -/
  | named (name : String)
  | count (count : UInt32)
  /-- A label color, by its token. -/
  | color (token : String)
deriving DecidableEq, Repr

/-- The name that a criterion holds, a label color's token included. -/
def Criterion.name? : Criterion → Option String
  | .named name => some name
  | .color token => some token
  | _ => none

end BoardQuery

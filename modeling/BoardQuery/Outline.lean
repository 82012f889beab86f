import BoardQuery.Query
import BoardQuery.Text.Literal

/-!
# Outlines

A query on one line for the journal: every record by its name with its fields in braces, every
choice by its name with what it holds in parentheses, and texts as literals.
-/

namespace BoardQuery

open Text

namespace Outline

def commas (parts : List String) : String :=
  ", ".intercalate parts

def record (name : String) (fields : List (String × String)) : String :=
  name ++ " \x7b " ++ commas (fields.map fun (field, value) => field ++ ": " ++ value) ++ " \x7d"

/-- A record of which one field is shown. -/
def recordPart (name field value : String) : String :=
  name ++ " \x7b " ++ field ++ ": " ++ value ++ ", .. \x7d"

def choice (name value : String) : String :=
  name ++ "(" ++ value ++ ")"

def list (items : List String) : String :=
  "[" ++ commas items ++ "]"

def map (entries : List (String × String)) : String :=
  "\x7b" ++ commas (entries.map fun (key, value) => key ++ ": " ++ value) ++ "\x7d"

def truth (b : Bool) : String :=
  if b then "true" else "false"

def option : Option String → String
  | some value => choice "Some" value
  | none => "None"

end Outline

open Outline

def Facet.outline : Facet → String
  | board => "Board"
  | swimlane => "Swimlane"
  | list => "List"
  | label => "Label"
  | user => "User"
  | member => "Member"
  | assignee => "Assignee"
  | status => "Status"
  | dueAt => "Due"
  | createdAt => "CreatedAt"
  | modifiedAt => "ModifiedAt"
  | comment => "Comment"
  | has => "Has"
  | sort => "Sort"
  | limit => "Limit"
  | unknown => "Unknown"

def Comparison.outline : Comparison → String
  | before => "Lt"
  | notBefore => "Gte"

def SortField.outline : SortField → String
  | dueAt => "DueAt"
  | createdAt => "CreatedAt"
  | modifiedAt => "ModifiedAt"

def SortOrder.outline : SortOrder → String
  | ascending => "Ascending"
  | descending => "Descending"

def CardPart.outline : CardPart → String
  | description => "Description"
  | checklist => "Checklist"
  | attachment => "Attachment"
  | startAt => "StartAt"
  | endAt => "EndAt"
  | dueAt => "DueAt"
  | assignees => "Assignees"
  | members => "Members"

def Criterion.outline : Criterion → String
  | .bound comparison date =>
    record "Range" [("comparator", comparison.outline), ("date", literal date)]
  | .order field direction =>
    record "Sort" [("field", field.outline), ("order", direction.outline)]
  | .part field present =>
    record "Has" [("field", field.outline), ("exists", truth present)]
  | .named s => choice "Scalar" (literal s)
  | .count n => choice "IntegerBound" (toString n.toNat)
  | .color token => choice "ColorLabel" (literal token)

/-- Groups as a map from facets to lists. -/
def Grouped.outline {α : Type} (outline : α → String) (g : Grouped α) : String :=
  map (g.groups.map fun (facet, values) => (facet.outline, Outline.list (values.map outline)))

def Criteria.outline (c : Criteria) : String :=
  record "QueryParams" [("params", c.groups.outline Criterion.outline), ("text", literal c.text)]

def IssueKind.outline : IssueKind → String
  | unknownKeyword => "UnknownOperator"
  | numberExpected => "NumberExpected"
  | sortInvalid => "SortInvalid"
  | statusInvalid => "StatusInvalid"
  | hasInvalid => "HasInvalid"
  | limitInvalid => "LimitInvalid"
  | boardNotFound => "BoardNotFound"
  | swimlaneNotFound => "SwimlaneNotFound"
  | listNotFound => "ListNotFound"
  | labelNotFound => "LabelNotFound"
  | labelColorNotFound => "LabelColorNotFound"
  | userNotFound => "UserNotFound"
  | commentNotFound => "CommentNotFound"

def Offence.outline : Offence → String
  | text typed => choice "Text" (literal typed)
  | clause keyword value =>
    record "OperatorValue" [("operator", literal keyword), ("value", literal value)]

def Issue.outline (issue : Issue) : String :=
  record "QueryError" [
    ("tag", issue.kind.outline),
    ("value", issue.offence.outline),
    ("color", option (issue.color.map truth))]

def Issues.outline (issues : Issues) : String :=
  recordPart "QueryErrors" "errors" (Grouped.outline Issue.outline issues)

def Query.outline (q : Query) : String :=
  record "Query" [("params", q.criteria.outline), ("errors", Issues.outline q.issues)]

def Clause.outline (c : Clause) : String :=
  record "OperatorToken" [
    ("keyword", literal c.keyword),
    ("value", literal c.value),
    ("negated", truth c.negated)]

def Token.outline : Token → String
  | clause c => choice "Operator" c.outline
  | text s => choice "Text" (literal s)

end BoardQuery

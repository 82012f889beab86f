import BoardQuery.Issue
import BoardQuery.Json.Value
import BoardQuery.Settings

/-!
# The wire form

Criteria and issues as JSON for the programs that run the search, and settings as JSON for the files
that keep them. A label color is written as its token alone, so it reads like a name.
-/

namespace BoardQuery

open Json

/-- The members of groups, by the names of their facets. -/
def Grouped.toJson {α : Type} (toJson : α → Value) (g : Grouped α) : Value :=
  .object (g.groups.map fun (facet, values) => (facet.name, .list (values.map toJson)))

namespace Criterion

def toJson : Criterion → Value
  | .bound comparison date =>
    .object [("operator", .text (Named.name comparison)), ("value", .text date)]
  | .order field direction =>
    .object [("name", .text (Named.name field)), ("order", .text (Named.name direction))]
  | .part field present =>
    .object [("field", .text (Named.name field)), ("exists", .truth present)]
  | .named s => .text s
  | .count n => .number n.toNat
  | .color token => .text token

end Criterion

namespace Criteria

def toJson (c : Criteria) : Value :=
  .object [("params", c.groups.toJson Criterion.toJson), ("text", .text c.text)]

end Criteria

namespace Issue

def offenceToJson : Offence → Value
  | .text text => .text text
  | .clause keyword value => .object [("operator", .text keyword), ("value", .text value)]

def toJson (issue : Issue) : Value :=
  .object ([("tag", .text issue.kind.tag), ("value", offenceToJson issue.offence)] ++
    (issue.color.map fun color => ("color", Value.truth color)).toList)

end Issue

namespace Issues

def toJson (issues : Issues) : Value :=
  Grouped.toJson Issue.toJson issues

end Issues

namespace Settings

def toJson (settings : Settings) : Value :=
  .object [("language", .text settings.language),
    ("keywords", .object (settings.wordings.entries.map fun (tag, text) => (tag, .text text))),
    ("label_colors", .list (settings.labelColors.map .text))]

end Settings

end BoardQuery

import BoardQuery.Calendar.Shift
import BoardQuery.Calendar.Written
import BoardQuery.Issue
import BoardQuery.Lexicon
import BoardQuery.Token

/-!
# Reading a clause

A clause is read by its keyword: the keyword tells the facet, and the facet how the value is to be
understood. What comes of it is one criterion or one issue.
-/

namespace BoardQuery

open Text Calendar

/-- What a clause is read as: a criterion of a facet, or an issue in a facet's group. -/
inductive Reading where
  | criterion (facet : Facet) (criterion : Criterion)
  | issue (facet : Facet) (issue : Issue)
deriving DecidableEq, Repr

namespace Reading

/-- The reading of a value that may have been understood, with the issue there is otherwise. -/
def ofOption (facet : Facet) (understood : Option Criterion) (group : Facet) (kind : IssueKind)
    (offence : Offence) : Reading :=
  match understood with
  | some c => .criterion facet c
  | none => .issue group ⟨kind, offence, none⟩

end Reading

/-- A number of days as a bound: due within the days to come, or created or modified within the
days gone by. -/
def Calendar.Anchor.daysBound? (anchor : Anchor) (facet : Facet) (days : UInt32) :
    Option Criterion :=
  if facet = .dueAt then
    ((fitting? (days.toNat + 1)).bind (anchor.dayAway? · .day .forward)).map fun m =>
      .bound .before m.written
  else
    (anchor.dayAway? days.toNat .day .backward).map fun m => .bound .notBefore m.written

namespace Lexicon

/-- The bound that the value of a date clause sets: a number of days, or a period, or a word that
only a due date can have. -/
def readDate? (l : Lexicon) (anchor : Anchor) (facet : Facet) (value : String) :
    Option Criterion :=
  match readCount? value.toList with
  | some days => anchor.daysBound? facet days
  | none =>
    match l.period? value with
    | some period => (anchor.today.rollover period).map fun d => .bound .before d.written
    | none =>
      if facet = .dueAt ∧ l.dueWord? value = some .overdue then
        some (.bound .before anchor.today.written)
      else none

/-- The limit that a value sets, a whole number from 1 on. -/
def readLimit? (value : String) : Option Criterion :=
  (readSignedCount? value.toList).bind fun count =>
    if count = 0 then none else some (.count count)

/-- The label that a value asks for: a color if it is the name of one. -/
def readLabel (l : Lexicon) (value : String) : Criterion :=
  match l.color? value with
  | some token => .color token
  | none => .named value

/-- The reading of a clause whose keyword means a facet. Issues with dates are grouped under the
due date, whichever date the clause is about. -/
def readValue (l : Lexicon) (anchor : Anchor) (facet : Facet) (keyword : String)
    (clause : Clause) : Reading :=
  match facet with
  | .label => .criterion .label (l.readLabel clause.value)
  | .sort =>
    .ofOption .sort
      ((l.sortField? clause.bareValue).map fun field =>
        .order field (if clause.negated then .descending else .ascending))
      .sort .sortInvalid (.text clause.bareValue)
  | .status =>
    .ofOption .status ((l.status? clause.value).map fun status => .named (Named.name status))
      .status .statusInvalid (.text clause.value)
  | .has =>
    .ofOption .has ((l.part? clause.bareValue).map fun part => .part part (!clause.negated))
      .has .hasInvalid (.text clause.bareValue)
  | .limit =>
    .ofOption .limit (readLimit? clause.value) .limit .limitInvalid (.text clause.value)
  | .dueAt | .createdAt | .modifiedAt =>
    .ofOption facet (l.readDate? anchor facet clause.value)
      .dueAt .numberExpected (.clause keyword clause.value)
  | _ => .criterion facet (.named clause.value)

def read (l : Lexicon) (anchor : Anchor) (clause : Clause) : Reading :=
  let keyword := lower clause.keyword
  match l.facet? keyword with
  | some facet => l.readValue anchor facet keyword clause
  | none => .issue .unknown ⟨.unknownKeyword, .text keyword, none⟩

end Lexicon

end BoardQuery

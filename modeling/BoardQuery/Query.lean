import BoardQuery.Failure
import BoardQuery.Palette
import BoardQuery.Reading

/-!
# Queries

A query is what a search text has been read as: what it asks for, and what is wrong with it. Names
in it are looked up on the board later, and the ones that are not there are reported back.
-/

namespace BoardQuery

/-- The issue of a name that was not found for a facet, if values of the facet name things. -/
def Issue.notFound? (palette : Palette) (facet : Facet) (name : String) : Option Issue :=
  match facet with
  | .label =>
    if palette.isColor name then some ⟨.labelColorNotFound, .text name, some true⟩
    else some ⟨.labelNotFound, .text name, some false⟩
  | _ => (IssueKind.notFound? facet).map fun kind => ⟨kind, .text name, none⟩

/-- Adds the issue of a name that was not found for a facet. -/
def Issues.addNotFound (issues : Issues) (palette : Palette) (facet : Facet) (name : String) :
    Except Failure Issues :=
  match Issue.notFound? palette facet name with
  | some issue => .ok (issues.add facet issue)
  | none => .error (.namesNothing facet)

/-- What a search asks for, and what is wrong with it. -/
structure Query where
  criteria : Criteria
  issues : Issues
deriving DecidableEq, Repr

namespace Query

def empty : Query := ⟨.empty, .empty⟩

def add (q : Query) (facet : Facet) (criterion : Criterion) : Query :=
  { q with criteria := q.criteria.add facet criterion }

def addReading (q : Query) : Reading → Query
  | .criterion facet criterion => q.add facet criterion
  | .issue facet issue => { q with issues := q.issues.add facet issue }

/-- Adds free text, unless there is none. -/
def addText (q : Query) (text : String) : Query :=
  if text.isEmpty then q else { q with criteria := q.criteria.addText text }

def reportNotFound (q : Query) (palette : Palette) (facet : Facet) (name : String) :
    Except Failure Query :=
  (q.issues.addNotFound palette facet name).map fun issues => { q with issues := issues }

/-- The names to be looked up on the board, each with its facet. -/
def lookups (q : Query) : List (Facet × String) :=
  q.criteria.lookups

/-- Reports that none of the names of a query was found. -/
def reportAllNotFound (q : Query) (palette : Palette) : Except Failure Query :=
  q.lookups.foldlM (fun q (facet, name) => q.reportNotFound palette facet name) q

end Query

namespace Lexicon

/-- Adds a token of a search text to the query of the tokens before it. -/
def addToken (l : Lexicon) (anchor : Calendar.Anchor) (q : Query) : Token → Query
  | .clause clause => q.addReading (l.read anchor clause)
  | .text text => q.addText text

/-- The query of a search text. Whatever is wrong with one clause leaves the others as they are. -/
def query (l : Lexicon) (anchor : Calendar.Anchor) (tokens : List Token) : Query :=
  tokens.foldl (l.addToken anchor) .empty

end Lexicon

end BoardQuery

import BoardQuery.Outline
import BoardQuery.SearchBox

/-!
# The journal

What is worth noting while a search box is made and while it reads a text. A keyword that cannot
be typed, or that takes over the meaning of another, is worth a warning.
-/

namespace BoardQuery

open Text

inductive Level where
  | debug | info | warn
deriving DecidableEq, Repr

instance : Named Level where
  all := [.debug, .info, .warn]
  name
    | .debug => "debug"
    | .info => "info"
    | .warn => "warn"

inductive Remark where
  /-- A tag has no wording. -/
  | unworded (tag : String)
  /-- The wording of a tag is blank. -/
  | blank (tag : String)
  /-- The word of a tag had another meaning before. -/
  | shadowing (word tag : String)
  | token (token : Token)
  | criteria (criteria : Criteria)
  | loaded (language path : String)
deriving DecidableEq, Repr

namespace Remark

def level : Remark → Level
  | blank _ | shadowing _ _ => .warn
  | loaded _ _ => .info
  | _ => .debug

def message : Remark → String
  | .unworded tag => "no translation for tag " ++ literal tag
  | .blank tag => "keyword for " ++ literal tag ++ " is empty; it cannot be typed"
  | .shadowing word tag =>
    "keyword " ++ literal word ++ " for " ++ literal tag ++ " shadows an earlier entry"
  | .token t => "query token: " ++ t.outline
  | .criteria c => "query params: " ++ c.outline
  | .loaded language path =>
    "loaded search config for language " ++ literal language ++ " from " ++ path

end Remark

namespace Phrasebook

/-- The remarks about looking up the wording of a tag. -/
def remarks (p : Phrasebook) (tag : String) : List Remark :=
  if (p.phrases.get? tag).isSome then [] else [.unworded tag]

end Phrasebook

namespace Lexicon

variable {α : Type} [DecidableEq α]

/-- The remarks about adding a tag to a table. -/
def entryRemarks (p : Phrasebook) (table : SortedMap α) (entry : String × α) : List Remark :=
  let word := word (p.wording entry.1)
  p.remarks entry.1 ++
    if word.isEmpty then [.blank entry.1]
    else
      match table.get? word with
      | some before => if before = entry.2 then [] else [.shadowing word entry.1]
      | none => []

/-- The remarks about adding tags to a table one after the other. -/
def remarksFrom (p : Phrasebook) (table : SortedMap α) : List (String × α) → List Remark
  | [] => []
  | entry :: entries =>
    entryRemarks p table entry ++ remarksFrom p (enter p.wording table entry) entries

/-- The remarks about making the table of some tags. -/
def tableRemarks (p : Phrasebook) (tags : List (String × α)) : List Remark :=
  remarksFrom p .empty tags

/-- The remarks about making the lexicon of a phrasebook. The sigils are put over its keywords
without a remark. -/
def remarks (p : Phrasebook) : List Remark :=
  tableRemarks p facetTags ++ tableRemarks p dueWordTags ++ tableRemarks p periodTags ++
    tableRemarks p statusTags ++ tableRemarks p sortFieldTags ++ tableRemarks p partTags

end Lexicon

namespace SearchBox

def remarks (box : SearchBox) : List Remark :=
  box.palette.tokens.flatMap (box.phrasebook.remarks <| Palette.tag ·) ++
    Lexicon.remarks box.phrasebook

/-- The remarks about reading a text: its tokens, and what it asks for. -/
def readRemarks (box : SearchBox) (anchor : Calendar.Anchor) (text : String) : List Remark :=
  (Token.scan text).map .token ++ [.criteria (box.read anchor text).criteria]

end SearchBox

namespace Settings

/-- The remark about settings that were read from a file. -/
def remark (settings : Settings) (path : String) : Remark :=
  .loaded settings.language path

end Settings

end BoardQuery

import BoardQuery.Issue
import BoardQuery.SortedMap
import BoardQuery.Text.Substitute

/-!
# Phrasebooks

A phrasebook words the tags of keywords, values, colors and messages in one locale. A tag that it
does not word stands for itself.
-/

namespace BoardQuery

open Text

/-- The wording of tags in a locale. -/
structure Phrasebook where
  phrases : SortedMap String
deriving DecidableEq, Repr

/-- Puts the offending text into the placeholders of a message. They are filled one after the
other, so a placeholder within a text that was put in is filled too. -/
def Offence.fill (template : String) : Offence → String
  | .text typed => substitute "%s" typed template
  | .clause keyword value =>
    substitute "%s" value
      (substitute "__value__" value (substitute "__operator__" keyword template))

namespace Phrasebook

def ofList (phrases : List (String × String)) : Phrasebook :=
  ⟨.ofList phrases⟩

/-- A phrasebook with other wordings put over its own. -/
def overlay (p : Phrasebook) (upper : SortedMap String) : Phrasebook :=
  ⟨p.phrases.overlay upper⟩

def wording (p : Phrasebook) (tag : String) : String :=
  (p.phrases.get? tag).getD tag

/-- The message of a tag about an offending text. -/
def message (p : Phrasebook) (tag : String) (offence : Offence) : String :=
  offence.fill (p.wording tag)

/-- The messages of the issues of a search, in their order. -/
def messages (p : Phrasebook) (issues : Issues) : List String :=
  issues.flat.map fun issue => p.message issue.kind.tag issue.offence

end Phrasebook

end BoardQuery

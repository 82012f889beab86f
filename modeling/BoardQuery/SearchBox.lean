import BoardQuery.Query
import BoardQuery.Settings
import BoardQuery.Token.Scan

/-!
# Search boxes

A search box reads search texts in one locale. It is made of a phrasebook and the label colors of
the board, once and for all; every text is read on its own.
-/

namespace BoardQuery

/-- The means by which search texts are read and their issues worded. -/
structure SearchBox where
  phrasebook : Phrasebook
  palette : Palette
  lexicon : Lexicon
deriving DecidableEq, Repr

namespace SearchBox

/-- The search box of a phrasebook and a palette. -/
def of (phrasebook : Phrasebook) (palette : Palette) : SearchBox where
  phrasebook := phrasebook
  palette := palette
  lexicon := .ofWording phrasebook.wording palette.names

/-- The search box of settings that are not checked. -/
def ofSettings (settings : Settings) : SearchBox :=
  .of settings.phrasebook (settings.palette settings.phrasebook)

/-- The search box of settings, provided that their keywords can be typed. -/
def ofSettings? (settings : Settings) : Except Failure SearchBox :=
  settings.validated.map ofSettings

/-- The English search box for the usual label colors. -/
def english : SearchBox :=
  .of .english (.ofTokens Phrasebook.english.wording Palette.boardColors)

/-- The query of a search text that is read at an anchor. -/
def read (box : SearchBox) (anchor : Calendar.Anchor) (text : String) : Query :=
  box.lexicon.query anchor (Token.scan text)

def messages (box : SearchBox) (q : Query) : List String :=
  box.phrasebook.messages q.issues

end SearchBox

end BoardQuery

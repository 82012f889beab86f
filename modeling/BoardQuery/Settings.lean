import BoardQuery.Failure
import BoardQuery.Lexicon
import BoardQuery.Phrasebook.English
import BoardQuery.Text.Letter
import BoardQuery.Token.Scan

/-!
# Settings

The settings of a search box: the wordings of a locale, put over the English ones, and the label
colors of the board. The wording of a keyword has to be one that can be typed; all other wordings
are free.
-/

namespace BoardQuery

open Text

/-- The settings of a search box. The language is a mere remark. -/
structure Settings where
  language : String
  wordings : SortedMap String
  labelColors : List String
deriving DecidableEq, Repr

namespace Settings

/-- The settings that count where nothing else is set. -/
def standard : Settings := ⟨"en", .empty, Palette.boardColors⟩

/-- Whether a tag words a keyword. -/
def isKeywordTag (tag : String) : Bool :=
  Lexicon.facetTags.any (·.1 == tag)

/-- Whether a tag words a short form of a keyword. -/
def isAbbreviationTag (tag : String) : Bool :=
  "-abbrev".toList.isSuffixOf tag.toList

/-- Whether a text is a single sigil. -/
def isSigilText : List Char → Bool
  | [c] => Token.isSigil c
  | _ => false

/-- Whether a text can be typed where a tag's keyword is to be read: a word, or for a short form
also a sigil. -/
def isTypeable (tag text : String) : Bool :=
  isWord text.toList || (isAbbreviationTag tag && isSigilText text.toList)

/-- The first wording of a keyword that cannot be typed. -/
def untypeable? (settings : Settings) : Option (String × String) :=
  settings.wordings.entries.find? fun (tag, text) => isKeywordTag tag && !isTypeable tag text

/-- The settings themselves, unless a keyword of theirs cannot be typed. -/
def validated (settings : Settings) : Except Failure Settings :=
  match settings.untypeable? with
  | some (tag, text) => .error (.untypeable tag text)
  | none => .ok settings

def phrasebook (settings : Settings) : Phrasebook :=
  Phrasebook.english.overlay settings.wordings

def palette (settings : Settings) (p : Phrasebook) : Palette :=
  .ofTokens p.wording settings.labelColors

end Settings

end BoardQuery

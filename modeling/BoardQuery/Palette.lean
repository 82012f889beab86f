import BoardQuery.SortedMap

/-!
# Label colors

A label is asked for by its name or by its color. Each color has a token, the same in every
locale, and a display name in the locale's wording.
-/

namespace BoardQuery

/-- The label colors of a board, and the token of each display name. -/
structure Palette where
  tokens : List String
  names : SortedMap String
deriving DecidableEq, Repr

namespace Palette

/-- The label colors that a board has by default. -/
def boardColors : List String := [
  "white", "green", "yellow", "orange", "red", "purple", "blue", "sky", "lime", "pink", "black",
  "silver", "peachpuff", "crimson", "plum", "darkgreen", "slateblue", "magenta", "gold", "navy",
  "gray", "saddlebrown", "paleturquoise", "mistyrose", "indigo"]

def tag (token : String) : String :=
  "color-" ++ token

/-- The palette of some tokens in a locale's wording. Of two with one name the later has it. -/
def ofTokens (wording : String → String) (tokens : List String) : Palette where
  tokens := tokens
  names := .ofList (tokens.map fun token => (wording (tag token), token))

def isColor (palette : Palette) (token : String) : Bool :=
  palette.tokens.contains token

end Palette

end BoardQuery

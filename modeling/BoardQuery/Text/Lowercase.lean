import BoardQuery.Text.Lowercase.Runs
import BoardQuery.Text.Lowercase.Context

/-!
# Lower-casing

Unicode's full lower-casing, the same in every locale. Each character goes to its small letter
except for two: the dotted capital I becomes two characters, and a capital sigma takes its final
form at the end of a word.
-/

namespace BoardQuery

namespace Text

/-- The small letters of a character that stands alone. -/
def lowerChar (c : Char) : List Char :=
  if c = '\u0130' then ['i', '\u0307'] else [Char.ofNat (lowerPoint caseRuns c.toNat)]

/-- The small letters of a text that follows `before`, read backwards. -/
def lowerAfter (before : List Char) : List Char → List Char
  | [] => []
  | c :: cs =>
    (if c = '\u03A3' && endsWord before cs then ['\u03C2'] else lowerChar c)
      ++ lowerAfter (c :: before) cs

def lower (s : String) : String :=
  String.ofList (lowerAfter [] s.toList)

end Text

end BoardQuery

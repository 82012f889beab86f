/-!
# Replacing one text by another

Occurrences are found from the left and do not overlap; what is put in is not looked at again.
-/

namespace BoardQuery

namespace Text

/-- Puts `text` in the place of every occurrence of `pattern`. -/
def substituteChars (pattern text : List Char) : List Char → List Char
  | [] => []
  | c :: cs =>
    if pattern.isPrefixOf (c :: cs) then
      text ++ substituteChars pattern text (cs.drop (pattern.length - 1))
    else c :: substituteChars pattern text cs
termination_by cs => cs.length
decreasing_by all_goals simp only [List.length_drop, List.length_cons]; omega

/-- A template with every occurrence of `pattern` replaced by `text`. -/
def substitute (pattern text template : String) : String :=
  String.ofList (substituteChars pattern.toList text.toList template.toList)

end Text

end BoardQuery

import BoardQuery.Proofs.OneWord
import BoardQuery.Proofs.SideBySide
import Mathlib.Data.List.Chain

/-!
# Quoted parts

A value or a text between two `"` is read as it stands, with the blanks, colons, sigils and quotes
in it, as long as it lies within one line and no `"` in it stands before a blank (`Enclosable`).
Nothing that follows the gap after a quoted part changes how the part is read (`piece?_written`),
so a search text that is put together of quoted parts is read back as these parts
(`scan_of_joined`).
-/

namespace BoardQuery

open Text

namespace Token

/-- A clause or a text that is to be written between quotes. -/
inductive Part where
  | clause (keyword value : String)
  | text (text : String)
deriving DecidableEq, Repr

/-- The characters that `"` closes at their end and not before. -/
structure Enclosable (cs : List Char) : Prop where
  line : OneLine cs
  quote : cs.IsChain fun c d => c = '"' → isBlank d = false

instance (cs : List Char) : Decidable (Enclosable cs) :=
  decidable_of_iff (cs.all (!isLineBreak ·) = true
    ∧ cs.IsChain fun c d => c = '"' → isBlank d = false)
    ⟨fun h => ⟨by simpa [OneLine] using h.1, h.2⟩,
      fun h => ⟨by simpa [OneLine] using h.line, h.quote⟩⟩

namespace Part

/-- A part with its value or text between two `"`. A word has a colon after it, a sigil has not. -/
def written : Part → List Char
  | .clause keyword value =>
    keyword.toList ++ (if isWord keyword.toList then [':'] else [])
      ++ '"' :: (value.toList ++ ['"'])
  | .text s => '"' :: (s.toList ++ ['"'])

def token : Part → Token
  | .clause keyword value => .clause ⟨keyword, value, value.toList.head? == some '-'⟩
  | .text s => .text s

/-- A part that is read back once it is written. A value has to start with a character that is no
quote; a text need not. -/
def Quotable : Part → Prop
  | .clause keyword value =>
    IsKeyword keyword.toList ∧ Enclosable value.toList
      ∧ value.toList.head?.any (!isQuote ·) = true
  | .text s => Enclosable s.toList

instance : DecidablePred Quotable
  | .clause _ _ => inferInstanceAs (Decidable (_ ∧ _))
  | .text s => inferInstanceAs (Decidable (Enclosable s.toList))

end Part

theorem close?_enclosed {cs tail : List Char} (h : Enclosable cs) (ht : atGap tail = true) :
    close? ['"'] (cs ++ '"' :: tail) = some (cs, tail) := by
  refine close?_eq_some_iff.2 ⟨⟨rfl, h.line, ht⟩, fun value' tail' h' => ?_⟩
  have hsplit := h'.split
  have hgap := h'.gap
  rcases List.append_eq_append_iff.1 hsplit with ⟨mid, rfl, -⟩ | ⟨mid, rfl, hmid⟩
  · simp
  · rcases mid with _ | ⟨c, mid⟩
    · simp
    · -- A `"` within `cs` would have to stand before a gap.
      obtain ⟨rfl, rfl⟩ := List.cons.inj hmid
      rcases mid with _ | ⟨d, mid⟩
      · rw [List.append_eq, List.nil_append, atGap_cons] at hgap
        exact absurd hgap (by decide)
      · have hd := (List.isChain_append_cons_cons.1 h.quote).2.1 rfl
        rw [List.append_eq, List.cons_append, atGap_cons, hd] at hgap
        simp at hgap

/-- Without a heading only the rules for free text apply. -/
theorem piece?_of_no_heading {cs : List Char} (h : heading? cs = none) :
    piece? cs = (quotedText? cs).or (bareWord? cs) := by
  have hword : wordClause? cs = none := by rw [wordClause?, h, Option.bind_none]
  have hclause : clause? cs = none := by rw [clause?, h, Option.bind_none]
  rcases hquoted : quotedText? cs with _ | piece
  · simp [piece?, rules, hword, hclause, hquoted]
  · simp [piece?, rules, hword, hclause, hquoted]

theorem heading?_of_isQuote {c : Char} (h : isQuote c = true) (cs : List Char) :
    heading? (c :: cs) = none := by
  simp [heading?, isSigil_of_isQuote h, isLetter_of_isQuote h]

theorem piece?_of_quotedText? {c : Char} {cs : List Char} {piece : Piece} (h : isQuote c = true)
    (hq : quotedText? (c :: cs) = some piece) : piece? (c :: cs) = some piece := by
  rw [piece?_of_no_heading (heading?_of_isQuote h cs), hq, Option.some_or]

/-- A quoted part is read back at the start of a text, whatever comes after the next gap. -/
theorem piece?_written {part : Part} (h : part.Quotable) {tail : List Char}
    (ht : atGap tail = true) :
    piece? (part.written ++ tail) = some (.before tail part.token part.written) := by
  rcases part with ⟨keyword, value⟩ | s
  · obtain ⟨hk, hv, hhead⟩ := h
    obtain ⟨c, hvalue, hc⟩ := (Option.any_eq_true ..).1 hhead
    obtain ⟨rest, hvalue⟩ := List.head?_eq_some_iff.1 hvalue
    have hheading : heading? ((Part.clause keyword value).written ++ tail) =
        some ⟨keyword.toList, markAfter keyword.toList, '"' :: (value.toList ++ '"' :: tail)⟩ :=
      heading?_eq_some_iff.2 ⟨hk, rfl, by simp [Part.written, Heading.lexeme, markAfter]⟩
    have hquotes : ('"' :: (value.toList ++ '"' :: tail)).takeWhile isQuote = ['"'] := by
      rw [hvalue, List.takeWhile_cons_of_pos (by decide), List.cons_append,
        List.takeWhile_cons_of_neg (by simpa using hc)]
    refine piece?_of_clause? ?_
    rw [clause?, hheading, Option.bind_some, hquotes]
    simp only [shortenings, clauseWithin?, List.map_cons, List.map_nil, List.nil_append,
      List.cons_append, List.findSome?_cons, List.length_singleton, List.drop_succ_cons,
      List.drop_zero, close?_enclosed hv ht, Option.map_some]
    simp [Part.token, Part.written, Heading.clause, Heading.lexeme, Clause.typed,
      Clause.negationMark, markAfter]
  · have hq : quotedText? ('"' :: (s.toList ++ '"' :: tail)) =
        some (.before tail (.text s) ('"' :: (s.toList ++ ['"']))) := by
      rw [quotedText?, if_pos (by decide), close?_enclosed h ht]
      simp
    simpa [Part.written, Part.token] using piece?_of_quotedText? (by decide) hq

theorem trimLeft_written_append {part : Part} (h : part.Quotable) (tail : List Char) :
    trimLeft (part.written ++ tail) = part.written ++ tail := by
  have hcons : ∃ c cs, part.written = c :: cs ∧ isBlank c = false := by
    rcases part with ⟨keyword, value⟩ | s
    · rcases isKeyword_iff.1 h.1 with ⟨c, hc, hkey⟩ | hw
      · exact ⟨c, _, by rw [Part.written, hkey]; rfl, isBlank_of_isSigil hc⟩
      · obtain ⟨hne, hall⟩ := isWord_iff.1 hw
        obtain ⟨c, cs, hkey⟩ := List.exists_cons_of_ne_nil hne
        have hc : isLetter c = true := hall c (by rw [hkey]; exact List.mem_cons_self ..)
        exact ⟨c, _, by rw [Part.written, hkey]; rfl, isBlank_of_isLetter hc⟩
    · exact ⟨'"', _, rfl, by decide⟩
  obtain ⟨c, cs, hpart, hc⟩ := hcons
  rw [hpart, List.cons_append, trimLeft, List.dropWhile_cons_of_neg (by simp [hc])]

/-- The first token of a text that starts with a quoted part, and the tokens after it. -/
theorem map_token_pieces_written {part : Part} (h : part.Quotable) {tail : List Char}
    (ht : atGap tail = true) :
    (pieces (part.written ++ tail)).map (·.token) =
      part.token :: (pieces tail).map (·.token) := by
  have hnext : next? (part.written ++ tail) = some (.before tail part.token part.written) := by
    rw [next?, trimLeft_written_append h, piece?_written h ht]
  rw [pieces_of_some hnext, List.map_cons]
  exact congrArg _ (congrArg _ (pieces_trimLeft tail))

/-- A text that is put together of quoted parts, each parted from the next by blanks. -/
inductive Joined : List Part → List Char → Prop
  | nil : Joined [] []
  | single (part : Part) : Joined [part] part.written
  | cons (part : Part) (gap : List Char) {next : Part} {parts : List Part} {cs : List Char} :
      gap ≠ [] → (∀ c ∈ gap, isBlank c = true) → Joined (next :: parts) cs →
        Joined (part :: next :: parts) (part.written ++ (gap ++ cs))

theorem map_token_pieces_joined {parts : List Part} {cs : List Char} (h : Joined parts cs)
    (hparts : ∀ part ∈ parts, part.Quotable) :
    (pieces cs).map (·.token) = parts.map Part.token := by
  induction h with
  | nil => rw [pieces_of_none (next?_eq_none_iff.2 rfl)]; rfl
  | single part =>
    have hread := @map_token_pieces_written part (hparts part (List.mem_cons_self ..)) [] rfl
    rw [List.append_nil] at hread
    rw [hread, pieces_of_none (next?_eq_none_iff.2 rfl)]
    rfl
  | @cons part gap next parts cs hne hgap _ ih =>
    have ht : atGap (gap ++ cs) = true := by
      obtain ⟨c, gap', rfl⟩ := List.exists_cons_of_ne_nil hne
      exact hgap c (List.mem_cons_self ..)
    rw [map_token_pieces_written (hparts part (List.mem_cons_self ..)) ht,
      pieces_eq_of_trimLeft (trimLeft_append_of_blank hgap cs),
      ih fun other hother => hparts other (List.mem_cons_of_mem _ hother)]
    rfl

/-- Quoted parts with blanks between them are read back as these parts, in their order. -/
theorem scan_of_joined {parts : List Part} {s : String} (hparts : ∀ part ∈ parts, part.Quotable)
    (h : Joined parts s.toList) : scan s = parts.map Part.token := by
  rw [scan_eq, map_token_pieces_joined h hparts]

/-- Quotes, sigils and blanks within the parts. -/
theorem scan_of_joined_three :
    let parts : List Part :=
      [.clause "list" "-a\"b: 'x", .clause "#" "to do\"", .text "\"#q"]
    let s := "list:\"-a\"b: 'x\" #\"to do\"\"\u3000\n\"\"#q\""
    (∀ part ∈ parts, part.Quotable) ∧ Joined parts s.toList
      ∧ scan s =
        [.clause ⟨"list", "-a\"b: 'x", true⟩, .clause ⟨"#", "to do\"", false⟩, .text "\"#q"] := by
  intro parts s
  have hparts : ∀ part ∈ parts, part.Quotable := by decide +kernel
  have hs : s.toList = (Part.clause "list" "-a\"b: 'x").written ++ ([' ']
      ++ ((Part.clause "#" "to do\"").written ++ (['\u3000', '\n']
        ++ (Part.text "\"#q").written))) := by decide +kernel
  have hjoined : Joined parts s.toList := by
    rw [hs]
    refine .cons _ _ (by simp) ?_ (.cons _ _ (by simp) ?_ (.single _))
    · simp only [List.forall_mem_cons, List.not_mem_nil, false_imp_iff, implies_true, and_true]
      decide
    · simp only [List.forall_mem_cons, List.not_mem_nil, false_imp_iff, implies_true, and_true]
      decide
  have htokens : parts.map Part.token =
      [.clause ⟨"list", "-a\"b: 'x", true⟩, .clause ⟨"#", "to do\"", false⟩, .text "\"#q"] := by
    decide +kernel
  exact ⟨hparts, hjoined, (scan_of_joined hparts hjoined).trans htokens⟩

end Token

end BoardQuery

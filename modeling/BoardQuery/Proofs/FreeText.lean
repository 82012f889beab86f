import BoardQuery.Proofs.BareClause
import BoardQuery.Proofs.QuoteRuns

/-!
# Where a text is free

A text starts with a clause exactly if it starts with a keyword and its mark (`startsClause_iff`);
whatever comes after them is a value. All else is free text (`first_token`): what a quote character
at the start encloses, up to the first place where the same character closes it, or the characters
before the first gap, where no such place is on the line.
-/

namespace BoardQuery

open Text

namespace Token

/-- The text starts with a sigil, or with a word and a colon. -/
def StartsClause (cs : List Char) : Prop :=
  (∃ rest, cs = '#' :: rest) ∨ (∃ rest, cs = '@' :: rest)
    ∨ ∃ word rest, isWord word = true ∧ cs = word ++ ':' :: rest

/-- The quote character at the start of the text stands again after `quoted`, on the same line and
before a gap. -/
def Quotes (cs quoted : List Char) : Prop :=
  ∃ quote tail, isQuote quote = true ∧ cs = quote :: (quoted ++ quote :: tail) ∧ OneLine quoted
    ∧ atGap tail = true

/-- What the quote character at the start of the text encloses: it ends at the first place where
the character stands again before a gap. -/
structure IsQuoted (cs quoted : List Char) : Prop where
  quotes : Quotes cs quoted
  first : ∀ longer, Quotes cs longer → quoted.length ≤ longer.length

/-- All characters before the first gap. -/
def IsBareWord (cs word : List Char) : Prop :=
  ∃ tail, cs = word ++ tail ∧ (∀ c ∈ word, isBlank c = false) ∧ atGap tail = true

/-! ## Clauses -/

theorem startsClause_iff {cs : List Char} :
    StartsClause cs ↔ ∃ heading, heading? cs = some heading := by
  constructor
  · rintro (⟨rest, rfl⟩ | ⟨rest, rfl⟩ | ⟨word, rest, hword, rfl⟩)
    · exact ⟨_, heading?_cons_of_isSigil (by decide) rest⟩
    · exact ⟨_, heading?_cons_of_isSigil (by decide) rest⟩
    · exact ⟨_, heading?_append_of_isWord hword rest⟩
  · rintro ⟨⟨keyword, mark, rest⟩, h⟩
    obtain ⟨hk, hmark, rfl⟩ := heading?_eq_some_iff.1 h
    simp only [Heading.lexeme] at hk hmark ⊢
    subst hmark
    rcases hk with rfl | rfl | hword
    · exact .inl ⟨rest, rfl⟩
    · exact .inr (.inl ⟨rest, rfl⟩)
    · refine .inr (.inr ⟨keyword, rest, hword, ?_⟩)
      rw [markAfter_of_isWord hword, List.append_assoc, List.singleton_append]

instance (cs : List Char) : Decidable (StartsClause cs) :=
  decidable_of_iff ((heading? cs).isSome = true)
    (Option.isSome_iff_exists.trans startsClause_iff.symm)

/-! ## Free text -/

theorem quotes_cons_iff {c : Char} {cs quoted : List Char} :
    Quotes (c :: cs) quoted ↔ isQuote c = true ∧ ∃ tail, Closes [c] cs quoted tail := by
  constructor
  · rintro ⟨quote, tail, hquote, hsplit, hline, hgap⟩
    obtain ⟨rfl, rfl⟩ := List.cons.inj hsplit
    exact ⟨hquote, tail, rfl, hline, hgap⟩
  · rintro ⟨hc, tail, rfl, hline, hgap⟩
    exact ⟨c, tail, hc, rfl, hline, hgap⟩

theorem isQuoted_of_quotedText? {c : Char} {cs : List Char} {piece : Piece}
    (h : quotedText? (c :: cs) = some piece) :
    ∃ quoted, IsQuoted (c :: cs) quoted ∧ piece.token = .text (String.ofList quoted) := by
  rw [quotedText?] at h
  split at h
  · rename_i hc
    obtain ⟨⟨quoted, tail⟩, hclose, rfl⟩ := Option.map_eq_some_iff.1 h
    obtain ⟨hcloses, hmin⟩ := close?_eq_some_iff.1 hclose
    refine ⟨quoted, ⟨quotes_cons_iff.2 ⟨hc, tail, hcloses⟩, fun longer hlonger => ?_⟩, rfl⟩
    obtain ⟨-, tail', hcloses'⟩ := quotes_cons_iff.1 hlonger
    exact hmin longer tail' hcloses'
  · simp at h

theorem not_quotes_of_quotedText? {c : Char} {cs : List Char} (h : quotedText? (c :: cs) = none)
    (quoted : List Char) : ¬Quotes (c :: cs) quoted := by
  intro hquotes
  obtain ⟨hc, tail, hcloses⟩ := quotes_cons_iff.1 hquotes
  obtain ⟨value, tail', hclose, -⟩ := exists_close?_of_closes hcloses
  simp [quotedText?, hc, hclose] at h

theorem isBareWord_takeWhile (cs : List Char) : IsBareWord cs (cs.takeWhile (!isBlank ·)) :=
  ⟨cs.dropWhile (!isBlank ·), (List.takeWhile_append_dropWhile ..).symm,
    fun c hc => by simpa using List.mem_takeWhile_imp hc, atGap_dropWhile cs⟩

theorem bareWord?_cons {c : Char} (hc : isBlank c = false) (cs : List Char) :
    ∃ piece word, bareWord? (c :: cs) = some piece ∧ piece.token = .text (String.ofList word)
      ∧ IsBareWord (c :: cs) word := by
  have hne : ((c :: cs).takeWhile (!isBlank ·)).isEmpty = false := by simp [hc]
  simp only [bareWord?, hne]
  exact ⟨_, _, rfl, rfl, isBareWord_takeWhile _⟩

theorem exists_piece?_text {c : Char} {cs : List Char} (hc : isBlank c = false)
    (h : heading? (c :: cs) = none) :
    ∃ piece text, piece? (c :: cs) = some piece ∧ piece.token = .text (String.ofList text)
      ∧ (IsQuoted (c :: cs) text
        ∨ (∀ quoted, ¬Quotes (c :: cs) quoted) ∧ IsBareWord (c :: cs) text) := by
  rw [piece?_of_no_heading h]
  rcases hquoted : quotedText? (c :: cs) with _ | piece
  · obtain ⟨piece, word, hbare, htoken, hword⟩ := bareWord?_cons hc cs
    exact ⟨piece, word, hbare, htoken, .inr ⟨not_quotes_of_quotedText? hquoted, hword⟩⟩
  · obtain ⟨text, htext, htoken⟩ := isQuoted_of_quotedText? hquoted
    exact ⟨piece, text, rfl, htoken, .inl htext⟩

theorem next?_cons {c : Char} (hc : isBlank c = false) (cs : List Char) :
    next? (c :: cs) = piece? (c :: cs) := by
  rw [next?, trimLeft, List.dropWhile_cons_of_neg (by simp [hc])]

theorem head?_scan {cs : List Char} {piece : Piece} (h : next? cs = some piece) :
    (scan (String.ofList cs)).head? = some piece.token := by
  rw [scan_eq, String.toList_ofList, pieces_of_some h]
  rfl

/-- A word before the end of the text is free where no keyword with its mark and no quote character
starts it. -/
theorem scan_bareWord {word : String} (hbare : Bare word.toList)
    (hheading : heading? word.toList = none) : scan word = [.text word] := by
  obtain ⟨c, cs, hcs, hquote⟩ := hbare.head
  have htake : word.toList.takeWhile (!isBlank ·) = word.toList :=
    List.takeWhile_eq_self_iff.2 fun d hd => by simp [hbare.blank d hd]
  have hdrop : word.toList.dropWhile (!isBlank ·) = [] :=
    List.dropWhile_eq_nil_iff.2 fun d hd => by simp [hbare.blank d hd]
  have hquoted : quotedText? word.toList = none := by
    rw [hcs, quotedText?, hquote]
    simp
  have hne : word.toList.isEmpty = false := by rw [hcs, List.isEmpty_cons]
  have hword : bareWord? word.toList = some (.before [] (.text word) word.toList) := by
    simp [bareWord?, htake, hdrop, hne]
  have hnext : next? word.toList = some (.before [] (.text word) word.toList) := by
    rw [next?, trimLeft_eq_self hbare.blank, piece?_of_no_heading hheading, hquoted, hword,
      Option.none_or]
  exact scan_eq_singleton hnext rfl

/-- The first token of a text that starts with no blank is a clause exactly if the text starts with
a keyword and its mark. Otherwise it is what the quote character at the start encloses, or, where
this closes nowhere on its line, all that stands before the first gap. -/
theorem first_token {c : Char} {cs : List Char} (hc : isBlank c = false) :
    ∃ piece, next? (c :: cs) = some piece
      ∧ (scan (String.ofList (c :: cs))).head? = some piece.token
      ∧ ((∃ clause, piece.token = .clause clause) ↔ StartsClause (c :: cs))
      ∧ (¬StartsClause (c :: cs) → ∃ text, piece.token = .text (String.ofList text)
        ∧ (IsQuoted (c :: cs) text
          ∨ (∀ quoted, ¬Quotes (c :: cs) quoted) ∧ IsBareWord (c :: cs) text)) := by
  rcases hheading : heading? (c :: cs) with _ | heading
  · have hnot : ¬StartsClause (c :: cs) := by simp [startsClause_iff, hheading]
    obtain ⟨piece, text, hpiece, htoken, htext⟩ := exists_piece?_text hc hheading
    have hnext := (next?_cons hc cs).trans hpiece
    refine ⟨piece, hnext, head?_scan hnext, ?_, fun _ => ⟨text, htoken, htext⟩⟩
    simp [htoken, hnot]
  · have hstarts : StartsClause (c :: cs) := startsClause_iff.2 ⟨heading, hheading⟩
    obtain ⟨piece, clause, hpiece, htoken⟩ := exists_piece?_clause hheading
    have hnext := (next?_cons hc cs).trans hpiece
    exact ⟨piece, hnext, head?_scan hnext, iff_of_true ⟨clause, htoken⟩ hstarts,
      fun hnot => absurd hstarts hnot⟩

/-- Of three quote characters the first that stands before a gap closes. -/
theorem first_token_inner_quote :
    isBlank '"' = false ∧ ¬StartsClause "\"a\"b\" c\"".toList
      ∧ IsQuoted "\"a\"b\" c\"".toList "a\"b".toList
      ∧ (scan "\"a\"b\" c\"").head? = some (.text "a\"b") := by
  have hnot : ¬StartsClause "\"a\"b\" c\"".toList := by decide
  have hscan : (scan "\"a\"b\" c\"").head? = some (.text "a\"b") := by decide +kernel
  have hquotes : Quotes "\"a\"b\" c\"".toList "a\"b".toList :=
    ⟨'"', " c\"".toList, by decide, by decide, by simp [OneLine, isLineBreak], by decide⟩
  obtain ⟨piece, -, hhead, -, htext⟩ := @first_token '"' "a\"b\" c\"".toList (by decide)
  obtain ⟨text, htoken, hquoted | ⟨hnone, -⟩⟩ := htext hnot
  · have heq : Token.text (String.ofList text) = .text "a\"b" :=
      htoken.symm.trans (Option.some.inj (hhead.symm.trans hscan))
    obtain rfl : text = "a\"b".toList := by
      rw [← Token.text.inj heq, String.toList_ofList]
    exact ⟨by decide, hnot, hquoted, hscan⟩
  · exact absurd hquotes (hnone _)

end Token

end BoardQuery

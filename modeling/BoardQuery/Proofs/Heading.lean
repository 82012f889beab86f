import BoardQuery.Token.Scan
import Mathlib.Data.List.DropRight

/-!
# The start of a clause

A heading is read exactly where a keyword stands with its mark (`heading?_eq_some_iff`): one of the
sigils `#` and `@`, which have no mark, or a word with a colon after it. The classes of characters
that tell the parts of a text apart do not overlap: no blank is a letter, and no letter, quote or
sigil is a blank.
-/

namespace BoardQuery

open Text

/-! ## Classes of characters -/

namespace Text

theorem mem_of_inRanges : ∀ {ranges : List (Nat × Nat)} {n : Nat}, inRanges ranges n = true →
    n ∈ ranges.flatMap fun range => List.range' range.1 (range.2 + 1 - range.1)
  | [], _, h => by simp [inRanges] at h
  | (first, last) :: ranges, n, h => by
    simp only [inRanges] at h
    rw [List.flatMap_cons, List.mem_append]
    split at h
    · simp at h
    · rcases Bool.or_eq_true_iff.1 h with h | h
      · have hle : n ≤ last := of_decide_eq_true h
        exact .inl (List.mem_range'_1.2 ⟨by omega, by simp only; omega⟩)
      · exact .inr (mem_of_inRanges h)

private theorem inRanges_letters_blank :
    ∀ n ∈ blankRanges.flatMap fun range => List.range' range.1 (range.2 + 1 - range.1),
      inRanges letterRanges n = false := by
  decide +kernel

theorem isLetter_of_isBlank {c : Char} (h : isBlank c = true) : isLetter c = false :=
  inRanges_letters_blank _ (mem_of_inRanges h)

theorem excluded_symm {p q : Char → Bool} {c : Char} (h : p c = true → q c = false)
    (hq : q c = true) : p c = false := by
  rcases hc : p c with _ | _
  · rfl
  · rw [h hc] at hq
    simp at hq

theorem isBlank_of_isLetter {c : Char} (h : isLetter c = true) : isBlank c = false :=
  excluded_symm isLetter_of_isBlank h

theorem isLineBreak_of_not_isBlank {c : Char} (h : isBlank c = false) : isLineBreak c = false := by
  rcases hc : isLineBreak c with _ | _
  · rfl
  · simp [isBlank_of_isLineBreak hc] at h

theorem isLineBreak_of_isLetter {c : Char} (h : isLetter c = true) : isLineBreak c = false :=
  isLineBreak_of_not_isBlank (isBlank_of_isLetter h)

theorem isWord_iff {cs : List Char} : isWord cs = true ↔ cs ≠ [] ∧ ∀ c ∈ cs, isLetter c = true := by
  simp [isWord]

end Text

namespace Token

theorem isSigil_iff {c : Char} : isSigil c = true ↔ c = '#' ∨ c = '@' := by
  simp [isSigil]

theorem isQuote_iff {c : Char} : isQuote c = true ↔ c = '"' ∨ c = '\'' := by
  simp [isQuote]

theorem isBlank_of_isQuote {c : Char} (h : isQuote c = true) : isBlank c = false := by
  rcases isQuote_iff.1 h with rfl | rfl <;> decide

theorem isBlank_of_isSigil {c : Char} (h : isSigil c = true) : isBlank c = false := by
  rcases isSigil_iff.1 h with rfl | rfl <;> decide

theorem isLetter_of_isSigil {c : Char} (h : isSigil c = true) : isLetter c = false := by
  rcases isSigil_iff.1 h with rfl | rfl <;> decide

theorem isLetter_of_isQuote {c : Char} (h : isQuote c = true) : isLetter c = false := by
  rcases isQuote_iff.1 h with rfl | rfl <;> decide

theorem isQuote_of_isLetter {c : Char} (h : isLetter c = true) : isQuote c = false :=
  excluded_symm isLetter_of_isQuote h

theorem isSigil_of_isLetter {c : Char} (h : isLetter c = true) : isSigil c = false :=
  excluded_symm isLetter_of_isSigil h

theorem isSigil_of_isQuote {c : Char} (h : isQuote c = true) : isSigil c = false := by
  rcases isQuote_iff.1 h with rfl | rfl <;> decide

/-! ## Headings -/

/-- A keyword as it is typed: a sigil, or a word. -/
def IsKeyword (cs : List Char) : Prop :=
  cs = ['#'] ∨ cs = ['@'] ∨ isWord cs = true

instance (cs : List Char) : Decidable (IsKeyword cs) :=
  inferInstanceAs (Decidable (_ ∨ _))

/-- What stands between a keyword and its value: a colon after a word, nothing after a sigil. -/
def markAfter (keyword : List Char) : List Char :=
  if isWord keyword then [':'] else []

theorem markAfter_of_isWord {keyword : List Char} (h : isWord keyword = true) :
    markAfter keyword = [':'] := by
  rw [markAfter, if_pos h]

theorem markAfter_of_isSigil {c : Char} (h : isSigil c = true) : markAfter [c] = [] := by
  have hw : isWord [c] = false := by simp [isWord, isLetter_of_isSigil h]
  simp [markAfter, hw]

theorem isKeyword_iff {cs : List Char} :
    IsKeyword cs ↔ (∃ c, isSigil c = true ∧ cs = [c]) ∨ isWord cs = true := by
  constructor
  · rintro (rfl | rfl | h)
    · exact .inl ⟨'#', by decide, rfl⟩
    · exact .inl ⟨'@', by decide, rfl⟩
    · exact .inr h
  · rintro (⟨c, hc, rfl⟩ | h)
    · rcases isSigil_iff.1 hc with rfl | rfl
      · exact .inl rfl
      · exact .inr (.inl rfl)
    · exact .inr (.inr h)

theorem heading?_cons_of_isSigil {c : Char} (h : isSigil c = true) (rest : List Char) :
    heading? (c :: rest) = some ⟨[c], [], rest⟩ := by
  rw [heading?, if_pos h]

/-- A word is a keyword where a colon comes after it, and nowhere else. -/
theorem heading?_append_cons {word : List Char} (h : isWord word = true) {c : Char}
    (hc : isLetter c = false) (rest : List Char) :
    heading? (word ++ c :: rest) = if c = ':' then some ⟨word, [':'], rest⟩ else none := by
  obtain ⟨hne, hall⟩ := isWord_iff.1 h
  rcases word with _ | ⟨d, word⟩
  · exact absurd rfl hne
  have hd := hall d (List.mem_cons_self ..)
  have hword : ∀ e ∈ word, isLetter e = true := fun e he => hall e (List.mem_cons_of_mem _ he)
  have hdrop : (word ++ c :: rest).dropWhile isLetter = c :: rest := by
    rw [List.dropWhile_append_of_pos hword, List.dropWhile_cons_of_neg (by simp [hc])]
  have htake : (word ++ c :: rest).takeWhile isLetter = word := by
    rw [List.takeWhile_append_of_pos hword, List.takeWhile_cons_of_neg (by simp [hc]),
      List.append_nil]
  simp only [heading?, List.cons_append, isSigil_of_isLetter hd, hd, hdrop, htake]
  by_cases hcolon : c = ':'
  · subst hcolon
    rfl
  · simp [hcolon]

theorem heading?_append_of_isWord {word : List Char} (h : isWord word = true) (rest : List Char) :
    heading? (word ++ ':' :: rest) = some ⟨word, [':'], rest⟩ := by
  rw [heading?_append_cons h (by decide), if_pos rfl]

/-- A heading is read off a text exactly if the text starts with its keyword and mark. -/
theorem heading?_eq_some_iff {cs : List Char} {heading : Heading} :
    heading? cs = some heading ↔
      IsKeyword heading.keyword ∧ heading.mark = markAfter heading.keyword
        ∧ cs = heading.lexeme ++ heading.rest := by
  obtain ⟨keyword, mark, rest⟩ := heading
  simp only [Heading.lexeme]
  constructor
  · intro h
    rcases cs with _ | ⟨c, cs⟩
    · simp [heading?] at h
    · simp only [heading?] at h
      split at h
      · rename_i hc
        simp only [Option.some.injEq, Heading.mk.injEq] at h
        obtain ⟨rfl, rfl, rfl⟩ := h
        exact ⟨isKeyword_iff.2 (.inl ⟨c, hc, rfl⟩), (markAfter_of_isSigil hc).symm, rfl⟩
      · split at h
        · rename_i hc
          split at h
          · rename_i rest' hrest
            simp only [Option.some.injEq, Heading.mk.injEq] at h
            obtain ⟨rfl, rfl, rfl⟩ := h
            have hw : isWord (c :: cs.takeWhile isLetter) = true := by
              refine isWord_iff.2 ⟨by simp, fun d hd => ?_⟩
              rcases List.mem_cons.1 hd with rfl | hd
              · exact hc
              · exact List.mem_takeWhile_imp hd
            refine ⟨isKeyword_iff.2 (.inr hw), (markAfter_of_isWord hw).symm, ?_⟩
            rw [List.append_assoc, List.cons_append, List.singleton_append, ← hrest,
              List.takeWhile_append_dropWhile]
          · simp at h
        · simp at h
  · rintro ⟨hk, rfl, rfl⟩
    rcases isKeyword_iff.1 hk with ⟨c, hc, rfl⟩ | hw
    · rw [markAfter_of_isSigil hc]
      exact heading?_cons_of_isSigil hc rest
    · rw [markAfter_of_isWord hw, List.append_assoc]
      exact heading?_append_of_isWord hw rest

end Token

end BoardQuery

import BoardQuery.Proofs.Closing

/-!
# The pieces of a text

Each rule takes off a text a lexeme that spells its token, and the blanks after it (`piece?_taken`),
and one of the rules applies wherever a character is left (`next?_eq_none_iff`). So the calls of
`next?` take a trimmed text apart into slices that make it up again, and come to an end only where
nothing is left (`scan_lossless`).
-/

namespace BoardQuery

open Text

namespace Token

/-! ## What a piece is -/

/-- The characters of a text that lies within one line. -/
def OneLine (cs : List Char) : Prop :=
  ∀ c ∈ cs, isLineBreak c = false

/-- The lexemes of a token. A clause is its keyword with the mark, and its value between two equal
runs of quote characters, which may be empty; a text is a run without blanks, or stands between two
quote characters of one kind. -/
def Spells (lexeme : List Char) : Token → Prop
  | .clause cl =>
    IsKeyword cl.keyword.toList
      ∧ ∃ quotes, (∀ c ∈ quotes, isQuote c = true)
        ∧ lexeme = cl.keyword.toList ++ markAfter cl.keyword.toList
            ++ (quotes ++ (cl.value.toList ++ quotes))
  | .text s =>
    (lexeme = s.toList ∧ ∀ c ∈ lexeme, isBlank c = false)
      ∨ ∃ quote, isQuote quote = true ∧ lexeme = quote :: (s.toList ++ [quote])

/-- A token whose texts lie within one line, and which is negated exactly when its value starts
with `-`. -/
def Plain : Token → Prop
  | .clause cl =>
    OneLine cl.keyword.toList ∧ OneLine cl.value.toList
      ∧ (cl.negated = true ↔ ∃ rest, cl.value.toList = '-' :: rest)
  | .text s => OneLine s.toList

/-- The characters of a piece: those that spell its token, and the blanks after them. -/
def Piece.slice (piece : Piece) : List Char :=
  piece.lexeme ++ piece.gap

/-- A piece at the start of a text, with all the blanks that follow its lexeme. -/
structure Taken (cs : List Char) (piece : Piece) : Prop where
  split : cs = piece.slice ++ piece.rest
  spells : Spells piece.lexeme piece.token
  plain : Plain piece.token
  gap_blank : ∀ c ∈ piece.gap, isBlank c = true
  rest_head : ∀ c ∈ piece.rest.head?, isBlank c = false
  rest_nil : piece.gap = [] → piece.rest = []

theorem head?_trimLeft (cs : List Char) : ∀ c ∈ (trimLeft cs).head?, isBlank c = false := by
  intro c hc
  have h := List.head?_dropWhile_not isBlank cs
  rw [trimLeft] at hc
  rw [Option.mem_def.1 hc] at h
  simpa using h

theorem taken_before {tail lexeme : List Char} {token : Token} (hgap : atGap tail = true)
    (hspells : Spells lexeme token) (hplain : Plain token) :
    Taken (lexeme ++ tail) (.before tail token lexeme) where
  split := by
    rw [Piece.slice, Piece.before, List.append_assoc, List.takeWhile_append_dropWhile]
  spells := hspells
  plain := hplain
  gap_blank c hc := List.mem_takeWhile_imp hc
  rest_head := head?_trimLeft tail
  rest_nil h := by
    rcases tail with _ | ⟨c, tail⟩
    · rfl
    · rw [atGap_cons] at hgap
      simp [Piece.before, hgap] at h

theorem oneLine_of_isWord {cs : List Char} (h : isWord cs = true) : OneLine cs :=
  fun c hc => isLineBreak_of_isLetter ((isWord_iff.1 h).2 c hc)

theorem oneLine_of_isKeyword {cs : List Char} (h : IsKeyword cs) : OneLine cs := by
  rcases h with rfl | rfl | h
  · simp [OneLine, isLineBreak]
  · simp [OneLine, isLineBreak]
  · exact oneLine_of_isWord h

theorem negated_typed (keyword value : String) :
    (Clause.typed keyword value).negated = true ↔ ∃ rest, value.toList = '-' :: rest := by
  simp only [Clause.typed, Clause.negationMark, beq_iff_eq]
  exact List.head?_eq_some_iff

theorem taken_clause {heading : Heading} {quotes value tail : List Char}
    (hk : IsKeyword heading.keyword) (hmark : heading.mark = markAfter heading.keyword)
    (hquotes : ∀ c ∈ quotes, isQuote c = true) (hvalue : OneLine value) (hgap : atGap tail = true) :
    Taken (heading.lexeme ++ (quotes ++ (value ++ quotes)) ++ tail)
      (.before tail (heading.clause value) (heading.lexeme ++ (quotes ++ (value ++ quotes)))) := by
  refine taken_before hgap ⟨?_, quotes, hquotes, ?_⟩ ⟨?_, ?_, negated_typed _ _⟩
  · simpa [Clause.typed] using hk
  · simp [Clause.typed, Heading.lexeme, hmark]
  · simpa [Clause.typed] using oneLine_of_isKeyword hk
  · simpa [Clause.typed] using hvalue

/-! ## The rules -/

theorem wordClause?_taken {cs : List Char} {piece : Piece} (h : wordClause? cs = some piece) :
    Taken cs piece := by
  obtain ⟨heading, hheading, hpiece⟩ := Option.bind_eq_some_iff.1 h
  obtain ⟨hk, hmark, rfl⟩ := heading?_eq_some_iff.1 hheading
  simp only [] at hpiece
  split at hpiece
  · rename_i hcond
    obtain rfl := Option.some.inj hpiece
    have hvalue : OneLine (heading.rest.takeWhile isLetter) :=
      fun c hc => isLineBreak_of_isLetter (List.mem_takeWhile_imp hc)
    have hgap := (Bool.and_eq_true_iff.1 hcond).2
    have hnone : ∀ c ∈ ([] : List Char), isQuote c = true := by simp
    have ht := taken_clause hk hmark hnone hvalue hgap
    simpa [List.append_assoc] using ht
  · simp at hpiece

theorem clause?_taken {cs : List Char} {piece : Piece} (h : clause? cs = some piece) :
    Taken cs piece := by
  obtain ⟨heading, hheading, hpiece⟩ := Option.bind_eq_some_iff.1 h
  obtain ⟨hk, hmark, rfl⟩ := heading?_eq_some_iff.1 hheading
  obtain ⟨quotes, hmem, hwithin⟩ := List.exists_of_findSome?_eq_some hpiece
  obtain ⟨⟨value, tail⟩, hclose, rfl⟩ := Option.map_eq_some_iff.1 hwithin
  have hstart := mem_shortenings.1 hmem
  have hquotes : ∀ c ∈ quotes, isQuote c = true :=
    fun c hc => List.mem_takeWhile_imp (hstart.subset hc)
  obtain ⟨after, hafter⟩ := hstart.trans (List.takeWhile_prefix _)
  rw [← hafter, List.drop_left] at hclose
  obtain ⟨rfl, hline, hgap⟩ := closes_of_close? hclose
  rw [← hafter]
  simpa [List.append_assoc] using taken_clause hk hmark hquotes hline hgap

theorem quotedText?_taken {cs : List Char} {piece : Piece} (h : quotedText? cs = some piece) :
    Taken cs piece := by
  rcases cs with _ | ⟨c, cs⟩
  · simp [quotedText?] at h
  · simp only [quotedText?] at h
    split at h
    · rename_i hc
      obtain ⟨⟨quoted, tail⟩, hclose, rfl⟩ := Option.map_eq_some_iff.1 h
      obtain ⟨rfl, hline, hgap⟩ := closes_of_close? hclose
      have hspells : Spells (c :: (quoted ++ [c])) (.text (String.ofList quoted)) :=
        .inr ⟨c, hc, by simp⟩
      have hplain : Plain (.text (String.ofList quoted)) := by
        simpa [Plain, OneLine] using hline
      simpa using taken_before hgap hspells hplain
    · simp at h

theorem bareWord?_taken {cs : List Char} {piece : Piece} (h : bareWord? cs = some piece) :
    Taken cs piece := by
  simp only [bareWord?] at h
  split at h
  · simp at h
  · obtain rfl := Option.some.inj h
    have hword : ∀ c ∈ cs.takeWhile (!isBlank ·), isBlank c = false :=
      fun c hc => by simpa using List.mem_takeWhile_imp hc
    have hspells : Spells (cs.takeWhile (!isBlank ·))
        (.text (String.ofList (cs.takeWhile (!isBlank ·)))) := .inl ⟨by simp, hword⟩
    have hplain : Plain (.text (String.ofList (cs.takeWhile (!isBlank ·)))) := by
      simp only [Plain, String.toList_ofList]
      exact fun c hc => isLineBreak_of_not_isBlank (hword c hc)
    have ht := taken_before (atGap_dropWhile cs) hspells hplain
    rwa [List.takeWhile_append_dropWhile] at ht

theorem piece?_taken {cs : List Char} {piece : Piece} (h : piece? cs = some piece) :
    Taken cs piece := by
  obtain ⟨rule, hrule, h⟩ := List.exists_of_findSome?_eq_some h
  rcases mem_rules.1 hrule with rfl | rfl | rfl | rfl
  · exact wordClause?_taken h
  · exact clause?_taken h
  · exact quotedText?_taken h
  · exact bareWord?_taken h

theorem taken_of_next? {cs : List Char} {piece : Piece} (h : next? cs = some piece) :
    Taken (trimLeft cs) piece :=
  piece?_taken h

theorem piece?_cons_ne_none {c : Char} {cs : List Char} (h : isBlank c = false) :
    piece? (c :: cs) ≠ none := by
  intro hnone
  have hword := List.findSome?_eq_none_iff.1 hnone bareWord? (by simp [rules])
  simp [bareWord?, h] at hword

/-! ## Trimmed texts -/

/-- A text with no blank at either end. -/
structure Trimmed (cs : List Char) : Prop where
  head : ∀ c ∈ cs.head?, isBlank c = false
  last : ∀ c ∈ cs.getLast?, isBlank c = false

theorem trimRight_eq (cs : List Char) : trimRight cs = cs.rdropWhile isBlank := rfl

theorem trimmed_trim (cs : List Char) : Trimmed (trim cs) := by
  rw [trim, trimRight_eq]
  constructor
  · intro c hc
    obtain ⟨dropped, hdropped⟩ := List.rdropWhile_prefix isBlank (l := trimLeft cs)
    refine head?_trimLeft cs c ?_
    rw [← hdropped, List.head?_append, Option.mem_def.1 hc]
    rfl
  · intro c hc
    obtain ⟨hne, hlast⟩ := List.mem_getLast?_eq_getLast hc
    rw [hlast]
    simpa using List.rdropWhile_last_not isBlank (trimLeft cs) hne

theorem Trimmed.trimLeft_eq {cs : List Char} (h : Trimmed cs) : trimLeft cs = cs := by
  rcases cs with _ | ⟨c, cs⟩
  · rfl
  · have hc := h.head c rfl
    rw [trimLeft, List.dropWhile_cons_of_neg (by simp [hc])]

theorem Trimmed.next?_taken {cs : List Char} {piece : Piece} (h : Trimmed cs)
    (hnext : next? cs = some piece) : Taken cs piece := by
  have ht := taken_of_next? hnext
  rwa [h.trimLeft_eq] at ht

theorem Trimmed.rest {cs : List Char} {piece : Piece} (h : Trimmed cs) (ht : Taken cs piece) :
    Trimmed piece.rest where
  head := ht.rest_head
  last c hc := by
    refine h.last c ?_
    rw [ht.split, List.getLast?_append, Option.mem_def.1 hc]
    rfl

theorem Trimmed.gap_eq_nil_iff {cs : List Char} {piece : Piece} (h : Trimmed cs)
    (ht : Taken cs piece) : piece.gap = [] ↔ piece.rest = [] := by
  refine ⟨ht.rest_nil, fun hrest => ?_⟩
  by_contra hgap
  have hlast := List.getLast?_eq_getLast_of_ne_nil hgap
  have hmem : piece.gap.getLast hgap ∈ cs.getLast? := by
    rw [ht.split, hrest, List.append_nil, Piece.slice, List.getLast?_append, hlast]
    rfl
  have hblank := ht.gap_blank _ (List.getLast_mem hgap)
  rw [h.last _ hmem] at hblank
  simp at hblank

/-- Some rule applies as long as a character is left that is no blank. -/
theorem next?_eq_none_iff {cs : List Char} : next? cs = none ↔ trimLeft cs = [] := by
  constructor
  · intro h
    rcases hcs : trimLeft cs with _ | ⟨c, rest⟩
    · rfl
    · have hc : isBlank c = false := head?_trimLeft cs c (by rw [hcs]; rfl)
      rw [next?, hcs] at h
      exact absurd h (piece?_cons_ne_none hc)
  · intro h
    rw [next?, h]
    rfl

theorem Trimmed.next?_eq_none_iff {cs : List Char} (h : Trimmed cs) :
    next? cs = none ↔ cs = [] := by
  rw [Token.next?_eq_none_iff, h.trimLeft_eq]

theorem slice_ne_nil {cs : List Char} {piece : Piece} (h : next? cs = some piece)
    (ht : Taken cs piece) : piece.slice ≠ [] := by
  intro hslice
  have hlt := next?_rest_lt h
  rw [ht.split, hslice] at hlt
  simp at hlt

/-! ## Runs -/

/-- Taking the pieces off a text, each by one call of `next?`, leaves the rest. -/
inductive Leaves : List Char → List Piece → List Char → Prop
  | none (cs : List Char) : Leaves cs [] cs
  | next {cs left : List Char} {piece : Piece} {taken : List Piece} :
      next? cs = some piece → Leaves piece.rest taken left → Leaves cs (piece :: taken) left

theorem Leaves.trimmed {cs left : List Char} {taken : List Piece} (h : Leaves cs taken left)
    (hcs : Trimmed cs) : Trimmed left := by
  induction h with
  | none cs => exact hcs
  | next hnext _ ih => exact ih (hcs.rest (hcs.next?_taken hnext))

theorem Leaves.flatMap_slice {cs left : List Char} {taken : List Piece} (h : Leaves cs taken left)
    (hcs : Trimmed cs) : taken.flatMap Piece.slice ++ left = cs := by
  induction h with
  | none cs => rfl
  | next hnext _ ih =>
    have ht := hcs.next?_taken hnext
    rw [List.flatMap_cons, List.append_assoc, ih (hcs.rest ht), ← ht.split]

/-- The calls come to an end, and the pieces are what they took. -/
theorem exists_leaves_pieces (cs : List Char) :
    ∃ left, Leaves cs (pieces cs) left ∧ next? left = none := by
  fun_induction pieces cs with
  | case1 cs h => exact ⟨cs, .none cs, h⟩
  | case2 cs piece h ih =>
    obtain ⟨left, hleft, hnone⟩ := ih
    exact ⟨left, .next h hleft, hnone⟩

theorem Trimmed.leaves_pieces {cs : List Char} (h : Trimmed cs) : Leaves cs (pieces cs) [] := by
  obtain ⟨left, hleft, hnone⟩ := exists_leaves_pieces cs
  rwa [(hleft.trimmed h).next?_eq_none_iff.1 hnone] at hleft

/-- The calls of `next?` on a trimmed text come to an end, and only where nothing is left; what
they take makes up the text again. Each call takes a slice that is not empty: a lexeme that spells
the token, and all the blanks after it, of which there are none just at the end. -/
theorem scan_lossless (s : String) :
    (∃ taken, Leaves (trim s.toList) taken [] ∧ next? [] = none
        ∧ scan s = taken.map (·.token) ∧ taken.flatMap Piece.slice = trim s.toList)
      ∧ ∀ taken left, Leaves (trim s.toList) taken left →
          taken.flatMap Piece.slice ++ left = trim s.toList ∧ (next? left = none ↔ left = [])
            ∧ ∀ piece, next? left = some piece →
                Taken left piece ∧ piece.slice ≠ [] ∧ (piece.gap = [] ↔ piece.rest = []) := by
  have hs := trimmed_trim s.toList
  constructor
  · have hleaves := hs.leaves_pieces
    refine ⟨pieces (trim s.toList), hleaves, rfl, rfl, ?_⟩
    simpa using hleaves.flatMap_slice hs
  · intro taken left hleaves
    have hleft := hleaves.trimmed hs
    refine ⟨hleaves.flatMap_slice hs, hleft.next?_eq_none_iff, fun piece hnext => ?_⟩
    have ht := hleft.next?_taken hnext
    exact ⟨ht, slice_ne_nil hnext ht, hleft.gap_eq_nil_iff ht⟩

end Token

end BoardQuery

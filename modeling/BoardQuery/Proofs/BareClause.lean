import BoardQuery.Proofs.OneWord
import BoardQuery.Proofs.SideBySide
import BoardQuery.Proofs.SmallLetters

/-!
# Keywords before bare values

Every sigil and every word is the keyword of a clause: with its mark it stands before a value that
needs no quotes, and nothing else is read there (`scan_bare`). They are all the keywords that a
search text can have (`exists_mem_scan_iff`).
-/

namespace BoardQuery

open Text

namespace Token

/-! ## A keyword before a bare value -/

/-- A value that is typed without quotes: no blank is in it, and no quote character starts it. -/
structure Bare (value : List Char) : Prop where
  head : ∃ c cs, value = c :: cs ∧ isQuote c = false
  blank : ∀ c ∈ value, isBlank c = false

theorem bare_iff {value : List Char} :
    Bare value ↔
      (value.head?.any (!isQuote ·) && value.all (!isBlank ·)) = true := by
  rw [Bool.and_eq_true]
  constructor
  · rintro ⟨⟨c, cs, rfl, hc⟩, hblank⟩
    exact ⟨by simp [hc], List.all_eq_true.2 fun d hd => by simp [hblank d hd]⟩
  · rintro ⟨hhead, hblank⟩
    rcases value with _ | ⟨c, cs⟩
    · simp at hhead
    · exact ⟨⟨c, cs, rfl, by simpa using hhead⟩,
        fun d hd => by simpa using List.all_eq_true.1 hblank d hd⟩

instance (value : List Char) : Decidable (Bare value) :=
  decidable_of_iff _ bare_iff.symm

theorem bare_singleton {c : Char} (hquote : isQuote c = false) (hblank : isBlank c = false) :
    Bare [c] :=
  ⟨⟨c, [], rfl, hquote⟩, List.forall_mem_singleton.2 hblank⟩

/-- Without quotes and without blanks, a value ends where the text does. -/
theorem close?_not_blank {value : List Char} (h : ∀ c ∈ value, isBlank c = false) :
    close? [] value = some (value, []) := by
  have hclose := @close?_gap value [] h rfl
  rwa [List.append_nil] at hclose

theorem clause?_bare {cs : List Char} {heading : Heading} (hheading : heading? cs = some heading)
    (hbare : Bare heading.rest) :
    ∃ piece, clause? cs = some piece ∧ piece.token = heading.clause heading.rest
      ∧ piece.rest = [] := by
  obtain ⟨c, value, hvalue, hc⟩ := hbare.head
  have hquotes : heading.rest.takeWhile isQuote = [] := by
    rw [hvalue, List.takeWhile_cons_of_neg (by simp [hc])]
  refine ⟨.before [] (heading.clause heading.rest) (heading.lexeme ++ heading.rest), ?_, rfl, rfl⟩
  rw [clause?, hheading, Option.bind_some, hquotes]
  simp [shortenings, clauseWithin?, close?_not_blank hbare.blank]

/-- A keyword with its mark before a bare value is one clause. -/
theorem piece?_bare {keyword value : List Char} (hk : IsKeyword keyword) (hbare : Bare value) :
    ∃ piece, piece? (keyword ++ (markAfter keyword ++ value)) = some piece
      ∧ piece.token = .clause (.typed (String.ofList keyword) (String.ofList value))
      ∧ piece.rest = [] := by
  have hheading : heading? (keyword ++ (markAfter keyword ++ value)) =
      some ⟨keyword, markAfter keyword, value⟩ :=
    heading?_eq_some_iff.2 ⟨hk, rfl, by simp [Heading.lexeme]⟩
  obtain ⟨piece, hpiece, htoken, hrest⟩ := clause?_bare hheading hbare
  exact ⟨piece, piece?_of_clause? hpiece, htoken, hrest⟩

theorem isBlank_of_mem_keyword {keyword : List Char} (hk : IsKeyword keyword) :
    ∀ c ∈ keyword, isBlank c = false := by
  intro c hc
  rcases isKeyword_iff.1 hk with ⟨d, hd, rfl⟩ | hw
  · obtain rfl : c = d := by simpa using hc
    exact isBlank_of_isSigil hd
  · exact isBlank_of_isLetter ((isWord_iff.1 hw).2 c hc)

theorem isBlank_of_mem_markAfter {keyword : List Char} :
    ∀ c ∈ markAfter keyword, isBlank c = false := by
  intro c hc
  unfold markAfter at hc
  split at hc
  · obtain rfl : c = ':' := by simpa using hc
    decide
  · simp at hc

theorem scan_bare {keyword value : String} (hk : IsKeyword keyword.toList)
    (hbare : Bare value.toList) :
    scan (keyword ++ String.ofList (markAfter keyword.toList) ++ value) =
      [.clause (.typed keyword value)] := by
  obtain ⟨piece, hpiece, htoken, hrest⟩ := piece?_bare hk hbare
  rw [String.ofList_toList, String.ofList_toList] at htoken
  have hblank : ∀ c ∈ keyword.toList ++ (markAfter keyword.toList ++ value.toList),
      isBlank c = false := by
    intro c hc
    rcases List.mem_append.1 hc with hc | hc
    · exact isBlank_of_mem_keyword hk c hc
    · rcases List.mem_append.1 hc with hc | hc
      · exact isBlank_of_mem_markAfter c hc
      · exact hbare.blank c hc
  have hlist : (keyword ++ String.ofList (markAfter keyword.toList) ++ value).toList =
      keyword.toList ++ (markAfter keyword.toList ++ value.toList) := by
    simp
  have hnext : next? (keyword ++ String.ofList (markAfter keyword.toList) ++ value).toList =
      some piece := by
    rw [hlist, next?, trimLeft_eq_self hblank, hpiece]
  rw [scan_eq_singleton hnext hrest, htoken]

/-- A word and a colon before a bare value are one clause. -/
theorem scan_word {keyword value : String} (hkeyword : isWord keyword.toList = true)
    (hbare : Bare value.toList) :
    scan (keyword ++ ":" ++ value) = [.clause (.typed keyword value)] := by
  have hscan := scan_bare (.inr (.inr hkeyword)) hbare
  rwa [markAfter_of_isWord hkeyword] at hscan

theorem ofList_markAfter {keyword : String} (hk : IsKeyword keyword.toList) :
    String.ofList (markAfter keyword.toList) =
      if keyword = "#" ∨ keyword = "@" then "" else ":" := by
  rcases hk with hk | hk | hk
  · obtain rfl : keyword = "#" := String.toList_inj.1 hk
    rw [hk, markAfter_of_isSigil (by decide), if_pos (.inl rfl)]
  · obtain rfl : keyword = "@" := String.toList_inj.1 hk
    rw [hk, markAfter_of_isSigil (by decide), if_pos (.inr rfl)]
  · rw [markAfter_of_isWord hk, if_neg]
    rintro (rfl | rfl)
    · exact absurd hk (by decide)
    · exact absurd hk (by decide)

/-! ## The keywords that occur -/

theorem taken_of_mem_pieces {piece : Piece} (cs : List Char) (h : piece ∈ pieces cs) :
    ∃ left, Taken left piece := by
  fun_induction pieces cs with
  | case1 cs hnone => simp at h
  | case2 cs first hnext ih =>
    rcases List.mem_cons.1 h with rfl | h
    · exact ⟨trimLeft cs, taken_of_next? hnext⟩
    · exact ih h

theorem isKeyword_of_mem_scan {clause : Clause} {input : String}
    (h : Token.clause clause ∈ scan input) : IsKeyword clause.keyword.toList := by
  obtain ⟨piece, hpiece, htoken⟩ := List.mem_map.1 h
  obtain ⟨left, htaken⟩ := taken_of_mem_pieces _ hpiece
  have hspells := htaken.spells
  rw [htoken] at hspells
  exact hspells.1

/-- The keywords of clauses are the sigils and the words. -/
theorem exists_mem_scan_iff {keyword : String} :
    (∃ input clause, Token.clause clause ∈ scan input ∧ clause.keyword = keyword) ↔
      IsKeyword keyword.toList := by
  constructor
  · rintro ⟨input, clause, hmem, rfl⟩
    exact isKeyword_of_mem_scan hmem
  · intro hk
    have hbare : Bare "a".toList := @bare_singleton 'a' (by decide) (by decide)
    refine ⟨keyword ++ String.ofList (markAfter keyword.toList) ++ "a", .typed keyword "a", ?_, rfl⟩
    rw [scan_bare hk hbare]
    exact List.mem_singleton_self _

end Token

end BoardQuery

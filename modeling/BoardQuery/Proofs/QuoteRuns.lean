import BoardQuery.Proofs.Quoting

/-!
# The quotes around a value

What follows the keyword of a clause is a value between two equal runs of quote characters, with a
gap after the second run (`Encloses`). Where quotes are left open or mixed it can be taken apart so
in several ways, and with the empty run it always can (`exists_encloses_nil`). A clause is the way
with the longest run of quotes, and among those the one with the shortest value
(`clause?_eq_some_iff`); so a text that starts with a keyword and its mark never falls back to free
text (`clause?_longest_quote`).
-/

namespace BoardQuery

open Text

namespace Token

/-! ## The shortenings of a run -/

theorem shortenings_descending : ∀ run : List Char,
    (shortenings run).Pairwise fun quote shorter => shorter.length < quote.length
  | [] => List.pairwise_singleton _ _
  | c :: run => by
    rw [shortenings, List.pairwise_append, List.pairwise_map]
    refine ⟨(shortenings_descending run).imp fun h => ?_, List.pairwise_singleton _ _, ?_⟩
    · simpa using h
    · intro quote hquote shorter hshorter
      obtain ⟨quote', -, rfl⟩ := List.mem_map.1 hquote
      obtain rfl := List.mem_singleton.1 hshorter
      simp

/-- Of all shortenings of a run, the first that comes to something is the longest that does. -/
theorem findSome?_shortenings_eq_some_iff {α : Type} {f : List Char → Option α}
    {run : List Char} {a : α} :
    (shortenings run).findSome? f = some a ↔
      ∃ quote, quote <+: run ∧ f quote = some a
        ∧ ∀ longer, longer <+: run → quote.length < longer.length → f longer = none := by
  rw [List.findSome?_eq_some_iff]
  constructor
  · rintro ⟨before, quote, after, hsplit, ha, hnone⟩
    have hdesc := shortenings_descending run
    rw [hsplit, List.pairwise_append, List.pairwise_cons] at hdesc
    refine ⟨quote, mem_shortenings.1 (by simp [hsplit]), ha, fun longer hlonger hlt => ?_⟩
    have hmem := mem_shortenings.2 hlonger
    rw [hsplit, List.mem_append, List.mem_cons] at hmem
    rcases hmem with hmem | rfl | hmem
    · exact hnone longer hmem
    · omega
    · have := hdesc.2.1.1 longer hmem
      omega
  · rintro ⟨quote, hquote, ha, hnone⟩
    obtain ⟨before, after, hsplit⟩ := List.append_of_mem (mem_shortenings.2 hquote)
    have hdesc := shortenings_descending run
    rw [hsplit, List.pairwise_append] at hdesc
    refine ⟨before, quote, after, hsplit, ha, fun longer hlonger => ?_⟩
    refine hnone longer (mem_shortenings.1 (by simp [hsplit, hlonger])) ?_
    exact hdesc.2.2 longer hlonger quote (List.mem_cons_self ..)

/-! ## Values between quotes -/

/-- The text `rest` is a value between two equal runs of quote characters, and `tail` after a gap.
The value ends within its line. -/
structure Encloses (rest quote value tail : List Char) : Prop where
  start : quote <+: rest.takeWhile isQuote
  split : rest = quote ++ (value ++ (quote ++ tail))
  line : OneLine value
  gap : atGap tail = true

theorem encloses_iff {rest quote value tail : List Char} :
    Encloses rest quote value tail ↔
      quote <+: rest.takeWhile isQuote ∧ Closes quote (rest.drop quote.length) value tail := by
  constructor
  · rintro ⟨hstart, hsplit, hline, hgap⟩
    exact ⟨hstart, by rw [hsplit, List.drop_left], hline, hgap⟩
  · rintro ⟨hstart, hsplit, hline, hgap⟩
    obtain ⟨after, hafter⟩ := hstart.trans (List.takeWhile_prefix _)
    refine ⟨hstart, ?_, hline, hgap⟩
    rw [← hafter, List.drop_left] at hsplit
    rw [← hafter, hsplit]

/-- The empty quote encloses what stands before the first gap. -/
theorem exists_encloses_nil (rest : List Char) : ∃ value tail, Encloses rest [] value tail := by
  refine ⟨rest.takeWhile (!isBlank ·), rest.dropWhile (!isBlank ·), List.nil_prefix, ?_, ?_,
    atGap_dropWhile rest⟩
  · rw [List.nil_append, List.nil_append, List.takeWhile_append_dropWhile]
  · intro c hc
    exact isLineBreak_of_not_isBlank (by simpa using List.mem_takeWhile_imp hc)

/-- The way to take a text apart that has the longest quote, and with it the shortest value. -/
structure Delimits (rest quote value tail : List Char) : Prop
    extends Encloses rest quote value tail where
  longest : ∀ quote' value' tail', Encloses rest quote' value' tail' →
    quote'.length ≤ quote.length
  shortest : ∀ value' tail', Encloses rest quote value' tail' → value.length ≤ value'.length

/-! ## Clauses -/

variable {cs : List Char} {heading : Heading} {piece : Piece}

theorem clauseWithin?_eq_some_iff {quote : List Char}
    (hquote : quote <+: heading.rest.takeWhile isQuote) :
    clauseWithin? heading quote = some piece ↔
      ∃ value tail, Encloses heading.rest quote value tail
        ∧ (∀ value' tail', Encloses heading.rest quote value' tail' →
          value.length ≤ value'.length)
        ∧ piece = .before tail (heading.clause value)
          (heading.lexeme ++ (quote ++ (value ++ quote))) := by
  have hiff : ∀ value tail, Encloses heading.rest quote value tail ↔
      Closes quote (heading.rest.drop quote.length) value tail :=
    fun value tail => encloses_iff.trans (and_iff_right hquote)
  simp only [hiff]
  unfold clauseWithin?
  rw [Option.map_eq_some_iff]
  constructor
  · rintro ⟨⟨value, tail⟩, hclose, rfl⟩
    obtain ⟨hcloses, hmin⟩ := close?_eq_some_iff.1 hclose
    exact ⟨value, tail, hcloses, hmin, rfl⟩
  · rintro ⟨value, tail, hcloses, hmin, rfl⟩
    exact ⟨(value, tail), close?_eq_some_iff.2 ⟨hcloses, hmin⟩, rfl⟩

theorem clauseWithin?_eq_none_iff {quote : List Char}
    (hquote : quote <+: heading.rest.takeWhile isQuote) :
    clauseWithin? heading quote = none ↔
      ∀ value tail, ¬Encloses heading.rest quote value tail := by
  unfold clauseWithin?
  rw [Option.map_eq_none_iff]
  constructor
  · intro hnone value tail h
    obtain ⟨value', tail', hclose, -⟩ := exists_close?_of_closes (encloses_iff.1 h).2
    rw [hnone] at hclose
    simp at hclose
  · intro hnot
    rcases hclose : close? quote (heading.rest.drop quote.length) with _ | ⟨value, tail⟩
    · rfl
    · exact absurd (encloses_iff.2 ⟨hquote, closes_of_close? hclose⟩) (hnot value tail)

/-- After its heading, a clause is taken apart with the longest quote and the shortest value. -/
theorem clause?_eq_some_iff (hheading : heading? cs = some heading) :
    clause? cs = some piece ↔
      ∃ quote value tail, Delimits heading.rest quote value tail
        ∧ piece = .before tail (heading.clause value)
          (heading.lexeme ++ (quote ++ (value ++ quote))) := by
  rw [clause?, hheading, Option.bind_some, findSome?_shortenings_eq_some_iff]
  constructor
  · rintro ⟨quote, hquote, hpiece, hnone⟩
    obtain ⟨value, tail, hencloses, hmin, rfl⟩ := (clauseWithin?_eq_some_iff hquote).1 hpiece
    refine ⟨quote, value, tail, ⟨hencloses, fun longer value' tail' h => ?_, hmin⟩, rfl⟩
    by_contra hlt
    exact (clauseWithin?_eq_none_iff h.start).1 (hnone longer h.start (by omega)) value' tail' h
  · rintro ⟨quote, value, tail, hdelimits, rfl⟩
    refine ⟨quote, hdelimits.start, ?_, fun longer hlonger hlt => ?_⟩
    · exact (clauseWithin?_eq_some_iff hdelimits.start).2
        ⟨value, tail, hdelimits.toEncloses, hdelimits.shortest, rfl⟩
    · refine (clauseWithin?_eq_none_iff hlonger).2 fun value' tail' h => ?_
      have := hdelimits.longest longer value' tail' h
      omega

theorem clause?_ne_none (hheading : heading? cs = some heading) : clause? cs ≠ none := by
  intro hnone
  rw [clause?, hheading, Option.bind_some, List.findSome?_eq_none_iff] at hnone
  obtain ⟨value, tail, h⟩ := exists_encloses_nil heading.rest
  exact (clauseWithin?_eq_none_iff h.start).1
    (hnone [] (mem_shortenings.2 List.nil_prefix)) value tail h

/-- What starts with a heading is a clause. -/
theorem exists_piece?_clause (hheading : heading? cs = some heading) :
    ∃ piece clause, piece? cs = some piece ∧ piece.token = .clause clause := by
  obtain ⟨piece, hpiece⟩ := Option.ne_none_iff_exists'.1 (clause?_ne_none hheading)
  obtain ⟨quote, value, tail, -, rfl⟩ := (clause?_eq_some_iff hheading).1 hpiece
  exact ⟨_, _, piece?_of_clause? hpiece, rfl⟩

theorem size_before (tail lexeme : List Char) (token : Token) :
    (Piece.before tail token lexeme).size =
      (String.ofList lexeme).utf8ByteSize
        + (String.ofList (tail.takeWhile isBlank)).utf8ByteSize := by
  rw [Piece.size, Piece.before, String.ofList_append, String.utf8ByteSize_append]

/-- A text is no clause exactly if it does not start with a keyword and its mark. What follows them
is taken apart with the longest of the quotes that enclose a value there, and with the shortest
value; the empty quote always encloses one. The clause takes up the bytes of its keyword, its mark
and its value with the quotes, and of the blanks after them. -/
theorem clause?_longest_quote (cs : List Char) :
    (clause? cs = none ↔
        ∀ keyword rest, IsKeyword keyword → cs ≠ keyword ++ (markAfter keyword ++ rest))
      ∧ ∀ keyword rest, IsKeyword keyword → cs = keyword ++ (markAfter keyword ++ rest) →
        (∃ value tail, Encloses rest [] value tail)
          ∧ (∃ quote value tail, Delimits rest quote value tail)
          ∧ (∀ quote value tail, Delimits rest quote value tail →
            ∃ piece, clause? cs = some piece
              ∧ piece.token = .clause (.typed (String.ofList keyword) (String.ofList value))
              ∧ piece.size =
                (String.ofList (keyword ++ markAfter keyword
                    ++ (quote ++ (value ++ quote)))).utf8ByteSize
                  + (String.ofList (tail.takeWhile isBlank)).utf8ByteSize)
          ∧ ∃ piece clause, piece? cs = some piece ∧ piece.token = .clause clause := by
  have hheading : ∀ keyword rest, IsKeyword keyword →
      heading? (keyword ++ (markAfter keyword ++ rest)) =
        some ⟨keyword, markAfter keyword, rest⟩ := fun keyword rest hk =>
    heading?_eq_some_iff.2 ⟨hk, rfl, by simp [Heading.lexeme]⟩
  constructor
  · constructor
    · rintro hnone keyword rest hk rfl
      exact clause?_ne_none (hheading keyword rest hk) hnone
    · intro hnot
      rcases h : heading? cs with _ | ⟨keyword, mark, rest⟩
      · rw [clause?, h, Option.bind_none]
      · obtain ⟨hk, hmark, hsplit⟩ := heading?_eq_some_iff.1 h
        obtain rfl : mark = markAfter keyword := hmark
        exact absurd (hsplit.trans (List.append_assoc ..)) (hnot keyword rest hk)
  · rintro keyword rest hk rfl
    have hcs := hheading keyword rest hk
    refine ⟨exists_encloses_nil rest, ?_, fun quote value tail h => ?_, exists_piece?_clause hcs⟩
    · obtain ⟨piece, hpiece⟩ := Option.ne_none_iff_exists'.1 (clause?_ne_none hcs)
      obtain ⟨quote, value, tail, h, -⟩ := (clause?_eq_some_iff hcs).1 hpiece
      exact ⟨quote, value, tail, h⟩
    · exact ⟨_, (clause?_eq_some_iff hcs).2 ⟨quote, value, tail, h, rfl⟩, rfl, size_before ..⟩

/-- Two quote characters of which only the first closes. -/
theorem delimits_mixed_quotes :
    Delimits "\"'a'\" x'".toList ['"'] "'a'".toList " x'".toList := by
  have hclose : close? ['"'] "'a'\" x'".toList = some ("'a'".toList, " x'".toList) := by decide
  obtain ⟨hcloses, hmin⟩ := close?_eq_some_iff.1 hclose
  have hstart : ['"'] <+: ("\"'a'\" x'".toList).takeWhile isQuote := ⟨['\''], by decide⟩
  refine ⟨encloses_iff.2 ⟨hstart, hcloses⟩, fun quote value tail h => ?_, fun value tail h => ?_⟩
  · have hmem : quote ∈ shortenings ['"', '\''] := mem_shortenings.2 h.start
    have hnone : close? ['"', '\''] "a'\" x'".toList = none := by decide
    simp only [shortenings, List.map_cons, List.map_nil, List.nil_append, List.cons_append,
      List.mem_cons, List.not_mem_nil, or_false] at hmem
    rcases hmem with rfl | rfl | rfl
    · obtain ⟨value', tail', hlonger, -⟩ := exists_close?_of_closes (encloses_iff.1 h).2
      exact absurd (hlonger.symm.trans hnone) (by simp)
    · exact le_rfl
    · exact Nat.zero_le _
  · exact hmin value tail (encloses_iff.1 h).2

theorem clause?_longest_quote_mixed :
    IsKeyword "board".toList
      ∧ Delimits "\"'a'\" x'".toList ['"'] "'a'".toList " x'".toList
      ∧ ∃ piece, clause? "board:\"'a'\" x'".toList = some piece
        ∧ piece.token = .clause ⟨"board", "'a'", false⟩ ∧ piece.size = 12 := by
  have hk : IsKeyword "board".toList := by decide
  obtain ⟨-, -, hclause, -⟩ :=
    (clause?_longest_quote "board:\"'a'\" x'".toList).2 _ "\"'a'\" x'".toList hk (by decide)
  obtain ⟨piece, hpiece, htoken, hsize⟩ := hclause _ _ _ delimits_mixed_quotes
  exact ⟨hk, delimits_mixed_quotes, piece, hpiece, htoken.trans (by decide),
    hsize.trans (by decide)⟩

end Token

end BoardQuery

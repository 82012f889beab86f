import BoardQuery.Proofs.Closing

/-!
# Values of one word

The first rule is a short way. A value that is one word starts with no quote and ends at the first
gap, so the rule for values of any kind takes the same piece (`clause?_of_wordClause?`). Without the
first rule every text has the same tokens (`scanBy_tail`).
-/

namespace BoardQuery

open Text

namespace Token

/-- What the first rule takes, the second takes too. -/
theorem clause?_of_wordClause? {cs : List Char} {piece : Piece} (h : wordClause? cs = some piece) :
    clause? cs = some piece := by
  obtain ⟨heading, hheading, hpiece⟩ := Option.bind_eq_some_iff.1 h
  simp only [] at hpiece
  split at hpiece
  · rename_i hcond
    obtain rfl := Option.some.inj hpiece
    obtain ⟨hne, hgap⟩ := Bool.and_eq_true_iff.1 hcond
    have hblank : ∀ c ∈ heading.rest.takeWhile isLetter, isBlank c = false :=
      fun c hc => isBlank_of_isLetter (List.mem_takeWhile_imp hc)
    have hclose := close?_gap hblank hgap
    rw [List.takeWhile_append_dropWhile] at hclose
    have hquotes : heading.rest.takeWhile isQuote = [] := by
      rcases hrest : heading.rest with _ | ⟨c, rest⟩
      · rfl
      · have hc : isLetter c = true := by
          by_contra hc
          simp [hrest, hc] at hne
        rw [List.takeWhile_cons_of_neg (by simp [isQuote_of_isLetter hc])]
    rw [clause?, hheading, Option.bind_some, hquotes]
    simp [shortenings, clauseWithin?, hclose]
  · simp at hpiece

theorem piece?_of_clause? {cs : List Char} {piece : Piece} (h : clause? cs = some piece) :
    piece? cs = some piece := by
  rcases hword : wordClause? cs with _ | piece'
  · simp [piece?, rules, hword, h]
  · rw [clause?_of_wordClause? hword] at h
    simp [piece?, rules, hword, h]

/-! ## Fewer rules -/

/-- The pieces of a text when only some of the rules are tried, in the order given. -/
def piecesBy (kept : List (List Char → Option Piece)) (hkept : kept ⊆ rules) (cs : List Char) :
    List Piece :=
  match _h : kept.findSome? (· (trimLeft cs)) with
  | none => []
  | some piece => piece :: piecesBy kept hkept piece.rest
termination_by cs.length
decreasing_by
  obtain ⟨rule, hrule, hpiece⟩ := List.exists_of_findSome?_eq_some _h
  exact Nat.lt_of_lt_of_le (rule_rest_lt (hkept hrule) hpiece)
    (List.dropWhile_sublist _).length_le

/-- The tokens of a text when only some of the rules are tried. -/
def scanBy (kept : List (List Char → Option Piece)) (hkept : kept ⊆ rules) (s : String) :
    List Token :=
  (piecesBy kept hkept (trim s.toList)).map (·.token)

/-- Rules that come to the same pieces as all of them can stand for all of them. -/
theorem piecesBy_eq {kept : List (List Char → Option Piece)} (hkept : kept ⊆ rules)
    (h : ∀ cs, kept.findSome? (· cs) = piece? cs) (cs : List Char) :
    piecesBy kept hkept cs = pieces cs := by
  fun_induction pieces cs with
  | case1 cs hnone =>
    rw [piecesBy]
    split <;> simp_all [next?]
  | case2 cs piece hnext ih =>
    rw [piecesBy]
    split <;> simp_all [next?]

theorem findSome?_tail_rules (cs : List Char) : rules.tail.findSome? (· cs) = piece? cs := by
  rcases hclause : clause? cs with _ | piece
  · have hword : wordClause? cs = none := by
      by_contra hne
      obtain ⟨piece, hpiece⟩ := Option.ne_none_iff_exists'.1 hne
      simp [clause?_of_wordClause? hpiece] at hclause
    simp [piece?, rules, hword]
  · rw [piece?_of_clause? hclause]
    simp [rules, hclause]

theorem tail_rules_subset : rules.tail ⊆ rules :=
  (List.tail_sublist rules).subset

/-- Where the first rule takes a piece, the second takes the same, with the same token and as many
bytes; so all texts have the same tokens when only the rules after the first are tried. -/
theorem scanBy_tail :
    (∀ cs piece, wordClause? cs = some piece → clause? cs = some piece)
      ∧ ∀ s, scan s = scanBy rules (List.Subset.refl _) s
        ∧ scanBy rules.tail tail_rules_subset s = scan s := by
  refine ⟨fun cs piece => clause?_of_wordClause?, fun s => ⟨?_, ?_⟩⟩
  · rw [scanBy, piecesBy_eq _ fun cs => rfl]
    rfl
  · rw [scanBy, piecesBy_eq _ findSome?_tail_rules]
    rfl

/-- A sigil before a word with marks, and a wide blank. -/
theorem scanBy_tail_marks :
    let piece : Piece :=
      ⟨.clause ⟨"@", "e\u0301té", false⟩, "@e\u0301té".toList, ['\u3000'], "x:y".toList⟩
    wordClause? "@e\u0301té\u3000x:y".toList = some piece
      ∧ clause? "@e\u0301té\u3000x:y".toList = some piece ∧ piece.size = 10
      ∧ scanBy rules.tail tail_rules_subset "@e\u0301té\u3000x:y" = scan "@e\u0301té\u3000x:y" := by
  intro piece
  have hpiece : wordClause? "@e\u0301té\u3000x:y".toList = some piece := by decide +kernel
  exact ⟨hpiece, scanBy_tail.1 _ _ hpiece, by decide, (scanBy_tail.2 _).2⟩

end Token

end BoardQuery

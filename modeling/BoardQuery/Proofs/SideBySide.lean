import BoardQuery.Proofs.Pieces

/-!
# Two texts with a gap between them

A text is read up to a gap as if it ended there, provided that no quote in it reaches over the gap
(`Apart`). So the tokens of two texts side by side are the tokens of the one and then those of the
other (`map_token_pieces_append`), and blanks at the ends of a text make no difference
(`scan_eq`). A line break between two texts always keeps them apart, and any blank does after a
text without quotes (`scan_append`).
-/

namespace BoardQuery

open Text

namespace Token

/-- No quote that occurs in `cs` is closed within `t`, which starts at a gap. -/
structure Apart (cs t : List Char) : Prop where
  gap : atGap t = true
  close : ∀ quote, quote ≠ [] → (∀ c ∈ quote, c ∈ cs ∧ isQuote c = true) → close? quote t = none

theorem Apart.mono {cs cs' t : List Char} (h : Apart cs t) (hsub : cs' ⊆ cs) : Apart cs' t where
  gap := h.gap
  close quote hne hq := h.close quote hne fun c hc => ⟨hsub (hq c hc).1, (hq c hc).2⟩

theorem apart_of_no_quotes {cs t : List Char} (hcs : ∀ c ∈ cs, isQuote c = false)
    (ht : atGap t = true) : Apart cs t where
  gap := ht
  close quote hne hq := by
    rcases quote with _ | ⟨c, quote⟩
    · exact absurd rfl hne
    · obtain ⟨hmem, hc⟩ := hq c (List.mem_cons_self ..)
      rw [hcs c hmem] at hc
      simp at hc

theorem apart_of_isLineBreak {c : Char} (hc : isLineBreak c = true) (cs t : List Char) :
    Apart cs (c :: t) where
  gap := isBlank_of_isLineBreak hc
  close quote hne hq := by
    have here : ¬∃ tail, c :: t = quote ++ tail ∧ atGap tail = true := by
      rintro ⟨tail, h, -⟩
      rcases quote with _ | ⟨d, quote⟩
      · exact hne rfl
      · have hd := isBlank_of_isQuote (hq d (List.mem_cons_self ..)).2
        obtain ⟨rfl, -⟩ := List.cons.inj h
        rw [isBlank_of_isLineBreak hc] at hd
        simp at hd
    rw [close?_cons_of_not here, if_pos hc]

theorem apart_of_blank {t : List Char} (ht : ∀ c ∈ t, isBlank c = true) (cs : List Char) :
    Apart cs t where
  gap := by
    rcases t with _ | ⟨c, t⟩
    · rfl
    · exact ht c (List.mem_cons_self ..)
  close quote hne hq := by
    rcases h : close? quote t with _ | ⟨value, tail⟩
    · rfl
    · rcases quote with _ | ⟨c, quote⟩
      · exact absurd rfl hne
      · have hc := isBlank_of_isQuote (hq c (List.mem_cons_self ..)).2
        rw [ht c (by rw [(closes_of_close? h).split]; simp)] at hc
        simp at hc

/-! ## A rule before a gap -/

theorem takeWhile_append_gap {p : Char → Bool} (hp : ∀ c, isBlank c = true → p c = false)
    {t : List Char} (ht : atGap t = true) (cs : List Char) :
    (cs ++ t).takeWhile p = cs.takeWhile p := by
  induction cs with
  | nil =>
    rcases t with _ | ⟨c, t⟩
    · rfl
    · rw [List.nil_append, List.takeWhile_cons_of_neg (by simp [hp c ht]), List.takeWhile_nil]
  | cons c cs ih => rw [List.cons_append, List.takeWhile_cons, List.takeWhile_cons, ih]

theorem dropWhile_append_gap {p : Char → Bool} (hp : ∀ c, isBlank c = true → p c = false)
    {t : List Char} (ht : atGap t = true) (cs : List Char) :
    (cs ++ t).dropWhile p = cs.dropWhile p ++ t := by
  induction cs with
  | nil =>
    rcases t with _ | ⟨c, t⟩
    · rfl
    · rw [List.nil_append, List.dropWhile_cons_of_neg (by simp [hp c ht]), List.dropWhile_nil,
        List.nil_append]
  | cons c cs ih =>
    rw [List.cons_append, List.dropWhile_cons, List.dropWhile_cons, ih]
    split <;> rfl

theorem isQuote_of_isBlank {c : Char} (h : isBlank c = true) : isQuote c = false :=
  excluded_symm isBlank_of_isQuote h

/-- The piece when more characters follow what was left. -/
def Piece.followedBy (t : List Char) (piece : Piece) : Piece :=
  .before (piece.gap ++ piece.rest ++ t) piece.token piece.lexeme

theorem before_followedBy (tail t : List Char) (token : Token) (lexeme : List Char) :
    (Piece.before tail token lexeme).followedBy t = .before (tail ++ t) token lexeme := by
  simp only [Piece.followedBy, Piece.before, List.takeWhile_append_dropWhile]

theorem isBlank_of_mem_lexeme {heading : Heading} {cs : List Char}
    (h : heading? cs = some heading) : ∀ c ∈ heading.lexeme, isBlank c = false := by
  obtain ⟨hk, hmark, -⟩ := heading?_eq_some_iff.1 h
  intro c hc
  rw [Heading.lexeme, hmark, List.mem_append] at hc
  rcases isKeyword_iff.1 hk with ⟨d, hd, hkey⟩ | hw
  · rw [hkey, markAfter_of_isSigil hd] at hc
    obtain rfl : c = d := by simpa using hc
    exact isBlank_of_isSigil hd
  · rw [markAfter_of_isWord hw] at hc
    rcases hc with hc | hc
    · exact isBlank_of_isLetter ((isWord_iff.1 hw).2 c hc)
    · obtain rfl : c = ':' := by simpa using hc
      decide

theorem heading?_append {t : List Char} (ht : atGap t = true) (cs : List Char) :
    heading? (cs ++ t) =
      (heading? cs).map fun heading => { heading with rest := heading.rest ++ t } := by
  rcases h : heading? cs with _ | heading
  · rcases h' : heading? (cs ++ t) with _ | heading'
    · rfl
    · obtain ⟨hk, hmark, hsplit⟩ := heading?_eq_some_iff.1 h'
      obtain ⟨mid, rfl, -⟩ := append_of_append_gap (isBlank_of_mem_lexeme h') ht hsplit
      have hsome : heading? (heading'.lexeme ++ mid) = some { heading' with rest := mid } :=
        heading?_eq_some_iff.2 ⟨hk, hmark, rfl⟩
      rw [hsome] at h
      simp at h
  · obtain ⟨hk, hmark, rfl⟩ := heading?_eq_some_iff.1 h
    rw [List.append_assoc]
    exact heading?_eq_some_iff.2 ⟨hk, hmark, rfl⟩

theorem wordClause?_append {t : List Char} (ht : atGap t = true) (cs : List Char) :
    wordClause? (cs ++ t) = (wordClause? cs).map (Piece.followedBy t) := by
  rw [wordClause?, wordClause?, heading?_append ht]
  rcases heading? cs with _ | heading
  · rfl
  · simp only [Option.map_some, Option.bind_some, Heading.clause, Heading.lexeme]
    rw [takeWhile_append_gap (fun _ => isLetter_of_isBlank) ht,
      dropWhile_append_gap (fun _ => isLetter_of_isBlank) ht, atGap_append ht]
    split
    · rw [Option.map_some, before_followedBy]
    · rfl

theorem clauseWithin?_append {heading : Heading} {quote t : List Char}
    (h : Apart heading.rest t) (hq : quote <+: heading.rest.takeWhile isQuote) :
    clauseWithin? { heading with rest := heading.rest ++ t } quote =
      (clauseWithin? heading quote).map (Piece.followedBy t) := by
  have hquote : ∀ c ∈ quote, isQuote c = true :=
    fun c hc => List.mem_takeWhile_imp (hq.subset hc)
  have hrest := hq.trans (List.takeWhile_prefix _)
  have hclose : quote ≠ [] → close? quote t = none :=
    fun hne => h.close quote hne fun c hc => ⟨hrest.subset hc, hquote c hc⟩
  simp only [clauseWithin?, Heading.clause, Heading.lexeme]
  rw [List.drop_append_of_le_length hrest.length_le, close?_append hquote h.gap hclose]
  rcases close? quote (heading.rest.drop quote.length) with _ | ⟨value, tail⟩
  · rfl
  · exact congrArg some (before_followedBy ..).symm

theorem findSome?_eq_map {α β : Type} {f g : α → Option β} {k : β → β} :
    ∀ {l : List α}, (∀ a ∈ l, f a = (g a).map k) → l.findSome? f = (l.findSome? g).map k
  | [], _ => rfl
  | a :: l, h => by
    rw [List.findSome?_cons, List.findSome?_cons, h a (List.mem_cons_self ..)]
    rcases g a with _ | b
    · exact findSome?_eq_map fun a' ha' => h a' (List.mem_cons_of_mem _ ha')
    · rfl

theorem clause?_append {cs t : List Char} (h : Apart cs t) :
    clause? (cs ++ t) = (clause? cs).map (Piece.followedBy t) := by
  rw [clause?, clause?, heading?_append h.gap]
  rcases hh : heading? cs with _ | heading
  · rfl
  · obtain ⟨-, -, rfl⟩ := heading?_eq_some_iff.1 hh
    have hrest : Apart heading.rest t := h.mono (List.subset_append_right _ _)
    simp only [Option.map_some, Option.bind_some]
    rw [takeWhile_append_gap (fun _ => isQuote_of_isBlank) h.gap]
    exact findSome?_eq_map fun quote hq => clauseWithin?_append hrest (mem_shortenings.1 hq)

theorem quotedText?_append {t : List Char} : ∀ {cs : List Char}, Apart cs t →
    quotedText? (cs ++ t) = (quotedText? cs).map (Piece.followedBy t)
  | [], h => by
    rcases t with _ | ⟨c, t⟩
    · rfl
    · have hc : isQuote c = false := isQuote_of_isBlank h.gap
      simp [quotedText?, hc]
  | c :: cs, h => by
    rw [List.cons_append, quotedText?, quotedText?]
    by_cases hc : isQuote c = true
    · have hquote : ∀ d ∈ [c], isQuote d = true := by simpa using hc
      have hclose : [c] ≠ [] → close? [c] t = none := fun hne => h.close [c] hne (by simp [hc])
      rw [if_pos hc, if_pos hc, close?_append hquote h.gap hclose]
      rcases close? [c] cs with _ | ⟨quoted, tail⟩
      · rfl
      · exact congrArg some (before_followedBy ..).symm
    · rw [if_neg hc, if_neg hc]
      rfl

theorem bareWord?_append {t : List Char} (ht : atGap t = true) (cs : List Char) :
    bareWord? (cs ++ t) = (bareWord? cs).map (Piece.followedBy t) := by
  have hp : ∀ c, isBlank c = true → (!isBlank c) = false := by simp
  simp only [bareWord?]
  rw [takeWhile_append_gap hp ht, dropWhile_append_gap hp ht]
  split
  · rfl
  · rw [Option.map_some, before_followedBy]

theorem piece?_append {cs t : List Char} (h : Apart cs t) :
    piece? (cs ++ t) = (piece? cs).map (Piece.followedBy t) := by
  refine findSome?_eq_map fun rule hrule => ?_
  rcases mem_rules.1 hrule with rfl | rfl | rfl | rfl
  · exact wordClause?_append h.gap cs
  · exact clause?_append h
  · exact quotedText?_append h
  · exact bareWord?_append h.gap cs

/-! ## Whole texts -/

theorem trimLeft_append_of_blank {gap : List Char} (h : ∀ c ∈ gap, isBlank c = true)
    (cs : List Char) : trimLeft (gap ++ cs) = trimLeft cs :=
  List.dropWhile_append_of_pos h

theorem pieces_eq_of_trimLeft {cs cs' : List Char} (h : trimLeft cs = trimLeft cs') :
    pieces cs = pieces cs' := by
  have hnext : next? cs = next? cs' := by rw [next?, next?, h]
  rcases hcs : next? cs with _ | piece
  · rw [pieces_of_none hcs, pieces_of_none (hnext ▸ hcs)]
  · have hcs' : next? cs' = some piece := hnext ▸ hcs
    rw [pieces_of_some hcs, pieces_of_some hcs']

theorem trimLeft_append_of_ne_nil {cs : List Char} (h : trimLeft cs ≠ []) (t : List Char) :
    trimLeft (cs ++ t) = trimLeft cs ++ t := by
  have hcs : (cs.dropWhile isBlank).isEmpty = false := by simpa [trimLeft] using h
  rw [trimLeft, List.dropWhile_append, hcs]
  rfl

theorem next?_append {cs t : List Char} {piece : Piece} (h : Apart cs t)
    (hnext : next? cs = some piece) : next? (cs ++ t) = some (piece.followedBy t) := by
  have hne : trimLeft cs ≠ [] := by
    intro hnil
    rw [next?_eq_none_iff.2 hnil] at hnext
    simp at hnext
  have hsub : Apart (trimLeft cs) t := h.mono (List.dropWhile_sublist _).subset
  rw [next?, trimLeft_append_of_ne_nil hne, piece?_append hsub]
  rw [next?] at hnext
  rw [hnext]
  rfl

theorem pieces_followedBy_rest {cs t : List Char} {piece : Piece} (h : next? cs = some piece) :
    pieces (piece.followedBy t).rest = pieces (piece.rest ++ t) := by
  refine pieces_eq_of_trimLeft ?_
  show trimLeft (trimLeft (piece.gap ++ piece.rest ++ t)) = trimLeft (piece.rest ++ t)
  rw [List.append_assoc, trimLeft_append_of_blank (taken_of_next? h).gap_blank]
  exact List.dropWhile_idempotent isBlank _

theorem map_token_pieces_append {t : List Char} (cs : List Char) (h : Apart cs t) :
    (pieces (cs ++ t)).map (·.token) = (pieces cs).map (·.token) ++ (pieces t).map (·.token) := by
  fun_induction pieces cs with
  | case1 cs hnone =>
    have hblank : ∀ c ∈ cs, isBlank c = true :=
      List.dropWhile_eq_nil_iff.1 (next?_eq_none_iff.1 hnone)
    rw [pieces_eq_of_trimLeft (trimLeft_append_of_blank hblank t)]
    rfl
  | case2 cs piece hnext ih =>
    have hsub : piece.rest ⊆ cs := by
      have hsplit := (taken_of_next? hnext).split
      exact fun c hc => (List.dropWhile_sublist isBlank).subset
        (by rw [← trimLeft, hsplit]; exact List.mem_append_right _ hc)
    rw [pieces_of_some (next?_append h hnext), pieces_followedBy_rest hnext, List.map_cons,
      ih (h.mono hsub)]
    rfl

theorem pieces_trimLeft (cs : List Char) : pieces (trimLeft cs) = pieces cs :=
  pieces_eq_of_trimLeft (List.dropWhile_idempotent isBlank cs)

theorem map_token_pieces_trimRight (cs : List Char) :
    (pieces (trimRight cs)).map (·.token) = (pieces cs).map (·.token) := by
  have hsplit : trimRight cs ++ cs.rtakeWhile isBlank = cs := List.rdropWhile_append_rtakeWhile
  have hblank : ∀ c ∈ cs.rtakeWhile isBlank, isBlank c = true :=
    fun c hc => List.mem_rtakeWhile_imp hc
  have hnil : pieces (cs.rtakeWhile isBlank) = [] :=
    pieces_of_none (next?_eq_none_iff.2 (List.dropWhile_eq_nil_iff.2 hblank))
  have happend := map_token_pieces_append _ (apart_of_blank hblank (trimRight cs))
  rw [hsplit, hnil, List.map_nil, List.append_nil] at happend
  exact happend.symm

/-- Blanks at the ends of a text make no difference to its tokens. -/
theorem scan_eq (s : String) : scan s = (pieces s.toList).map (·.token) := by
  rw [scan, trim, map_token_pieces_trimRight, pieces_trimLeft]

/-- A text that one piece uses up has one token. -/
theorem scan_eq_singleton {s : String} {piece : Piece} (h : next? s.toList = some piece)
    (hrest : piece.rest = []) : scan s = [piece.token] := by
  rw [scan_eq, pieces_of_some h, hrest, pieces_of_none (next?_eq_none_iff.2 rfl)]
  rfl

/-- A line break parts any two texts, and any blank parts a text without quotes from what follows
it: the tokens are those of the one text and then those of the other. -/
theorem scan_append (a b : String) {c : Char} (hc : isBlank c = true)
    (h : isLineBreak c = true ∨ ∀ d ∈ a.toList, isQuote d = false) :
    scan (a ++ String.singleton c ++ b) = scan a ++ scan b := by
  have hapart : Apart a.toList (c :: b.toList) := by
    rcases h with h | h
    · exact apart_of_isLineBreak h _ _
    · exact apart_of_no_quotes h hc
  have hgap : ∀ d ∈ [c], isBlank d = true := by simpa using hc
  have hb : pieces (c :: b.toList) = pieces b.toList :=
    pieces_eq_of_trimLeft (trimLeft_append_of_blank hgap b.toList)
  have hlist : (a ++ String.singleton c ++ b).toList = a.toList ++ c :: b.toList := by
    simp
  rw [scan_eq, scan_eq, scan_eq, hlist, map_token_pieces_append _ hapart, hb]

/-- A quote left open before the end of a line. -/
theorem scan_append_open_quote :
    isBlank '\n' = true ∧ isLineBreak '\n' = true
      ∧ scan ("list:\"to do" ++ String.singleton '\n' ++ "\"done\" it's")
        = scan "list:\"to do" ++ scan "\"done\" it's" :=
  ⟨by decide, by decide, scan_append _ _ (by decide) (.inl (by decide))⟩

end Token

end BoardQuery

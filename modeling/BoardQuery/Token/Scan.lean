import BoardQuery.Token
import BoardQuery.Text.Blank
import BoardQuery.Text.Letter

/-!
# Splitting a search text into tokens

Four rules are tried in turn at the start of what is left: a clause whose value is one word, a
clause with any value, quoted text, and a bare word. A rule takes the characters of one token and
the blanks after them, so every step leaves less than it found (`next?_rest_lt`).

A value ends where a blank or the end of the text follows. Quotes around it are a run of quote
characters repeated at its end; the longest run that closes is taken, and what is left of an
unbalanced one belongs to the value. No value crosses the end of a line.
-/

namespace BoardQuery

open Text

namespace Token

/-- The characters that stand for a keyword by themselves. -/
def isSigil (c : Char) : Bool :=
  c == '#' || c == '@'

/-- The characters that quote a value. -/
def isQuote (c : Char) : Bool :=
  c == '"' || c == '\''

/-- Whether a token may end before these characters: none are left, or a blank comes first. -/
def atGap : List Char → Bool
  | [] => true
  | c :: _ => isBlank c

/-- A token with the characters that spell it, the blanks after them, and the rest. -/
structure Piece where
  token : Token
  lexeme : List Char
  gap : List Char
  rest : List Char
deriving DecidableEq, Repr

namespace Piece

/-- A piece before the characters `tail`, which start with its gap. -/
def before (tail : List Char) (token : Token) (lexeme : List Char) : Piece :=
  ⟨token, lexeme, tail.takeWhile isBlank, tail.dropWhile isBlank⟩

/-- The bytes that the token and its gap take up in UTF-8. -/
def size (piece : Piece) : Nat :=
  (String.ofList (piece.lexeme ++ piece.gap)).utf8ByteSize

theorem before_rest_le (tail : List Char) (token : Token) (lexeme : List Char) :
    (before tail token lexeme).rest.length ≤ tail.length :=
  (List.dropWhile_sublist _).length_le

end Piece

/-! ## The start of a clause -/

/-- What makes a text a clause: its keyword, the mark after the keyword, and the rest. -/
structure Heading where
  keyword : List Char
  mark : List Char
  rest : List Char
deriving DecidableEq, Repr

/-- A sigil, or a run of letters and marks with a colon after it. -/
def heading? : List Char → Option Heading
  | [] => none
  | c :: cs =>
    if isSigil c then some ⟨[c], [], cs⟩
    else if isLetter c then
      match cs.dropWhile isLetter with
      | ':' :: rest => some ⟨c :: cs.takeWhile isLetter, [':'], rest⟩
      | _ => none
    else none

def Heading.lexeme (heading : Heading) : List Char :=
  heading.keyword ++ heading.mark

def Heading.clause (heading : Heading) (value : List Char) : Token :=
  .clause (.typed (String.ofList heading.keyword) (String.ofList value))

theorem heading?_rest_lt {cs : List Char} {heading : Heading} (h : heading? cs = some heading) :
    heading.rest.length < cs.length := by
  rcases cs with _ | ⟨c, cs⟩
  · simp [heading?] at h
  · simp only [heading?] at h
    split at h
    · obtain rfl := Option.some.inj h
      simp
    · split at h
      · split at h
        · next rest hrest =>
          obtain rfl := Option.some.inj h
          have := (List.dropWhile_sublist (l := cs) isLetter).length_le
          simp only [hrest, List.length_cons] at this ⊢
          omega
        · simp at h
      · simp at h

/-! ## The end of a value -/

/-- The shortest value that `quote` closes, and the characters after the closing quote. Nothing
closes a value on a later line. -/
def close? (quote : List Char) : List Char → Option (List Char × List Char)
  | [] => if quote.isEmpty then some ([], []) else none
  | c :: cs =>
    if quote.isPrefixOf (c :: cs) && atGap ((c :: cs).drop quote.length) then
      some ([], (c :: cs).drop quote.length)
    else if isLineBreak c then none
    else (close? quote cs).map fun (value, tail) => (c :: value, tail)

theorem close?_tail_le {quote cs value tail : List Char}
    (h : close? quote cs = some (value, tail)) : tail.length ≤ cs.length := by
  induction cs generalizing value with
  | nil =>
    simp only [close?] at h
    split at h <;> simp_all
  | cons c cs ih =>
    simp only [close?] at h
    split at h
    · simp only [Option.some.injEq, Prod.mk.injEq] at h
      rw [← h.2]
      simp
    · split at h
      · simp at h
      · obtain ⟨⟨value', tail'⟩, hclose, heq⟩ := Option.map_eq_some_iff.1 h
        obtain ⟨-, rfl⟩ := Prod.mk.inj heq
        exact Nat.le_succ_of_le (ih hclose)

/-! ## The rules -/

/-- A clause whose value is a run of letters and marks. -/
def wordClause? (cs : List Char) : Option Piece :=
  (heading? cs).bind fun heading =>
    let value := heading.rest.takeWhile isLetter
    let tail := heading.rest.dropWhile isLetter
    if !value.isEmpty && atGap tail then
      some (.before tail (heading.clause value) (heading.lexeme ++ value))
    else none

/-- A clause whose value stands between two runs of the quote characters `quote`, which may be
empty. -/
def clauseWithin? (heading : Heading) (quote : List Char) : Option Piece :=
  (close? quote (heading.rest.drop quote.length)).map fun (value, tail) =>
    .before tail (heading.clause value) (heading.lexeme ++ (quote ++ (value ++ quote)))

/-- What is left of a run when characters are taken off its end, the longest first. -/
def shortenings : List Char → List (List Char)
  | [] => [[]]
  | c :: cs => (shortenings cs).map (c :: ·) ++ [[]]

/-- A clause with any value, between the longest quotes that close. -/
def clause? (cs : List Char) : Option Piece :=
  (heading? cs).bind fun heading =>
    (shortenings (heading.rest.takeWhile isQuote)).findSome? (clauseWithin? heading)

/-- Text between two quote characters of one kind. -/
def quotedText? : List Char → Option Piece
  | [] => none
  | c :: cs =>
    if isQuote c then
      (close? [c] cs).map fun (quoted, tail) =>
        .before tail (.text (String.ofList quoted)) (c :: (quoted ++ [c]))
    else none

/-- The characters up to the next blank. -/
def bareWord? (cs : List Char) : Option Piece :=
  let word := cs.takeWhile (!isBlank ·)
  if word.isEmpty then none
  else some (.before (cs.dropWhile (!isBlank ·)) (.text (String.ofList word)) word)

/-- The rules, in the order in which they are tried. -/
def rules : List (List Char → Option Piece) :=
  [wordClause?, clause?, quotedText?, bareWord?]

/-- The piece at the start of a text, by the first rule that applies. -/
def piece? (cs : List Char) : Option Piece :=
  rules.findSome? (· cs)

theorem wordClause?_rest_lt {cs : List Char} {piece : Piece} (h : wordClause? cs = some piece) :
    piece.rest.length < cs.length := by
  obtain ⟨heading, hheading, h⟩ := Option.bind_eq_some_iff.1 h
  have hlt := heading?_rest_lt hheading
  have hle := (List.dropWhile_sublist (l := heading.rest) isLetter).length_le
  simp only at h
  split at h
  · obtain rfl := Option.some.inj h
    exact Nat.lt_of_le_of_lt (Piece.before_rest_le ..) (Nat.lt_of_le_of_lt hle hlt)
  · simp at h

theorem clauseWithin?_rest_le {heading : Heading} {quote : List Char} {piece : Piece}
    (h : clauseWithin? heading quote = some piece) :
    piece.rest.length ≤ heading.rest.length := by
  obtain ⟨⟨value, tail⟩, hclose, rfl⟩ := Option.map_eq_some_iff.1 h
  refine Nat.le_trans (Piece.before_rest_le ..) (Nat.le_trans (close?_tail_le hclose) ?_)
  simp

theorem clause?_rest_lt {cs : List Char} {piece : Piece} (h : clause? cs = some piece) :
    piece.rest.length < cs.length := by
  obtain ⟨heading, hheading, h⟩ := Option.bind_eq_some_iff.1 h
  obtain ⟨quote, -, hquote⟩ := List.exists_of_findSome?_eq_some h
  exact Nat.lt_of_le_of_lt (clauseWithin?_rest_le hquote) (heading?_rest_lt hheading)

theorem quotedText?_rest_lt {cs : List Char} {piece : Piece} (h : quotedText? cs = some piece) :
    piece.rest.length < cs.length := by
  rcases cs with _ | ⟨c, cs⟩
  · simp [quotedText?] at h
  · simp only [quotedText?] at h
    split at h
    · obtain ⟨⟨quoted, tail⟩, hclose, rfl⟩ := Option.map_eq_some_iff.1 h
      have := close?_tail_le hclose
      exact Nat.lt_succ_of_le (Nat.le_trans (Piece.before_rest_le ..) this)
    · simp at h

theorem bareWord?_rest_lt {cs : List Char} {piece : Piece} (h : bareWord? cs = some piece) :
    piece.rest.length < cs.length := by
  rcases cs with _ | ⟨c, cs⟩
  · simp [bareWord?] at h
  · simp only [bareWord?] at h
    split at h
    · simp at h
    · next hword =>
      obtain rfl := Option.some.inj h
      have hc : (!isBlank c) = true := by
        by_cases hc : isBlank c = true
        · simp [hc] at hword
        · simpa using hc
      refine Nat.lt_of_le_of_lt (Piece.before_rest_le ..) ?_
      rw [List.dropWhile_cons_of_pos (p := (!isBlank ·)) hc]
      exact Nat.lt_succ_of_le (List.dropWhile_sublist _).length_le

theorem mem_rules {rule : List Char → Option Piece} :
    rule ∈ rules ↔
      rule = wordClause? ∨ rule = clause? ∨ rule = quotedText? ∨ rule = bareWord? := by
  simp only [rules, List.mem_cons, List.not_mem_nil, or_false]

/-- Every rule leaves less than it finds. -/
theorem rule_rest_lt {rule : List Char → Option Piece} (hrule : rule ∈ rules) {cs : List Char}
    {piece : Piece} (h : rule cs = some piece) : piece.rest.length < cs.length := by
  rcases mem_rules.1 hrule with rfl | rfl | rfl | rfl
  · exact wordClause?_rest_lt h
  · exact clause?_rest_lt h
  · exact quotedText?_rest_lt h
  · exact bareWord?_rest_lt h

theorem piece?_rest_lt {cs : List Char} {piece : Piece} (h : piece? cs = some piece) :
    piece.rest.length < cs.length := by
  obtain ⟨rule, hrule, h⟩ := List.exists_of_findSome?_eq_some h
  exact rule_rest_lt hrule h

/-! ## The whole text -/

/-- The next piece, after the blanks before it. -/
def next? (cs : List Char) : Option Piece :=
  piece? (trimLeft cs)

theorem next?_rest_lt {cs : List Char} {piece : Piece} (h : next? cs = some piece) :
    piece.rest.length < cs.length :=
  Nat.lt_of_lt_of_le (piece?_rest_lt h) (List.dropWhile_sublist _).length_le

def pieces (cs : List Char) : List Piece :=
  match _h : next? cs with
  | none => []
  | some piece => piece :: pieces piece.rest
termination_by cs.length
decreasing_by exact next?_rest_lt _h

theorem pieces_of_none {cs : List Char} (h : next? cs = none) : pieces cs = [] := by
  rw [pieces]
  split <;> simp_all

theorem pieces_of_some {cs : List Char} {piece : Piece} (h : next? cs = some piece) :
    pieces cs = piece :: pieces piece.rest := by
  rw [pieces]
  split <;> simp_all

def scan (s : String) : List Token :=
  (pieces (trim s.toList)).map (·.token)

end Token

end BoardQuery

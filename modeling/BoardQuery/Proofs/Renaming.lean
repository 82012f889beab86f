import BoardQuery.Proofs.SideBySide
import Mathlib.Logic.Equiv.Basic

/-!
# Characters and their classes

A text is taken apart by the classes of its characters alone. A renaming that keeps each character
in its classes, and different characters different (`Renames`), goes through every rule
(`piece?_map`): two equal quotes stay equal and two different ones different, and nothing else about
a character is looked at. So the tokens of a renamed text are the tokens of the text, renamed
(`scan_map`).
-/

namespace BoardQuery

open Text

namespace Token

/-- A renaming of characters that keeps each in its classes, no two alike, and the colon and the
negation mark as they are. -/
structure Renames (f : Char → Char) : Prop where
  injective : Function.Injective f
  colon : f ':' = ':'
  negationMark : f '-' = '-'
  letter : ∀ c, isLetter (f c) = isLetter c
  blank : ∀ c, isBlank (f c) = isBlank c
  lineBreak : ∀ c, isLineBreak (f c) = isLineBreak c
  quote : ∀ c, isQuote (f c) = isQuote c
  sigil : ∀ c, isSigil (f c) = isSigil c

/-- The token with its texts renamed. -/
def rename (f : Char → Char) : Token → Token
  | .clause cl => .clause ⟨cl.keyword.map f, cl.value.map f, cl.negated⟩
  | .text s => .text (s.map f)

def Heading.rename (f : Char → Char) (heading : Heading) : Heading :=
  ⟨heading.keyword.map f, heading.mark.map f, heading.rest.map f⟩

def Piece.rename (f : Char → Char) (piece : Piece) : Piece :=
  ⟨piece.token.rename f, piece.lexeme.map f, piece.gap.map f, piece.rest.map f⟩

/-! ## Parts of a text -/

section Class

variable {f : Char → Char} {p : Char → Bool}

theorem takeWhile_map_of_class (h : ∀ c, p (f c) = p c) (cs : List Char) :
    (cs.map f).takeWhile p = (cs.takeWhile p).map f := by
  rw [List.takeWhile_map, show p ∘ f = p from funext h]

theorem dropWhile_map_of_class (h : ∀ c, p (f c) = p c) (cs : List Char) :
    (cs.map f).dropWhile p = (cs.dropWhile p).map f := by
  rw [List.dropWhile_map, show p ∘ f = p from funext h]

end Class

theorem ofList_map (f : Char → Char) (cs : List Char) :
    String.ofList (cs.map f) = (String.ofList cs).map f := by
  rw [← String.toList_inj, String.toList_map, String.toList_ofList, String.toList_ofList]

theorem Heading.lexeme_rename (f : Char → Char) (heading : Heading) :
    (heading.rename f).lexeme = heading.lexeme.map f := by
  simp only [Heading.lexeme, Heading.rename, List.map_append]

namespace Renames

variable {f : Char → Char} (hf : Renames f)
include hf

theorem atGap_map (cs : List Char) : atGap (cs.map f) = atGap cs := by
  rcases cs with _ | ⟨c, cs⟩
  · rfl
  · exact hf.blank c

theorem isPrefixOf_map (quote cs : List Char) :
    (quote.map f).isPrefixOf (cs.map f) = quote.isPrefixOf cs := by
  rw [Bool.eq_iff_iff, List.isPrefixOf_iff_prefix, List.isPrefixOf_iff_prefix]
  exact List.prefix_map_iff_of_injective hf.injective

theorem before_rename (tail : List Char) (token : Token) (lexeme : List Char) :
    (Piece.before tail token lexeme).rename f =
      .before (tail.map f) (token.rename f) (lexeme.map f) := by
  simp only [Piece.rename, Piece.before, takeWhile_map_of_class hf.blank,
    dropWhile_map_of_class hf.blank]

theorem typed_map (keyword value : List Char) :
    Token.clause (.typed (String.ofList (keyword.map f)) (String.ofList (value.map f))) =
      (Token.clause (.typed (String.ofList keyword) (String.ofList value))).rename f := by
  have hnegated : ((value.map f).head? == some '-') = (value.head? == some '-') := by
    rcases value with _ | ⟨c, value⟩
    · rfl
    · have hc : f c = '-' ↔ c = '-' := by
        rw [← hf.negationMark, hf.injective.eq_iff, hf.negationMark]
      simp [hc]
  simp only [Clause.typed, rename, Clause.negationMark, ofList_map, String.toList_map,
    String.toList_ofList, hnegated]

theorem clause_rename (heading : Heading) (value : List Char) :
    (heading.rename f).clause (value.map f) = (heading.clause value).rename f :=
  hf.typed_map heading.keyword value

theorem heading?_map (cs : List Char) :
    heading? (cs.map f) = (heading? cs).map (Heading.rename f) := by
  rcases cs with _ | ⟨c, cs⟩
  · rfl
  · simp only [List.map_cons, heading?, hf.sigil, hf.letter, dropWhile_map_of_class hf.letter,
      takeWhile_map_of_class hf.letter]
    split_ifs
    · rfl
    · rcases cs.dropWhile isLetter with _ | ⟨d, rest⟩
      · rfl
      · by_cases hd : d = ':'
        · subst hd
          simp [hf.colon, Heading.rename]
        · have hfd : f d ≠ ':' := fun h => hd (hf.injective (h.trans hf.colon.symm))
          simp [hd, hfd]
    · rfl

/-! ## Rules -/

theorem wordClause?_map (cs : List Char) :
    wordClause? (cs.map f) = (wordClause? cs).map (Piece.rename f) := by
  rw [wordClause?, wordClause?, hf.heading?_map]
  rcases heading? cs with _ | heading
  · rfl
  · have hvalue : (heading.rename f).rest.takeWhile isLetter =
        (heading.rest.takeWhile isLetter).map f := takeWhile_map_of_class hf.letter heading.rest
    have htail : (heading.rename f).rest.dropWhile isLetter =
        (heading.rest.dropWhile isLetter).map f := dropWhile_map_of_class hf.letter heading.rest
    simp only [Option.map_some, Option.bind_some, hvalue, htail, hf.atGap_map, List.isEmpty_map,
      hf.clause_rename, Heading.lexeme_rename]
    split
    · rw [Option.map_some, hf.before_rename, List.map_append]
    · rfl

theorem close?_map (quote cs : List Char) :
    close? (quote.map f) (cs.map f) =
      (close? quote cs).map (Prod.map (List.map f) (List.map f)) := by
  induction cs with
  | nil =>
    simp only [List.map_nil, close?, List.isEmpty_map]
    split <;> rfl
  | cons c cs ih =>
    have hdrop : ((c :: cs).map f).drop (quote.map f).length =
        ((c :: cs).drop quote.length).map f := by
      rw [List.length_map, List.map_drop]
    rw [List.map_cons, close?, close?, ← List.map_cons, hdrop, hf.isPrefixOf_map, hf.atGap_map,
      hf.lineBreak, ih]
    split
    · rfl
    · split
      · rfl
      · rw [Option.map_map, Option.map_map]
        rfl

theorem clauseWithin?_map (heading : Heading) (quote : List Char) :
    clauseWithin? (heading.rename f) (quote.map f) =
      (clauseWithin? heading quote).map (Piece.rename f) := by
  have hrest : (heading.rename f).rest.drop (quote.map f).length =
      (heading.rest.drop quote.length).map f := by
    rw [List.length_map, List.map_drop]
    rfl
  rw [clauseWithin?, clauseWithin?, hrest, hf.close?_map]
  rcases close? quote (heading.rest.drop quote.length) with _ | ⟨value, tail⟩
  · rfl
  · simp only [Option.map_some, Prod.map, hf.clause_rename, Heading.lexeme_rename,
      hf.before_rename, List.map_append]

omit hf in
theorem shortenings_map : ∀ run : List Char,
    shortenings (run.map f) = (shortenings run).map (List.map f)
  | [] => rfl
  | c :: run => by
    simp only [List.map_cons, shortenings, shortenings_map run, List.map_append, List.map_map,
      List.map_nil]
    rfl

theorem clause?_map (cs : List Char) :
    clause? (cs.map f) = (clause? cs).map (Piece.rename f) := by
  rw [clause?, clause?, hf.heading?_map]
  rcases heading? cs with _ | heading
  · rfl
  · have hquotes : (heading.rename f).rest.takeWhile isQuote =
        (heading.rest.takeWhile isQuote).map f := takeWhile_map_of_class hf.quote heading.rest
    simp only [Option.map_some, Option.bind_some, hquotes, shortenings_map, List.findSome?_map]
    exact findSome?_eq_map fun quote _ => hf.clauseWithin?_map heading quote

theorem quotedText?_map (cs : List Char) :
    quotedText? (cs.map f) = (quotedText? cs).map (Piece.rename f) := by
  rcases cs with _ | ⟨c, cs⟩
  · rfl
  · have hclose : close? [f c] (cs.map f) =
        (close? [c] cs).map (Prod.map (List.map f) (List.map f)) := hf.close?_map [c] cs
    rw [List.map_cons, quotedText?, quotedText?, hf.quote, hclose]
    split
    · rcases close? [c] cs with _ | ⟨quoted, tail⟩
      · rfl
      · simp only [Option.map_some, Prod.map, hf.before_rename, rename, ofList_map,
          List.map_cons, List.map_append, List.map_nil]
    · rfl

theorem bareWord?_map (cs : List Char) :
    bareWord? (cs.map f) = (bareWord? cs).map (Piece.rename f) := by
  have hclass : ∀ c, (!isBlank (f c)) = (!isBlank c) := fun c => by rw [hf.blank]
  have hword : (cs.map f).takeWhile (!isBlank ·) = (cs.takeWhile (!isBlank ·)).map f :=
    takeWhile_map_of_class hclass cs
  have htail : (cs.map f).dropWhile (!isBlank ·) = (cs.dropWhile (!isBlank ·)).map f :=
    dropWhile_map_of_class hclass cs
  simp only [bareWord?, hword, htail, List.isEmpty_map]
  split
  · rfl
  · simp only [Option.map_some, hf.before_rename, rename, ofList_map]

theorem piece?_map (cs : List Char) :
    piece? (cs.map f) = (piece? cs).map (Piece.rename f) := by
  refine findSome?_eq_map fun rule hrule => ?_
  rcases mem_rules.1 hrule with rfl | rfl | rfl | rfl
  · exact hf.wordClause?_map cs
  · exact hf.clause?_map cs
  · exact hf.quotedText?_map cs
  · exact hf.bareWord?_map cs

/-! ## Whole texts -/

theorem next?_map (cs : List Char) : next? (cs.map f) = (next? cs).map (Piece.rename f) := by
  rw [next?, next?, trimLeft, dropWhile_map_of_class hf.blank, hf.piece?_map]
  rfl

theorem pieces_map (cs : List Char) : pieces (cs.map f) = (pieces cs).map (Piece.rename f) := by
  fun_induction pieces cs with
  | case1 cs hnone =>
    rw [pieces_of_none (by rw [hf.next?_map, hnone]; rfl)]
    rfl
  | case2 cs piece hnext ih =>
    have hnext' : next? (cs.map f) = some (piece.rename f) := by
      rw [hf.next?_map, hnext]
      rfl
    rw [pieces_of_some hnext', List.map_cons, ← ih]
    rfl

end Renames

theorem Renames.comp {f g : Char → Char} (hf : Renames f) (hg : Renames g) : Renames (f ∘ g) where
  injective := hf.injective.comp hg.injective
  colon := (congrArg f hg.colon).trans hf.colon
  negationMark := (congrArg f hg.negationMark).trans hf.negationMark
  letter c := (hf.letter (g c)).trans (hg.letter c)
  blank c := (hf.blank (g c)).trans (hg.blank c)
  lineBreak c := (hf.lineBreak (g c)).trans (hg.lineBreak c)
  quote c := (hf.quote (g c)).trans (hg.quote c)
  sigil c := (hf.sigil (g c)).trans (hg.sigil c)

theorem apply_swap {p : Char → Bool} {a b : Char} (h : p a = p b) (c : Char) :
    p (Equiv.swap a b c) = p c := by
  rw [Equiv.swap_apply_def]
  split_ifs with ha hb
  · rw [ha, h]
  · rw [hb, h]
  · rfl

/-- Two characters of the same classes can be exchanged. -/
theorem renames_swap {a b : Char} (hcolon : ':' ≠ a ∧ ':' ≠ b) (hmark : '-' ≠ a ∧ '-' ≠ b)
    (hletter : isLetter a = isLetter b) (hblank : isBlank a = isBlank b)
    (hlineBreak : isLineBreak a = isLineBreak b) (hquote : isQuote a = isQuote b)
    (hsigil : isSigil a = isSigil b) : Renames (Equiv.swap a b) where
  injective := (Equiv.swap a b).injective
  colon := Equiv.swap_apply_of_ne_of_ne hcolon.1 hcolon.2
  negationMark := Equiv.swap_apply_of_ne_of_ne hmark.1 hmark.2
  letter := apply_swap hletter
  blank := apply_swap hblank
  lineBreak := apply_swap hlineBreak
  quote := apply_swap hquote
  sigil := apply_swap hsigil

/-- The tokens of a renamed text are the tokens of the text, renamed. -/
theorem scan_map {f : Char → Char} (hf : Renames f) (s : String) :
    scan (s.map f) = (scan s).map (rename f) := by
  rw [scan_eq, scan_eq, String.toList_map, hf.pieces_map, List.map_map, List.map_map]
  rfl

/-- The two quote characters are exchanged, and two letters with different numbers of bytes. -/
theorem scan_map_exchanged :
    let f : Char → Char := Equiv.swap '"' '\'' ∘ Equiv.swap 's' 'ß'
    Renames f ∧ "list:\"it's\" #-s".map f = "lißt:'it\"ß' #-ß"
      ∧ scan "lißt:'it\"ß' #-ß" = (scan "list:\"it's\" #-s").map (rename f) := by
  intro f
  have hquotes : Renames (Equiv.swap '"' '\'') :=
    renames_swap (by decide) (by decide) (by decide) (by decide) (by decide) (by decide) (by decide)
  have hletters : Renames (Equiv.swap 's' 'ß') :=
    renames_swap (by decide) (by decide) (by decide) (by decide) (by decide) (by decide) (by decide)
  have htext : "list:\"it's\" #-s".map f = "lißt:'it\"ß' #-ß" := by
    rw [← String.toList_inj, String.toList_map]
    decide
  refine ⟨hquotes.comp hletters, htext, ?_⟩
  rw [← htext]
  exact scan_map (hquotes.comp hletters) _

end Token

end BoardQuery

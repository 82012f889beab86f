import BoardQuery.Proofs.Digits
import BoardQuery.Proofs.Escaping
import BoardQuery.Proofs.Syntax

/-!
# Values that nobody asks for are passed over

A reader that passes over a value goes on right after it, whatever the value is and within however
many open brackets it stands (`IsValue.passed`).
-/

namespace BoardQuery

namespace Json

variable {cs rest : List Char}

/-! ## Numbers -/

theorem startsDigit_of_followsItem (h : followsItem rest = true) : startsDigit rest = false := by
  rcases rest with _ | ⟨c, rest⟩
  · rfl
  · exact (ne_of_followsItem h).1

theorem skipDigits_append (h : IsDigits cs) (hrest : startsDigit rest = false) :
    skipDigits (cs ++ rest) = .ok rest := by
  obtain ⟨hne, hall⟩ := h
  have hfirst : startsDigit (cs ++ rest) = true := by
    obtain ⟨c, cs, rfl⟩ := List.exists_cons_of_ne_nil hne
    exact hall c (List.mem_cons_self ..)
  rw [skipDigits, if_pos hfirst, Text.dropWhile_isDigit_append hall hrest]

theorem skipSign_append {sign : List Char} (h : sign = [] ∨ sign = ['+'] ∨ sign = ['-'])
    (hcs : IsDigits cs) (rest : List Char) : skipSign (sign ++ (cs ++ rest)) = cs ++ rest := by
  rcases h with rfl | rfl | rfl
  · obtain ⟨c, cs, rfl⟩ := List.exists_cons_of_ne_nil hcs.1
    have hc := hcs.2 c (List.mem_cons_self ..)
    unfold skipSign
    split
    · simp_all
    · simp_all
    · rfl
  · rfl
  · rfl

theorem skipExponent_of_follows (h : followsItem rest = true) : skipExponent rest = .ok rest := by
  unfold skipExponent
  split
  · exact absurd rfl (ne_of_followsItem h).2.2.1
  · exact absurd rfl (ne_of_followsItem h).2.2.2
  · rfl

theorem skipExponent_append {exponent : List Char} (h : IsExponent exponent)
    (hrest : followsItem rest = true) : skipExponent (exponent ++ rest) = .ok rest := by
  rcases h with _ | ⟨hmark, hsign, hdigits⟩
  · exact skipExponent_of_follows hrest
  · have hskip := skipDigits_append hdigits (startsDigit_of_followsItem hrest)
    rw [List.cons_append, List.append_assoc]
    rcases hmark with rfl | rfl
    · rw [skipExponent, skipSign_append hsign hdigits, hskip]
    · rw [skipExponent, skipSign_append hsign hdigits, hskip]

/-- No digit comes right after the whole part of a number, or right after its fraction. -/
theorem startsDigit_exponent {exponent : List Char} (h : IsExponent exponent)
    (hrest : followsItem rest = true) : startsDigit (exponent ++ rest) = false := by
  rcases h with _ | ⟨rfl | rfl, -, -⟩
  · exact startsDigit_of_followsItem hrest
  · rfl
  · rfl

theorem startsDigit_fraction {fraction exponent : List Char} (hf : IsFraction fraction)
    (he : IsExponent exponent) (hrest : followsItem rest = true) :
    startsDigit (fraction ++ (exponent ++ rest)) = false := by
  rcases hf with _ | _
  · rw [List.nil_append]
    exact startsDigit_exponent he hrest
  · rfl

theorem skipFraction_append {fraction exponent : List Char} (hf : IsFraction fraction)
    (he : IsExponent exponent) (hrest : followsItem rest = true) :
    skipFraction (fraction ++ (exponent ++ rest)) = .ok rest := by
  have hexponent := skipExponent_append he hrest
  rcases hf with _ | hdigits
  · rw [List.nil_append]
    unfold skipFraction
    split
    · rename_i cs hdot
      -- neither an exponent nor what follows a number starts with a point
      exfalso
      rcases he with _ | ⟨rfl | rfl, -, -⟩
      · rw [List.nil_append] at hdot
        subst hdot
        exact (ne_of_followsItem hrest).2.1 rfl
      · simp at hdot
      · simp at hdot
    · exact hexponent
  · rw [List.cons_append, skipFraction,
      skipDigits_append hdigits (startsDigit_exponent he hrest)]
    exact hexponent

theorem skipUnsigned_append {whole fraction exponent : List Char} (hw : IsWhole whole)
    (hf : IsFraction fraction) (he : IsExponent exponent) (hrest : followsItem rest = true) :
    skipUnsigned (whole ++ (fraction ++ (exponent ++ rest))) = .ok rest := by
  have hdigit := startsDigit_fraction hf he hrest
  rcases hw with _ | @⟨c, cs, hc, hne, hcs⟩
  · rw [List.cons_append, List.nil_append, skipUnsigned, hdigit, if_neg (by decide)]
    exact skipFraction_append hf he hrest
  · have hdigits : IsDigits (c :: cs) := ⟨by simp, List.forall_mem_cons.2 ⟨hc, hcs⟩⟩
    have hskip := skipDigits_append hdigits hdigit
    unfold skipUnsigned
    split
    · rename_i hzero
      exact absurd (List.cons.inj hzero).1 hne
    · rw [hskip]
      exact skipFraction_append hf he hrest

theorem skipNumber_append (h : IsNumber cs) (hrest : followsItem rest = true) :
    skipNumber (cs ++ rest) = .ok rest := by
  rcases h with ⟨hsign, hw, hf, he⟩
  have hskip := skipUnsigned_append hw hf he hrest
  rw [List.append_assoc, List.append_assoc, List.append_assoc]
  rcases hsign with rfl | rfl
  · rw [List.nil_append]
    unfold skipNumber
    split
    · rename_i hminus
      rcases hw with _ | ⟨hc, -, -⟩
      · simp at hminus
      · rw [List.cons_append] at hminus
        rw [(List.cons.inj hminus).1] at hc
        exact absurd hc (by decide)
    · exact hskip
  · exact hskip

/-! ## Texts -/

theorem exists_hexDigit? {c : Char} (h : IsHexDigit c) : ∃ n, hexDigit? c = some n := by
  unfold hexDigit?
  split
  · exact ⟨_, rfl⟩
  · split
    · exact ⟨_, rfl⟩
    · split
      · exact ⟨_, rfl⟩
      · rcases h with h | h | h
        · simp_all
        · simp_all
        · simp_all

theorem exists_readEscape_point {a b c d : Char} (ha : IsHexDigit a) (hb : IsHexDigit b)
    (hc : IsHexDigit c) (hd : IsHexDigit d) (rest : List Char) :
    ∃ point, readEscape false ('u' :: a :: b :: c :: d :: rest) = .ok (point, rest) := by
  obtain ⟨n₁, h₁⟩ := exists_hexDigit? ha
  obtain ⟨n₂, h₂⟩ := exists_hexDigit? hb
  obtain ⟨n₃, h₃⟩ := exists_hexDigit? hc
  obtain ⟨n₄, h₄⟩ := exists_hexDigit? hd
  refine ⟨Char.ofNat (((n₁ * 16 + n₂) * 16 + n₃) * 16 + n₄), ?_⟩
  simp [readEscape, readHex, h₁, h₂, h₃, h₄, Reads.andThen]

/-- A unit of a text is passed over as one character, whatever it stands for. -/
theorem exists_readText_unit {unit : List Char} (h : IsUnit unit) (rest : List Char) :
    ∃ c, readText false (unit ++ rest) = (readText false rest).mapValue (c :: ·) := by
  rcases h with ⟨hspace, hquote, hslash⟩ | hc | ⟨ha, hb, hc, hd⟩
  · exact ⟨_, readText_plain hquote hslash (Char.not_lt.2 hspace) rest⟩
  · simp only [List.mem_cons, List.not_mem_nil, or_false] at hc
    rcases hc with rfl | rfl | rfl | rfl | rfl | rfl | rfl | rfl <;>
      exact ⟨_, readText_of_readEscape (readEscape_short rfl rest)⟩
  · obtain ⟨c, hread⟩ := exists_readEscape_point ha hb hc hd rest
    exact ⟨c, readText_of_readEscape hread⟩

theorem exists_readText_units (rest : List Char) : ∀ units : List (List Char),
    (∀ unit ∈ units, IsUnit unit) →
      ∃ text, readText false (units.flatten ++ '"' :: rest) = .ok (text, rest)
  | [], _ => ⟨[], readText_quote rest⟩
  | unit :: units, h => by
    obtain ⟨hunit, hunits⟩ := List.forall_mem_cons.1 h
    obtain ⟨text, htext⟩ := exists_readText_units rest units hunits
    rw [List.flatten_cons, List.append_assoc]
    obtain ⟨c, hc⟩ := exists_readText_unit hunit (units.flatten ++ '"' :: rest)
    exact ⟨c :: text, by rw [hc, htext]; rfl⟩

theorem exists_readName_text (h : IsText cs) (rest : List Char) :
    ∃ text, readName false (cs ++ rest) = .ok (text, rest) := by
  rcases h with ⟨hunits⟩
  obtain ⟨text, htext⟩ := exists_readText_units rest _ hunits
  refine ⟨text, ?_⟩
  rw [List.cons_append, List.append_assoc, readName, if_pos rfl]
  exact htext

/-! ## Steps of passing over -/

variable {opened : List Bracket} {bracket : Bracket} {first : Bool} {after : List Char}

theorem skipWithin_of_opening (h : skipSpace cs = bracket.opening :: after) :
    skipWithin opened cs = skipAfter (bracket :: opened) true after := by
  rw [skipWithin]
  split
  · rename_i hnil
    rw [h] at hnil
    simp at hnil
  · rename_i c after' hcons
    rw [h] at hcons
    obtain ⟨rfl, rfl⟩ := List.cons.inj hcons
    cases bracket
    · exact if_pos rfl
    · rw [if_neg (by decide)]
      exact if_pos rfl

theorem skipWithin_of_scalar {c : Char} (h : skipSpace cs = c :: after) (hlist : c ≠ '[')
    (hobject : c ≠ '\x7b') (hskip : skipScalar (c :: after) = .ok rest) :
    skipWithin opened cs = skipAfter opened false rest := by
  rw [skipWithin]
  split
  · rename_i hnil
    rw [h] at hnil
    simp at hnil
  · rename_i c' after' hcons
    rw [h] at hcons
    obtain ⟨rfl, rfl⟩ := List.cons.inj hcons
    rw [if_neg hlist, if_neg hobject]
    split
    · rename_i hfault
      rw [hskip] at hfault
      simp at hfault
    · rename_i hok
      rw [hskip] at hok
      rw [Except.ok.inj hok]

/-- How passing over goes on after a turn within open brackets. -/
def skipTurn (bracket : Bracket) (opened : List Bracket) : Turn → Except Fault (List Char)
  | .finished rest => skipAfter opened false rest
  | .item rest =>
    match bracket with
    | .list => skipWithin (.list :: opened) rest
    | .object => (skipName rest).bind (skipWithin (.object :: opened))

theorem skipAfter_cons :
    skipAfter (bracket :: opened) first cs =
      (turn bracket first cs).bind (skipTurn bracket opened) := by
  rw [skipAfter.eq_def]
  simp only
  split
  · rename_i h
    rw [h]
    rfl
  · rename_i h
    rw [h]
    rfl
  · rename_i after h
    have hturn : (turn bracket first cs).bind (skipTurn bracket opened) =
        skipTurn bracket opened (.item after) := by
      rw [h]
      rfl
    rw [hturn]
    cases bracket
    · rfl
    · rw [skipTurn]
      simp only
      split
      · rename_i hname
        rw [hname]
        rfl
      · rename_i hname
        rw [hname]
        rfl

theorem skipName_append {name gap : List Char} (hname : IsText name) (hgap : Gap gap)
    (rest : List Char) : skipName (name ++ (gap ++ ':' :: rest)) = .ok rest := by
  obtain ⟨text, hread⟩ := exists_readName_text hname (gap ++ ':' :: rest)
  have hcolon := @skipSpace_gap _ hgap ':' rfl rest
  rw [skipName, hread]
  show skipColon (gap ++ ':' :: rest) = .ok rest
  rw [skipColon, hcolon]
  rfl

/-! ## Whole values -/

/-- A text is passed over at any place where an item can stand. -/
def Passed (cs : List Char) : Prop :=
  ∀ (opened : List Bracket) (gap rest : List Char), Gap gap → followsItem rest = true →
    skipWithin opened (gap ++ (cs ++ rest)) = skipAfter opened false rest

/-- A text is passed over as an item of a list or an object. -/
def PassedIn (bracket : Bracket) (cs : List Char) : Prop :=
  ∀ (opened : List Bracket) (rest : List Char), followsItem rest = true →
    skipTurn bracket opened (.item (cs ++ rest)) = skipAfter (bracket :: opened) false rest

theorem passed_of_scalar {c : Char} (hspace : isSpace c = false) (hlist : c ≠ '[')
    (hobject : c ≠ '\x7b')
    (hskip : ∀ rest, followsItem rest = true → skipScalar (c :: (cs ++ rest)) = .ok rest) :
    Passed (c :: cs) :=
  fun _ _ rest hgap hrest =>
    skipWithin_of_scalar (skipSpace_gap hgap hspace (cs ++ rest)) hlist hobject (hskip rest hrest)

theorem Passed.in_list (h : Passed cs) : PassedIn .list cs :=
  fun opened rest hrest => h (.list :: opened) [] rest Gap.nil hrest

theorem Passed.in_object {name held : List Char} (hname : IsText name) (h : Passed held)
    (hcs : Member (Eq name) (Eq held) cs) : PassedIn .object cs := by
  rcases hcs with ⟨rfl, hbefore, hafter, rfl⟩
  intro opened rest hrest
  rw [List.append_assoc, List.append_assoc, List.cons_append, List.append_assoc, skipTurn,
    skipName_append hname hbefore]
  exact h (.object :: opened) _ rest hafter hrest

variable {α : Type} {Item : α → List Char → Prop} {xs : List α} {tail : List Char}

theorem Remaining.skipAfter_eq (h : Remaining bracket Item xs tail)
    (hitems : ∀ x ∈ xs, ∀ item, Item x item → startsItem item = true ∧ PassedIn bracket item)
    (opened : List Bracket) (rest : List Char) :
    skipAfter (bracket :: opened) false (tail ++ rest) = skipAfter opened false rest := by
  induction h with
  | close hgap =>
    rw [List.append_assoc, skipAfter_cons]
    exact congrArg (Except.bind · _) (turn_close hgap rest)
  | @comma before after item tail x xs hbefore hafter hitem htail ih =>
    obtain ⟨hfirst, hothers⟩ := List.forall_mem_cons.1 hitems
    obtain ⟨hstart, hpassed⟩ := hfirst item hitem
    rw [List.append_assoc, List.cons_append, List.append_assoc, List.append_assoc, skipAfter_cons,
      turn_comma hbefore hafter (startsItem_append hstart _)]
    exact (hpassed opened _ (htail.follows rest)).trans (ih hothers)

/-- Brackets are passed over if the items between them are. -/
theorem Bracketed.passed (h : Bracketed bracket Item xs cs)
    (hitems : ∀ x ∈ xs, ∀ item, Item x item → startsItem item = true ∧ PassedIn bracket item) :
    Passed cs := by
  intro opened gap rest hgap _
  have hopening : ∀ after, skipSpace (gap ++ bracket.opening :: after) = bracket.opening :: after :=
    skipSpace_gap hgap (by cases bracket <;> rfl)
  cases h with
  | none hinner =>
    rw [List.cons_append, skipWithin_of_opening (hopening _), skipAfter_cons, List.append_assoc]
    exact congrArg (Except.bind · _) (turn_close hinner rest)
  | @some inner item tail x xs hinner hitem htail =>
    obtain ⟨hfirst, hothers⟩ := List.forall_mem_cons.1 hitems
    obtain ⟨hstart, hpassed⟩ := hfirst item hitem
    rw [List.cons_append, skipWithin_of_opening (hopening _), skipAfter_cons, List.append_assoc,
      List.append_assoc, turn_first hinner (startsItem_append hstart _)]
    exact (hpassed opened _ (htail.follows rest)).trans (htail.skipAfter_eq hothers opened rest)

theorem skipWord_append : ∀ word rest : List Char, skipWord word (word ++ rest) = .ok rest
  | [], rest => rfl
  | c :: word, rest => by
    rw [List.cons_append, skipWord, if_pos rfl]
    exact skipWord_append word rest

theorem passed_of_isText (h : IsText cs) : Passed cs := by
  rcases h with ⟨hunits⟩
  refine passed_of_scalar rfl (by decide) (by decide) fun rest _ => ?_
  obtain ⟨text, htext⟩ := exists_readText_units rest _ hunits
  rw [skipScalar, List.append_assoc]
  exact congrArg (Except.map Prod.snd) htext

theorem passed_of_isNumber (h : IsNumber cs) : Passed cs := by
  obtain ⟨c, tail, rfl, hc⟩ : ∃ c tail, cs = c :: tail ∧ (c = '-' ∨ c.isDigit = true) := by
    rcases h with ⟨rfl | rfl, hwhole, -, -⟩
    · rcases hwhole with _ | ⟨hc, -, -⟩
      · exact ⟨'0', _, rfl, .inr rfl⟩
      · exact ⟨_, _, rfl, .inr hc⟩
    · exact ⟨'-', _, rfl, .inl rfl⟩
  have hne : ∀ d : Char, d ≠ '-' → d.isDigit = false → c ≠ d := by
    intro d hminus hdigit
    rcases hc with rfl | hc
    · exact hminus.symm
    · exact ne_of_isDigit hc hdigit
  have hspace : isSpace c = false := by
    simp [isSpace, hne ' ' (by decide) rfl, hne '\n' (by decide) rfl, hne '\t' (by decide) rfl,
      hne '\r' (by decide) rfl]
  refine passed_of_scalar hspace (hne '[' (by decide) rfl) (hne '\x7b' (by decide) rfl)
    fun rest hrest => ?_
  have hskip : skipNumber (c :: (tail ++ rest)) = .ok rest := skipNumber_append h hrest
  unfold skipScalar
  split
  · rename_i heq
    exact absurd (List.cons.inj heq).1 (hne '"' (by decide) rfl)
  · rename_i heq
    exact absurd (List.cons.inj heq).1 (hne 'n' (by decide) rfl)
  · rename_i heq
    exact absurd (List.cons.inj heq).1 (hne 't' (by decide) rfl)
  · rename_i heq
    exact absurd (List.cons.inj heq).1 (hne 'f' (by decide) rfl)
  · exact hskip

/-- Every value is passed over. -/
theorem IsValue.passed (h : IsValue cs) : Passed cs := by
  induction h with
  | word h =>
    simp only [List.mem_cons, List.not_mem_nil, or_false] at h
    rcases h with rfl | rfl | rfl
    · exact passed_of_scalar rfl (by decide) (by decide) fun rest _ => skipWord_append _ rest
    · exact passed_of_scalar rfl (by decide) (by decide) fun rest _ => skipWord_append _ rest
    · exact passed_of_scalar rfl (by decide) (by decide) fun rest _ => skipWord_append _ rest
  | number h => exact passed_of_isNumber h
  | text h => exact passed_of_isText h
  | list h hitems ih =>
    refine h.passed fun item hitem cs hcs => ?_
    obtain rfl : item = cs := hcs
    exact ⟨(hitems item hitem).starts, (ih item hitem).in_list⟩
  | object h hnames hvalues ih =>
    refine h.passed fun member hmember cs hcs => ⟨?_, ?_⟩
    · rcases hcs with ⟨rfl, -, -, -⟩
      exact startsItem_append (hnames member hmember).starts _
    · exact (ih member hmember).in_object (hnames member hmember) hcs

/-- A value is passed over with the white space before it. -/
theorem skipValue_append {gap : List Char} (hgap : Gap gap) (h : IsValue cs)
    (hrest : followsItem rest = true) : skipValue (gap ++ (cs ++ rest)) = .ok rest := by
  rw [skipValue, h.passed [] gap rest hgap hrest, skipAfter]

end Json

end BoardQuery

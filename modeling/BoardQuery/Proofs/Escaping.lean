import BoardQuery.Json.Skip
import BoardQuery.Json.Value

/-!
# Escaped texts are read back

Whatever its characters, a text that is written with escapes is read back as it was, up to the quote
that closes it, and what comes after that quote is left (`readText_quoted`). So a written text tells
the text, and where it ends (`quoted_append_inj`).
-/

namespace BoardQuery

namespace Json

variable {kept : Bool}

theorem readText_quote (cs : List Char) : readText kept ('"' :: cs) = .ok ([], cs) := by
  rw [readText, if_pos rfl]

/-- An escape is read as one character. -/
theorem readText_of_readEscape {cs rest : List Char} {c : Char}
    (h : readEscape kept cs = .ok (c, rest)) :
    readText kept ('\\' :: cs) = (readText kept rest).mapValue (c :: ·) := by
  rw [readText, if_neg (by decide), if_pos rfl]
  split
  · rename_i hfault
    rw [h] at hfault
    simp at hfault
  · rename_i hread
    rw [h] at hread
    obtain ⟨rfl, rfl⟩ := Prod.mk.inj (Except.ok.inj hread)
    rfl

theorem readText_plain {c : Char} (hquote : c ≠ '"') (hslash : c ≠ '\\') (hspace : ¬c < ' ')
    (cs : List Char) : readText kept (c :: cs) = (readText kept cs).mapValue (c :: ·) := by
  rw [readText, if_neg hquote, if_neg hslash, if_neg hspace]

theorem readEscape_short {c d : Char} (h : shortEscape? d = some c) (rest : List Char) :
    readEscape kept (d :: rest) = .ok (c, rest) := by
  have hu : d ≠ 'u' := by
    rintro rfl
    simp [shortEscape?] at h
  unfold readEscape
  split
  · simp_all
  · simp_all
  · simp_all

theorem hexDigit?_digitChar : ∀ n < 16, hexDigit? (Nat.digitChar n) = some n := by
  decide

/-- A control character is escaped by its two hexadecimal digits. -/
theorem readEscape_control {c : Char} (h : c.toNat < 0x20) (rest : List Char) :
    readEscape kept ('u' :: '0' :: '0' :: Nat.digitChar (c.toNat / 16)
      :: Nat.digitChar (c.toNat % 16) :: rest) = .ok (c, rest) := by
  have hhigh := hexDigit?_digitChar (c.toNat / 16) (by omega)
  have hlow := hexDigit?_digitChar (c.toNat % 16) (by omega)
  have hzero : hexDigit? '0' = some 0 := rfl
  have hpoint : ((0 * 16 + 0) * 16 + c.toNat / 16) * 16 + c.toNat % 16 = c.toNat := by omega
  have hnotLow : isLowSurrogate c.toNat = false := by simp [isLowSurrogate]; omega
  have hnotHigh : isHighSurrogate c.toNat = false := by simp [isHighSurrogate]; omega
  simp only [readEscape, readHex, hzero, hhigh, hlow, hpoint, Reads.andThen, hnotLow, hnotHigh,
    Bool.and_false, Bool.false_eq_true, if_false, Char.ofNat_toNat]

theorem readText_escapeChar (c : Char) (rest : List Char) :
    readText kept (escapeChar c ++ rest) = (readText kept rest).mapValue (c :: ·) := by
  unfold escapeChar
  split
  iterate 7 exact readText_of_readEscape (readEscape_short rfl rest)
  rename_i hquote hslash _ _ _ _ _
  split
  · rename_i hcontrol
    exact readText_of_readEscape (readEscape_control hcontrol rest)
  · rename_i hplain
    exact readText_plain hquote hslash hplain rest

/-- A written text is read back, up to its closing quote. -/
theorem readText_quoted (cs rest : List Char) :
    readText kept (cs.flatMap escapeChar ++ '"' :: rest) = .ok (cs, rest) := by
  induction cs with
  | nil => exact readText_quote rest
  | cons c cs ih =>
    rw [List.flatMap_cons, List.append_assoc, readText_escapeChar, ih]
    rfl

theorem quoted_append (s : String) (rest : List Char) :
    quoted s ++ rest = '"' :: (s.toList.flatMap escapeChar ++ '"' :: rest) := by
  simp [quoted]

/-- A written text tells the text and where it ends. -/
theorem quoted_append_inj {s t : String} {rest rest' : List Char} :
    quoted s ++ rest = quoted t ++ rest' ↔ s = t ∧ rest = rest' := by
  constructor
  · intro h
    rw [quoted_append, quoted_append] at h
    have hread := congrArg (readText true) (List.cons.inj h).2
    rw [readText_quoted, readText_quoted] at hread
    obtain ⟨hs, hrest⟩ := Prod.mk.inj (Except.ok.inj hread)
    exact ⟨String.toList_inj.1 hs, hrest⟩
  · rintro ⟨rfl, rfl⟩
    rfl

end Json

end BoardQuery

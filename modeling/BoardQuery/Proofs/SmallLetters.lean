import BoardQuery.Lexicon
import BoardQuery.Proofs.CapitalRuns
import BoardQuery.Proofs.Pieces

/-!
# Words in small letters

No text vanishes when it is put in small letters (`lower_eq_empty_iff`). Every capital lies above the
sigils with its small letter, so no sign up to them is made anew (`mem_of_mem_lower`), and only a
sigil becomes a sigil (`lower_eq_singleton_iff`).
What is put in small letters once stays as it is (`lower_lower`): no capital sigma is left, whose
small letter would depend on its place. Trimming leaves a text without blanks as it is, so such a
text is typed by its small letters (`word_eq_lower`).
-/

namespace BoardQuery

open Text

namespace Text

theorem lowerChar_ne_nil (c : Char) : lowerChar c ≠ [] := by
  unfold lowerChar
  split <;> simp

theorem toNat_ofNat (n : Nat) : (Char.ofNat n).toNat = n ∨ (Char.ofNat n).toNat = 0 := by
  by_cases h : n.isValidChar
  · rw [Char.ofNat, dif_pos h]
    exact .inl rfl
  · rw [Char.ofNat, dif_neg h]
    exact .inr rfl

/-- A character that lies no higher than the sigils is the small letter of itself alone. -/
theorem eq_of_mem_lowerChar {c d : Char} (hpos : d.toNat ≠ 0) (hle : d.toNat ≤ 64)
    (h : d ∈ lowerChar c) : c = d := by
  unfold lowerChar at h
  split at h
  · rcases List.mem_pair.1 h with rfl | rfl
    · exact absurd hle (by decide)
    · exact absurd hle (by decide)
  · obtain rfl := List.mem_singleton.1 h
    rcases toNat_ofNat (lowerPoint caseRuns c.toNat) with hpoint | hpoint
    · rw [hpoint] at hle
      rw [eq_of_lowerPoint_le hle, Char.ofNat_toNat]
    · exact absurd hpoint hpos

/-- What a lower-cased text holds comes from one of its characters, the final sigma apart. -/
theorem mem_lowerAfter {d : Char} : ∀ {cs before : List Char}, d ∈ lowerAfter before cs →
    d = '\u03C2' ∨ ∃ c ∈ cs, d ∈ lowerChar c
  | [], before, h => by simp [lowerAfter] at h
  | c :: cs, before, h => by
    unfold lowerAfter at h
    rcases List.mem_append.1 h with h | h
    · split at h
      · exact .inl (List.mem_singleton.1 h)
      · exact .inr ⟨c, List.mem_cons_self .., h⟩
    · rcases mem_lowerAfter h with hsigma | ⟨e, he, hd⟩
      · exact .inl hsigma
      · exact .inr ⟨e, List.mem_cons_of_mem _ he, hd⟩

/-- Signs that lie no higher than the sigils, such as the hyphen, come from nothing else. -/
theorem mem_of_mem_lower {s : String} {d : Char} (hpos : d.toNat ≠ 0) (hle : d.toNat ≤ 64)
    (h : d ∈ (lower s).toList) : d ∈ s.toList := by
  rw [lower, String.toList_ofList] at h
  rcases mem_lowerAfter h with rfl | ⟨c, hc, hd⟩
  · exact absurd hle (by decide)
  · exact eq_of_mem_lowerChar hpos hle hd ▸ hc

theorem toNat_of_isSigil {c : Char} (h : Token.isSigil c = true) : c.toNat ≠ 0 ∧ c.toNat ≤ 64 := by
  rcases Token.isSigil_iff.1 h with rfl | rfl <;> decide

theorem lowerAfter_cons_ne_nil (before : List Char) (c : Char) (cs : List Char) :
    lowerAfter before (c :: cs) ≠ [] := by
  unfold lowerAfter
  split <;> simp [lowerChar_ne_nil]

theorem lowerAfter_eq_singleton {before cs : List Char} {d : Char} (hd : Token.isSigil d = true)
    (h : lowerAfter before cs = [d]) : cs = [d] := by
  rcases cs with _ | ⟨c, cs⟩
  · simp [lowerAfter] at h
  · unfold lowerAfter at h
    rcases List.append_eq_singleton_iff.1 h with ⟨hnil, -⟩ | ⟨hfirst, hrest⟩
    · split at hnil
      · simp at hnil
      · exact absurd hnil (lowerChar_ne_nil c)
    · obtain rfl : cs = [] := by
        rcases cs with _ | ⟨c', cs⟩
        · rfl
        · exact absurd hrest (lowerAfter_cons_ne_nil _ c' cs)
      split at hfirst
      · obtain rfl : '\u03C2' = d := by simpa using hfirst
        exact absurd hd (by decide)
      · obtain ⟨hpos, hle⟩ := toNat_of_isSigil hd
        have hmem : d ∈ lowerChar c := hfirst ▸ List.mem_singleton_self d
        rw [eq_of_mem_lowerChar hpos hle hmem]

theorem lower_eq_empty_iff {s : String} : lower s = "" ↔ s = "" := by
  constructor
  · intro h
    rcases hs : s.toList with _ | ⟨c, cs⟩
    · simpa using hs
    · rw [lower, hs] at h
      exact absurd (by simpa using h) (lowerAfter_cons_ne_nil [] c cs)
  · rintro rfl
    rfl

/-- Only a sigil becomes a sigil. -/
theorem lower_eq_singleton_iff {s : String} {c : Char} (hc : Token.isSigil c = true) :
    lower s = String.singleton c ↔ s = String.singleton c := by
  constructor
  · intro h
    have hlower : lowerAfter [] s.toList = [c] := by
      have hlist := congrArg String.toList h
      rwa [lower, String.toList_ofList, String.toList_singleton] at hlist
    rw [← String.toList_inj, lowerAfter_eq_singleton hc hlower, String.toList_singleton]
  · rintro rfl
    rcases Token.isSigil_iff.1 hc with rfl | rfl <;> decide

/-! ## Small letters stay as they are -/

/-- A character that lower-casing leaves as it is, wherever it stands. -/
structure IsSmall (c : Char) : Prop where
  ne_sigma : c ≠ '\u03A3'
  lowerChar : lowerChar c = [c]

theorem lowerAfter_of_isSmall {cs : List Char} (h : ∀ c ∈ cs, IsSmall c) (before : List Char) :
    lowerAfter before cs = cs := by
  induction cs generalizing before with
  | nil => rfl
  | cons c cs ih =>
    obtain ⟨hc, hcs⟩ := List.forall_mem_cons.1 h
    rw [lowerAfter, ih hcs, hc.lowerChar]
    simp [hc.ne_sigma]

theorem lower_of_isSmall {s : String} (h : ∀ c ∈ s.toList, IsSmall c) : lower s = s := by
  rw [lower, lowerAfter_of_isSmall h, String.ofList_toList]

theorem mem_lowerAfter_of_isSmall {c : Char} (hc : IsSmall c) : ∀ {cs before : List Char},
    c ∈ cs → c ∈ lowerAfter before cs
  | d :: cs, before, h => by
    unfold lowerAfter
    rcases List.mem_cons.1 h with rfl | h
    · refine List.mem_append_left _ ?_
      simp [hc.ne_sigma, hc.lowerChar]
    · exact List.mem_append_right _ (mem_lowerAfter_of_isSmall hc h)

theorem mem_lower_of_isSmall {s : String} {c : Char} (hc : IsSmall c) (h : c ∈ s.toList) :
    c ∈ (lower s).toList := by
  rw [lower, String.toList_ofList]
  exact mem_lowerAfter_of_isSmall hc h

theorem isSmall_of_lowerPoint {c : Char} (hdotted : c.toNat ≠ 0x130)
    (h : lowerPoint caseRuns c.toNat = c.toNat) : IsSmall c where
  ne_sigma := by
    rintro rfl
    exact absurd h (by decide)
  lowerChar := by
    have hne : c ≠ '\u0130' := by
      rintro rfl
      exact hdotted rfl
    rw [lowerChar, if_neg hne, h, Char.ofNat_toNat]

theorem isSmall_of_mem_lowerChar {c d : Char} (h : d ∈ lowerChar c) : IsSmall d := by
  unfold lowerChar at h
  split at h
  · rcases List.mem_pair.1 h with rfl | rfl
    · exact ⟨by decide, by decide⟩
    · exact ⟨by decide, by decide⟩
  · rename_i hc
    have hdotted : c.toNat ≠ 0x130 := fun hpoint => hc (Char.toNat_inj.1 hpoint)
    obtain rfl := List.mem_singleton.1 h
    rcases toNat_ofNat (lowerPoint caseRuns c.toNat) with hpoint | hpoint
    · refine isSmall_of_lowerPoint ?_ ?_
      · rw [hpoint]
        exact lowerPoint_ne_dotted hdotted
      · rw [hpoint]
        exact lowerPoint_lowerPoint c.toNat
    · refine isSmall_of_lowerPoint ?_ ?_
      · rw [hpoint]
        decide
      · rw [hpoint]
        rfl

theorem isSmall_of_mem_lower {s : String} {d : Char} (h : d ∈ (lower s).toList) : IsSmall d := by
  rw [lower, String.toList_ofList] at h
  rcases mem_lowerAfter h with rfl | ⟨c, -, hd⟩
  · exact ⟨by decide, by decide⟩
  · exact isSmall_of_mem_lowerChar hd

/-- A text in small letters stays as it is. -/
theorem lower_lower (s : String) : lower (lower s) = lower s :=
  lower_of_isSmall fun _ => isSmall_of_mem_lower

/-! ## Trimming -/

theorem trimLeft_eq_self {cs : List Char} (h : ∀ c ∈ cs, isBlank c = false) :
    trimLeft cs = cs := by
  rcases cs with _ | ⟨c, cs⟩
  · rfl
  · rw [trimLeft, List.dropWhile_cons_of_neg (by simp [h c (List.mem_cons_self ..)])]

end Text

namespace Lexicon

theorem word_eq_lower {text : String} (h : ∀ c ∈ text.toList, isBlank c = false) :
    word text = lower text := by
  have hreverse : ∀ c ∈ text.toList.reverse, isBlank c = false :=
    fun c hc => h c (List.mem_reverse.1 hc)
  have htrim : trim text.toList = text.toList := by
    rw [trim, trimLeft_eq_self h, trimRight, trimLeft_eq_self hreverse, List.reverse_reverse]
  rw [word, htrim, String.ofList_toList]

end Lexicon

end BoardQuery

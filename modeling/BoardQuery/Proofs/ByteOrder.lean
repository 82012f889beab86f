import Mathlib.Data.String.Basic

/-!
# The order of texts

Texts are compared by the first character in which they differ. UTF-8 spells a greater character
with greater bytes, whatever follows (`utf8EncodeChar_append_lt`), so texts stand in the order of
their bytes (`bytes_lt_iff`, `bytes_le_iff`). This is the order in which sorted maps keep their
keys.
-/

namespace BoardQuery

namespace Text

/-- The bytes of a text in UTF-8. -/
def bytes (s : String) : List UInt8 :=
  s.toByteArray.data.toList

theorem bytes_ofList (cs : List Char) :
    bytes (String.ofList cs) = cs.flatMap String.utf8EncodeChar := by
  rw [bytes, String.toByteArray_ofList, List.utf8Encode, List.data_toByteArray]

theorem bytes_eq (s : String) : bytes s = s.toList.flatMap String.utf8EncodeChar := by
  rw [← bytes_ofList, String.ofList_toList]

/-! ## Spellings of numbers -/

section Spelling

variable {α : Type} [LT α]

/-- The numbers below `bound` are spelled in their order, whatever follows them. -/
def KeepsOrder (bound : Nat) (spell : Nat → List α) : Prop :=
  ∀ m n, m < n → n < bound → ∀ s t, spell m ++ s < spell n ++ t

theorem keepsOrder_singleton {bound : Nat} {digit : Nat → α}
    (h : ∀ m n, m < n → n < bound → digit m < digit n) :
    KeepsOrder bound fun n => [digit n] :=
  fun m n hlt hn _ _ => List.cons_lt_cons_iff.2 (.inl (h m n hlt hn))

/-- With one more digit there are as many times more numbers as there are digits. -/
theorem KeepsOrder.append_digit [Std.Irrefl (· < · : α → α → Prop)] {bound base : Nat}
    {spell : Nat → List α} (h : KeepsOrder bound spell) (hbase : 0 < base) (digit : Nat → α)
    (hdigit : ∀ m n, m < n → n < base → digit m < digit n) :
    KeepsOrder (bound * base) fun n => spell (n / base) ++ [digit (n % base)] := by
  intro m n hlt hn s t
  simp only [List.append_assoc, List.singleton_append]
  rcases Nat.lt_or_ge (m / base) (n / base) with hdiv | hdiv
  · exact h _ _ hdiv (Nat.div_lt_of_lt_mul (Nat.mul_comm bound base ▸ hn)) _ _
  · have heq : m / base = n / base := Nat.le_antisymm (Nat.div_le_div_right hlt.le) hdiv
    have hrest : m % base < n % base := by
      have hm := Nat.div_add_mod m base
      have hn := Nat.div_add_mod n base
      rw [heq] at hm
      omega
    have hlast : digit (m % base) < digit (n % base) := hdigit _ _ hrest (Nat.mod_lt n hbase)
    rw [heq]
    exact List.append_left_lt (List.cons_lt_cons_iff.2 (.inl hlast))

end Spelling

/-! ## Characters -/

theorem ofNat_lt_ofNat {m n : Nat} (hlt : m < n) (hn : n < 256) : UInt8.ofNat m < UInt8.ofNat n :=
  (UInt8.ofNat_lt_iff_lt (hlt.trans hn) hn).2 hlt

theorem keepsOrder_lead {bound mark : Nat} (h : bound + mark ≤ 256) :
    KeepsOrder bound fun n => [UInt8.ofNat (n % bound + mark)] := by
  refine keepsOrder_singleton fun m n hlt hn => ?_
  rw [Nat.mod_eq_of_lt (hlt.trans hn), Nat.mod_eq_of_lt hn]
  exact ofNat_lt_ofNat (by omega) (by omega)

/-- One more byte holds six more bits. -/
theorem KeepsOrder.continued {bound : Nat} {spell : Nat → List UInt8} (h : KeepsOrder bound spell) :
    KeepsOrder (bound * 64) fun n => spell (n / 64) ++ [UInt8.ofNat (n % 64 + 128)] :=
  h.append_digit (by decide) (fun n => UInt8.ofNat (n + 128))
    fun _ _ _ _ => ofNat_lt_ofNat (by omega) (by omega)

theorem utf8EncodeChar_append_lt {c d : Char} (h : c < d) (s t : List UInt8) :
    String.utf8EncodeChar c ++ s < String.utf8EncodeChar d ++ t := by
  have hlt : c.val.toNat < d.val.toNat := UInt32.lt_iff_toNat_lt.1 h
  have hbound : d.val.toNat < 0x110000 := by
    rcases d.valid with hd | hd <;> omega
  have htwo := (@keepsOrder_lead 32 192 (by decide)).continued
  have hthree := (@keepsOrder_lead 16 224 (by decide)).continued.continued
  have hfour := (@keepsOrder_lead 8 240 (by decide)).continued.continued.continued
  simp only [Nat.div_div_eq_div_mul, List.cons_append, List.nil_append] at hthree hfour
  unfold String.utf8EncodeChar
  generalize c.val.toNat = m at *
  generalize d.val.toNat = n at *
  simp only []
  -- of two characters the one with more bytes has the greater first byte
  split_ifs <;> try
    exact List.cons_lt_cons_iff.2 (.inl (ofNat_lt_ofNat (by omega) (by omega)))
  · exact htwo m n hlt (by omega) s t
  · exact hthree m n hlt (by omega) s t
  · exact hfour m n hlt (by omega) s t

/-! ## Texts -/

theorem flatMap_utf8EncodeChar_lt : ∀ {cs ds : List Char}, cs < ds →
    cs.flatMap String.utf8EncodeChar < ds.flatMap String.utf8EncodeChar
  | [], [], h => by simp at h
  | [], d :: ds, _ => by
    have hlength := String.length_utf8EncodeChar d
    rcases hd : String.utf8EncodeChar d with _ | ⟨b, bs⟩
    · rw [hd] at hlength
      exact absurd hlength (Nat.ne_of_lt d.utf8Size_pos)
    · rw [List.flatMap_cons, hd]
      exact List.nil_lt_cons _ _
  | c :: cs, [], h => by simp at h
  | c :: cs, d :: ds, h => by
    rw [List.flatMap_cons, List.flatMap_cons]
    rcases List.cons_lt_cons_iff.1 h with hlt | ⟨rfl, hlt⟩
    · exact utf8EncodeChar_append_lt hlt _ _
    · exact List.append_left_lt (flatMap_utf8EncodeChar_lt hlt)

theorem bytes_lt {s t : String} (h : s < t) : bytes s < bytes t := by
  rw [bytes_eq, bytes_eq]
  exact flatMap_utf8EncodeChar_lt (String.lt_iff_toList_lt.1 h)

theorem bytes_lt_iff {s t : String} : bytes s < bytes t ↔ s < t := by
  refine ⟨fun h => ?_, bytes_lt⟩
  rcases lt_trichotomy s t with hlt | rfl | hgt
  · exact hlt
  · exact absurd h (List.lt_irrefl _)
  · exact absurd h (List.lt_asymm (bytes_lt hgt))

theorem bytes_le_iff {s t : String} : bytes s ≤ bytes t ↔ s ≤ t := by
  rw [← List.not_lt, bytes_lt_iff, String.not_lt]

end Text

end BoardQuery

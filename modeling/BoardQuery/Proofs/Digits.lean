import BoardQuery.Json.Number
import BoardQuery.Text.Decimal
import Mathlib.Data.List.TakeWhile

/-!
# Runs of digits

Digits are read as the number that they spell, whether zeros stand before it or not
(`readNat?_zeroPadded`), and they end where something else stands (`takeWhile_isDigit_append`).
-/

namespace BoardQuery

open Json (startsDigit)

namespace Text

variable {c : Char} {cs rest : List Char}

/-- What holds of the ten digits holds of every one. -/
theorem of_isDigit {P : Char → Prop} (h : ∀ k < 10, P (Char.ofNat (48 + k)))
    (hc : c.isDigit = true) : P c := by
  obtain ⟨hfirst, hlast⟩ : 48 ≤ c.toNat ∧ c.toNat ≤ 57 := Char.isDigit_iff_toNat.1 hc
  have heq : Char.ofNat (48 + (c.toNat - 48)) = c := by
    rw [Nat.add_sub_of_le hfirst, Char.ofNat_toNat]
  exact heq ▸ h (c.toNat - 48) (by omega)

theorem isDigit_of_mem_digits {n : Nat} (h : c ∈ Nat.toDigits 10 n) : c.isDigit = true :=
  Nat.isDigit_of_mem_toDigits (by decide) (by decide) h

theorem takeWhile_isDigit_append (h : ∀ c ∈ cs, c.isDigit = true)
    (hrest : startsDigit rest = false) : (cs ++ rest).takeWhile Char.isDigit = cs := by
  rw [List.takeWhile_append_of_pos h]
  rcases rest with _ | ⟨c, rest⟩
  · simp
  · rw [List.takeWhile_cons_of_neg (by simpa [startsDigit] using hrest), List.append_nil]

theorem dropWhile_isDigit_append (h : ∀ c ∈ cs, c.isDigit = true)
    (hrest : startsDigit rest = false) : (cs ++ rest).dropWhile Char.isDigit = rest := by
  have htext := List.takeWhile_append_dropWhile (p := Char.isDigit) (l := cs ++ rest)
  rw [takeWhile_isDigit_append h hrest] at htext
  exact List.append_cancel_left htext

/-! ## Numbers with zeros before them -/

/-- The digits of a number, with zeros before them. -/
def zeroPadded (zeros n : Nat) : List Char :=
  List.replicate zeros '0' ++ writeNat n

variable {zeros n : Nat}

theorem isDigit_of_mem_zeroPadded (h : c ∈ zeroPadded zeros n) : c.isDigit = true := by
  rcases List.mem_append.1 h with h | h
  · obtain rfl := List.eq_of_mem_replicate h
    rfl
  · exact isDigit_of_mem_digits h

theorem zeroPadded_ne_nil : zeroPadded zeros n ≠ [] :=
  List.append_ne_nil_of_right_ne_nil _ Nat.toDigits_ne_nil

theorem startsDigit_zeroPadded (rest : List Char) :
    startsDigit (zeroPadded zeros n ++ rest) = true := by
  obtain ⟨c, cs, hcs⟩ := List.exists_cons_of_ne_nil (@zeroPadded_ne_nil zeros n)
  rw [hcs]
  exact isDigit_of_mem_zeroPadded (hcs ▸ List.mem_cons_self ..)

theorem digitsValue_zeroPadded : digitsValue (zeroPadded zeros n) = n := by
  have hvalue : digitsValue (zeroPadded zeros n) =
      Nat.ofDigitChars 10 (List.replicate zeros '0' ++ Nat.toDigits 10 n) 0 := rfl
  rw [hvalue, Nat.ofDigitChars_append, Nat.ofDigitChars_replicate_zero, Nat.mul_zero,
    Nat.ofDigitChars_toDigits (by decide) (by decide)]

theorem readNat?_zeroPadded : readNat? (zeroPadded zeros n) = some n := by
  have hdigits : ((zeroPadded zeros n).all Char.isDigit) = true :=
    List.all_eq_true.2 fun _ => isDigit_of_mem_zeroPadded
  rw [readNat?, hdigits, List.isEmpty_eq_false_iff.2 zeroPadded_ne_nil]
  simp [digitsValue_zeroPadded]

theorem readCount?_zeroPadded :
    readCount? (zeroPadded zeros n) = if n < UInt32.size then some (.ofNat n) else none := by
  rw [readCount?, readNat?_zeroPadded, Option.bind_some]

theorem writePadded_eq_zeroPadded (width n : Nat) :
    writePadded width n = zeroPadded (width - (writeNat n).length) n :=
  rfl

theorem isDigit_of_mem_writePadded {width : Nat} (h : c ∈ writePadded width n) :
    c.isDigit = true :=
  isDigit_of_mem_zeroPadded h

end Text

end BoardQuery

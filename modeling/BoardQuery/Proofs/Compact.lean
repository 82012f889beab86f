import BoardQuery.Proofs.Digits
import BoardQuery.Proofs.Escaping

/-!
# A compact text tells its value

No value's compact text goes on where another's ends: a value and what comes after it can be told
from the two written one after the other, as long as no digit comes after a number
(`chars_append_inj`). So different values have different compact texts (`compact_inj`).
-/

namespace BoardQuery

open Text

namespace Json

namespace Value

/-- The kinds of value, which are told apart by the first characters of their texts. -/
inductive Kind where
  | text | number | truth | list | object
deriving DecidableEq, Repr

def kind : Value → Kind
  | text _ => .text
  | number _ => .number
  | truth _ => .truth
  | list _ => .list
  | object _ => .object

/-- The kind of the values whose texts start with a character. -/
def Kind.ofChar? (c : Char) : Option Kind :=
  if c = '"' then some .text
  else if c = '[' then some .list
  else if c = '\x7b' then some .object
  else if c = 't' ∨ c = 'f' then some .truth
  else if c.isDigit then some .number
  else none

theorem Kind.ofChar?_of_isDigit {c : Char} (h : c.isDigit = true) :
    ofChar? c = some .number := by
  have hne : ∀ d : Char, d.isDigit = false → c ≠ d := fun _ => ne_of_isDigit h
  simp only [ofChar?, hne '"' rfl, hne '[' rfl, hne '\x7b' rfl, hne 't' rfl, hne 'f' rfl, h,
    or_self, if_false, if_true]

/-- The first character of a value's text tells the kind of the value. -/
theorem exists_chars_eq_cons (v : Value) :
    ∃ c cs, v.chars = c :: cs ∧ Kind.ofChar? c = some v.kind := by
  rcases v with s | n | b | items | members
  · exact ⟨'"', _, by rw [chars]; rfl, rfl⟩
  · obtain ⟨c, cs, hdigits⟩ := List.exists_cons_of_ne_nil (@Nat.toDigits_ne_nil n 10)
    refine ⟨c, cs, by rw [chars, hdigits], Kind.ofChar?_of_isDigit ?_⟩
    exact isDigit_of_mem_digits (hdigits ▸ List.mem_cons_self ..)
  · cases b
    · exact ⟨'f', _, by rw [chars], rfl⟩
    · exact ⟨'t', _, by rw [chars], rfl⟩
  · cases items
    · exact ⟨'[', _, by rw [chars], rfl⟩
    · exact ⟨'[', _, by rw [chars], rfl⟩
  · cases members
    · exact ⟨'\x7b', _, by rw [chars], rfl⟩
    · exact ⟨'\x7b', _, by rw [chars], rfl⟩

theorem kind_eq_of_append {v w : Value} {rest rest' : List Char}
    (h : v.chars ++ rest = w.chars ++ rest') : v.kind = w.kind := by
  obtain ⟨c, cs, hv, hc⟩ := exists_chars_eq_cons v
  obtain ⟨d, ds, hw, hd⟩ := exists_chars_eq_cons w
  rw [hv, hw] at h
  obtain rfl := (List.cons.inj h).1
  exact Option.some.inj (hc.symm.trans hd)

/-- A value's text starts with no character that starts none. -/
theorem chars_append_ne {v : Value} {c : Char} (h : Kind.ofChar? c = none)
    (rest rest' : List Char) : v.chars ++ rest ≠ c :: rest' := by
  obtain ⟨d, ds, hv, hd⟩ := exists_chars_eq_cons v
  rw [hv]
  intro heq
  obtain rfl := (List.cons.inj heq).1
  rw [h] at hd
  simp at hd

theorem digits_append_inj {n m : Nat} {rest rest' : List Char} (h : startsDigit rest = false)
    (h' : startsDigit rest' = false)
    (heq : Nat.toDigits 10 n ++ rest = Nat.toDigits 10 m ++ rest') : n = m ∧ rest = rest' := by
  have hdigits := congrArg (List.takeWhile Char.isDigit) heq
  rw [takeWhile_isDigit_append (fun _ => isDigit_of_mem_digits) h,
    takeWhile_isDigit_append (fun _ => isDigit_of_mem_digits) h'] at hdigits
  have hn := congrArg (Nat.ofDigitChars 10 · 0) hdigits
  simp only [Nat.ofDigitChars_ten_toDigits] at hn
  subst hn
  exact ⟨rfl, List.append_cancel_left heq⟩

/-! ## Values one after the other -/

theorem startsDigit_itemsChars (items : List Value) (rest : List Char) :
    startsDigit (itemsChars items ++ rest) = false := by
  cases items <;> rw [itemsChars] <;> rfl

theorem startsDigit_membersChars (members : List (String × Value)) (rest : List Char) :
    startsDigit (membersChars members ++ rest) = false := by
  cases members <;> rw [membersChars] <;> rfl

/-- A member tells its name and its value if the value's text tells the value. -/
theorem memberChars_append_inj {name name' : String} {value value' : Value}
    {rest rest' : List Char}
    (hvalue : value.chars ++ rest = value'.chars ++ rest' → value = value' ∧ rest = rest')
    (heq : memberChars (name, value) ++ rest = memberChars (name', value') ++ rest') :
    name = name' ∧ value = value' ∧ rest = rest' := by
  rw [memberChars, memberChars, List.append_assoc, List.append_assoc, List.cons_append,
    List.cons_append] at heq
  obtain ⟨hname, hafter⟩ := quoted_append_inj.1 heq
  exact ⟨hname, hvalue (List.cons.inj hafter).2⟩

mutual

theorem chars_append_inj : ∀ (v w : Value) {rest rest' : List Char}, startsDigit rest = false →
    startsDigit rest' = false → v.chars ++ rest = w.chars ++ rest' → v = w ∧ rest = rest'
  | text s, w, rest, rest', h, h', heq => by
    have hkind := kind_eq_of_append heq
    cases w <;> simp only [kind, reduceCtorEq] at hkind
    rename_i t
    rw [chars, chars] at heq
    obtain ⟨rfl, rfl⟩ := quoted_append_inj.1 heq
    exact ⟨rfl, rfl⟩
  | number n, w, rest, rest', h, h', heq => by
    have hkind := kind_eq_of_append heq
    cases w <;> simp only [kind, reduceCtorEq] at hkind
    rename_i m
    rw [chars, chars] at heq
    obtain ⟨rfl, rfl⟩ := digits_append_inj h h' heq
    exact ⟨rfl, rfl⟩
  | truth b, w, rest, rest', h, h', heq => by
    have hkind := kind_eq_of_append heq
    cases w <;> simp only [kind, reduceCtorEq] at hkind
    rename_i b'
    cases b <;> cases b' <;> simp [chars] at heq ⊢
    · exact heq
    · exact heq
  | list [], w, rest, rest', h, h', heq => by
    have hkind := kind_eq_of_append heq
    cases w <;> simp only [kind, reduceCtorEq] at hkind
    rename_i items
    rcases items with _ | ⟨item, items⟩
    · rw [chars] at heq
      exact ⟨rfl, List.append_cancel_left heq⟩
    · rw [chars, chars] at heq
      have htail : ']' :: rest = item.chars ++ itemsChars items ++ rest' := (List.cons.inj heq).2
      rw [List.append_assoc] at htail
      exact absurd htail.symm (chars_append_ne rfl _ _)
  | list (item :: items), w, rest, rest', h, h', heq => by
    have hkind := kind_eq_of_append heq
    cases w <;> simp only [kind, reduceCtorEq] at hkind
    rename_i items'
    rcases items' with _ | ⟨item', items'⟩
    · rw [chars, chars] at heq
      have htail : item.chars ++ itemsChars items ++ rest = ']' :: rest' := (List.cons.inj heq).2
      rw [List.append_assoc] at htail
      exact absurd htail (chars_append_ne rfl _ _)
    · rw [chars, chars, List.cons_append, List.cons_append, List.append_assoc,
        List.append_assoc] at heq
      obtain ⟨rfl, hitems⟩ := chars_append_inj item item' (startsDigit_itemsChars ..)
        (startsDigit_itemsChars ..) (List.cons.inj heq).2
      obtain ⟨rfl, rfl⟩ := itemsChars_append_inj items items' hitems
      exact ⟨rfl, rfl⟩
  | object [], w, rest, rest', h, h', heq => by
    have hkind := kind_eq_of_append heq
    cases w <;> simp only [kind, reduceCtorEq] at hkind
    rename_i members
    rcases members with _ | ⟨⟨name, value⟩, members⟩
    · rw [chars] at heq
      exact ⟨rfl, List.append_cancel_left heq⟩
    · rw [chars, chars, memberChars] at heq
      simp [quoted] at heq
  | object ((name, value) :: members), w, rest, rest', h, h', heq => by
    have hkind := kind_eq_of_append heq
    cases w <;> simp only [kind, reduceCtorEq] at hkind
    rename_i members'
    rcases members' with _ | ⟨⟨name', value'⟩, members'⟩
    · rw [chars, chars, memberChars] at heq
      simp [quoted] at heq
    · rw [chars, chars, List.cons_append, List.cons_append] at heq
      rw [List.append_assoc, List.append_assoc] at heq
      obtain ⟨rfl, rfl, hmembers⟩ := memberChars_append_inj (chars_append_inj value value'
        (startsDigit_membersChars ..) (startsDigit_membersChars ..)) (List.cons.inj heq).2
      obtain ⟨rfl, rfl⟩ := membersChars_append_inj members members' hmembers
      exact ⟨rfl, rfl⟩

theorem itemsChars_append_inj : ∀ (items items' : List Value) {rest rest' : List Char},
    itemsChars items ++ rest = itemsChars items' ++ rest' → items = items' ∧ rest = rest'
  | [], [], rest, rest', heq => by
    rw [itemsChars] at heq
    exact ⟨rfl, (List.cons.inj heq).2⟩
  | [], item :: items, rest, rest', heq => by
    rw [itemsChars, itemsChars] at heq
    exact absurd (List.cons.inj heq).1 (by decide)
  | item :: items, [], rest, rest', heq => by
    rw [itemsChars, itemsChars] at heq
    exact absurd (List.cons.inj heq).1 (by decide)
  | item :: items, item' :: items', rest, rest', heq => by
    rw [itemsChars, itemsChars, List.cons_append, List.cons_append, List.append_assoc,
      List.append_assoc] at heq
    obtain ⟨rfl, hrest⟩ := chars_append_inj item item' (startsDigit_itemsChars ..)
      (startsDigit_itemsChars ..) (List.cons.inj heq).2
    obtain ⟨rfl, rfl⟩ := itemsChars_append_inj items items' hrest
    exact ⟨rfl, rfl⟩

theorem membersChars_append_inj : ∀ (members members' : List (String × Value))
    {rest rest' : List Char}, membersChars members ++ rest = membersChars members' ++ rest' →
      members = members' ∧ rest = rest'
  | [], [], rest, rest', heq => by
    rw [membersChars] at heq
    exact ⟨rfl, (List.cons.inj heq).2⟩
  | [], (name, value) :: members, rest, rest', heq => by
    rw [membersChars, membersChars] at heq
    exact absurd (List.cons.inj heq).1 (by decide)
  | (name, value) :: members, [], rest, rest', heq => by
    rw [membersChars, membersChars] at heq
    exact absurd (List.cons.inj heq).1 (by decide)
  | (name, value) :: members, (name', value') :: members', rest, rest', heq => by
    rw [membersChars, membersChars, List.cons_append, List.cons_append, List.append_assoc,
      List.append_assoc] at heq
    obtain ⟨rfl, rfl, hmembers⟩ := memberChars_append_inj (chars_append_inj value value'
      (startsDigit_membersChars ..) (startsDigit_membersChars ..)) (List.cons.inj heq).2
    obtain ⟨rfl, rfl⟩ := membersChars_append_inj members members' hmembers
    exact ⟨rfl, rfl⟩

end

theorem chars_injective {v w : Value} (h : v.chars = w.chars) : v = w := by
  have happend : v.chars ++ [] = w.chars ++ [] := by rw [h]
  exact (chars_append_inj v w rfl rfl happend).1

/-- Values have one compact text only if they are equal. -/
theorem compact_inj {v w : Value} : v.compact = w.compact ↔ v = w := by
  refine ⟨fun h => chars_injective ?_, congrArg compact⟩
  simpa [compact] using congrArg String.toList h

end Value

end Json

end BoardQuery

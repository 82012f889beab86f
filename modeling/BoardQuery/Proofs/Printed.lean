import BoardQuery.Json.Value
import BoardQuery.Proofs.Digits
import BoardQuery.Proofs.Syntax

/-!
# What is printed is JSON

The compact text of a value keeps to the syntax of JSON, whatever the value holds
(`Value.isValue_chars`). Lists and objects are printed as items between brackets, so how the items
are printed is all there is to tell about them (`bracketed_list`, `bracketed_object`).
-/

namespace BoardQuery

namespace Json

/-! ## Texts -/

theorem isHexDigit_digitChar : ∀ n < 16, IsHexDigit (Nat.digitChar n) := by
  unfold IsHexDigit
  decide

theorem isUnit_escapeChar (c : Char) : IsUnit (escapeChar c) := by
  unfold escapeChar
  split
  iterate 7 exact .short (by decide)
  rename_i hquote hslash _ _ _ _ _
  split
  · exact .point (.inl rfl) (.inl rfl) (isHexDigit_digitChar _ (by omega))
      (isHexDigit_digitChar _ (by omega))
  · rename_i hplain
    exact .plain (Char.not_lt.1 hplain) hquote hslash

theorem isText_quoted (s : String) : IsText (quoted s) := by
  have hunits : ∀ unit ∈ s.toList.map escapeChar, IsUnit unit := by
    intro unit hunit
    obtain ⟨c, -, rfl⟩ := List.mem_map.1 hunit
    exact isUnit_escapeChar c
  rw [quoted, List.flatMap_def]
  exact .mk hunits

/-! ## Numbers -/

theorem digitChar_ne_zero : ∀ n < 10, n ≠ 0 → Nat.digitChar n ≠ '0' := by
  decide

/-- A number other than zero is not printed with a zero at its start. -/
theorem exists_toDigits_eq_cons {n : Nat} (hn : n ≠ 0) :
    ∃ c cs, Nat.toDigits 10 n = c :: cs ∧ c ≠ '0' := by
  induction n using Nat.strongRecOn with
  | _ n ih =>
  by_cases hlt : n < 10
  · exact ⟨Nat.digitChar n, [], Nat.toDigits_of_lt_base hlt, digitChar_ne_zero n hlt hn⟩
  · obtain ⟨c, cs, hdigits, hc⟩ := ih (n / 10) (by omega) (by omega)
    have happend := Nat.toDigits_append_toDigits (b := 10) (n := n / 10) (d := n % 10) (by decide)
      (by omega) (by omega)
    rw [Nat.div_add_mod, hdigits, List.cons_append] at happend
    exact ⟨c, _, happend.symm, hc⟩

theorem isWhole_toDigits (n : Nat) : IsWhole (Nat.toDigits 10 n) := by
  by_cases hn : n = 0
  · subst hn
    exact .zero
  · obtain ⟨c, cs, hdigits, hc⟩ := exists_toDigits_eq_cons hn
    have hall : ∀ d ∈ c :: cs, d.isDigit = true := fun d hd =>
      Text.isDigit_of_mem_digits (hdigits ▸ hd)
    obtain ⟨hfirst, hothers⟩ := List.forall_mem_cons.1 hall
    rw [hdigits]
    exact .digits hfirst hc hothers

theorem isNumber_toDigits (n : Nat) : IsNumber (Nat.toDigits 10 n) := by
  have hnumber := IsNumber.mk (.inl rfl) (isWhole_toDigits n) .none .none
  rwa [List.nil_append, List.append_nil, List.append_nil] at hnumber

/-! ## Items -/

section Items

variable {α β : Type} {bracket : Bracket} {Item : α → List Char → Prop} {cs : List Char}

theorem Remaining.map {f : β → α} {xs : List β}
    (h : Remaining bracket (fun x => Item (f x)) xs cs) : Remaining bracket Item (xs.map f) cs := by
  induction h with
  | close hgap => exact .close hgap
  | comma hgap hgap' hitem _ ih => exact .comma hgap hgap' hitem ih

/-- How items are printed says how all that they stand for are. -/
theorem Bracketed.map {f : β → α} {xs : List β}
    (h : Bracketed bracket (fun x => Item (f x)) xs cs) : Bracketed bracket Item (xs.map f) cs := by
  cases h with
  | none hgap => exact .none hgap
  | some hgap hitem htail => exact .some hgap hitem htail.map

theorem remaining_itemsChars {f : α → Value} : ∀ {xs : List α},
    (∀ x ∈ xs, Item x (f x).chars) → Remaining .list Item xs (Value.itemsChars (xs.map f))
  | [], _ => by
    rw [List.map_nil, Value.itemsChars]
    exact .close Gap.nil
  | x :: xs, h => by
    obtain ⟨hx, hxs⟩ := List.forall_mem_cons.1 h
    rw [List.map_cons, Value.itemsChars]
    exact .comma Gap.nil Gap.nil hx (remaining_itemsChars hxs)

theorem bracketed_list {f : α → Value} {xs : List α} (h : ∀ x ∈ xs, Item x (f x).chars) :
    Bracketed .list Item xs (Value.list (xs.map f)).chars := by
  cases xs with
  | nil =>
    rw [List.map_nil, Value.chars]
    exact .none Gap.nil
  | cons x xs =>
    obtain ⟨hx, hxs⟩ := List.forall_mem_cons.1 h
    rw [List.map_cons, Value.chars]
    exact .some Gap.nil hx (remaining_itemsChars hxs)

theorem remaining_membersChars {f : α → String × Value} : ∀ {xs : List α},
    (∀ x ∈ xs, Item x (Value.memberChars (f x))) →
      Remaining .object Item xs (Value.membersChars (xs.map f))
  | [], _ => by
    rw [List.map_nil, Value.membersChars]
    exact .close Gap.nil
  | x :: xs, h => by
    obtain ⟨hx, hxs⟩ := List.forall_mem_cons.1 h
    rw [List.map_cons, Value.membersChars]
    exact .comma Gap.nil Gap.nil hx (remaining_membersChars hxs)

theorem bracketed_object {f : α → String × Value} {xs : List α}
    (h : ∀ x ∈ xs, Item x (Value.memberChars (f x))) :
    Bracketed .object Item xs (Value.object (xs.map f)).chars := by
  cases xs with
  | nil =>
    rw [List.map_nil, Value.chars]
    exact .none Gap.nil
  | cons x xs =>
    obtain ⟨hx, hxs⟩ := List.forall_mem_cons.1 h
    rw [List.map_cons, Value.chars]
    exact .some Gap.nil hx (remaining_membersChars hxs)

theorem member_memberChars {Name Held : List Char → Prop} {name : String} {value : Value}
    (hname : Name (quoted name)) (hvalue : Held value.chars) :
    Member Name Held (Value.memberChars (name, value)) := by
  rw [Value.memberChars]
  exact .mk hname Gap.nil Gap.nil hvalue

end Items

/-! ## Values -/

namespace Value

mutual

/-- Whatever a value holds, its compact text is JSON. -/
theorem isValue_chars : ∀ v : Value, IsValue v.chars
  | .text s => by
    rw [chars]
    exact .text (isText_quoted s)
  | .number n => by
    rw [chars]
    exact .number (isNumber_toDigits n)
  | .truth true => by
    rw [chars]
    exact .word (by decide)
  | .truth false => by
    rw [chars]
    exact .word (by decide)
  | .list items => by
    have hitems : Bracketed .list (fun item => Eq (chars item)) items (list (items.map id)).chars :=
      bracketed_list fun _ _ => rfl
    rw [List.map_id] at hitems
    exact .list hitems.map (List.forall_mem_map.2 (isValue_items items))
  | .object members => by
    have hmembers : Bracketed .object
        (fun member => Member (Eq (quoted member.1)) (Eq member.2.chars)) members
        (object (members.map id)).chars :=
      bracketed_object fun _ _ => member_memberChars rfl rfl
    rw [List.map_id] at hmembers
    exact .object
      (hmembers.map (f := fun member : String × Value => (quoted member.1, member.2.chars)))
      (List.forall_mem_map.2 fun member _ => isText_quoted member.1)
      (List.forall_mem_map.2 (isValue_members members))

theorem isValue_items : ∀ items : List Value, ∀ item ∈ items, IsValue item.chars
  | [] => List.forall_mem_nil _
  | item :: items => List.forall_mem_cons.2 ⟨item.isValue_chars, isValue_items items⟩

theorem isValue_members : ∀ members : List (String × Value), ∀ member ∈ members,
    IsValue member.2.chars
  | [] => List.forall_mem_nil _
  | (_, value) :: members => List.forall_mem_cons.2 ⟨value.isValue_chars, isValue_members members⟩

end

end Value

end Json

end BoardQuery

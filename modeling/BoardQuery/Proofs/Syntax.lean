import BoardQuery.Json.Skip

/-!
# The syntax of JSON

Which texts are JSON values, whatever they hold (`IsValue`). Lists and objects are both items
between brackets (`Bracketed`): with commas between them, and with white space around each. What is
held by the items is left open, so the same relation tells how lists of a known kind are written.
-/

namespace BoardQuery

namespace Json

/-! ## White space and brackets -/

/-- White space, which can stand between any two parts of a text. -/
def Gap (cs : List Char) : Prop :=
  ∀ c ∈ cs, c = ' ' ∨ c = '\t' ∨ c = '\n' ∨ c = '\r'

instance : DecidablePred Gap := fun cs => List.decidableBAll _ cs

def Bracket.opening : Bracket → Char
  | list => '['
  | object => '\x7b'

section Items

variable {α : Type} (bracket : Bracket) (Item : α → List Char → Prop)

/-- What follows an item up to the closing bracket: the other items, each after a comma. -/
inductive Remaining : List α → List Char → Prop
  | close {gap : List Char} : Gap gap → Remaining [] (gap ++ [bracket.close])
  | comma {before after item tail : List Char} {x : α} {xs : List α} :
    Gap before → Gap after → Item x item → Remaining xs tail →
      Remaining (x :: xs) (before ++ ',' :: (after ++ (item ++ tail)))

/-- Items between brackets. -/
inductive Bracketed : List α → List Char → Prop
  | none {gap : List Char} : Gap gap → Bracketed [] (bracket.opening :: (gap ++ [bracket.close]))
  | some {gap item tail : List Char} {x : α} {xs : List α} :
    Gap gap → Item x item → Remaining bracket Item xs tail →
      Bracketed (x :: xs) (bracket.opening :: (gap ++ (item ++ tail)))

end Items

/-- A member of an object: its name, and its value after a colon. -/
inductive Member (Name Held : List Char → Prop) : List Char → Prop
  | mk {name before after held : List Char} : Name name → Gap before → Gap after → Held held →
    Member Name Held (name ++ (before ++ ':' :: (after ++ held)))

/-! ## Numbers -/

def IsDigits (cs : List Char) : Prop :=
  cs ≠ [] ∧ ∀ c ∈ cs, c.isDigit = true

/-- A whole number, which starts with a zero only if it is zero. -/
inductive IsWhole : List Char → Prop
  | zero : IsWhole ['0']
  | digits {c : Char} {cs : List Char} :
    c.isDigit = true → c ≠ '0' → (∀ d ∈ cs, d.isDigit = true) → IsWhole (c :: cs)

inductive IsFraction : List Char → Prop
  | none : IsFraction []
  | some {cs : List Char} : IsDigits cs → IsFraction ('.' :: cs)

inductive IsExponent : List Char → Prop
  | none : IsExponent []
  | some {mark : Char} {sign cs : List Char} : mark = 'e' ∨ mark = 'E' →
    sign = [] ∨ sign = ['+'] ∨ sign = ['-'] → IsDigits cs → IsExponent (mark :: (sign ++ cs))

inductive IsNumber : List Char → Prop
  | mk {sign whole fraction exponent : List Char} : sign = [] ∨ sign = ['-'] → IsWhole whole →
    IsFraction fraction → IsExponent exponent → IsNumber (sign ++ (whole ++ (fraction ++ exponent)))

/-! ## Texts -/

def IsHexDigit (c : Char) : Prop :=
  c.isDigit = true ∨ ('a' ≤ c ∧ c ≤ 'f') ∨ ('A' ≤ c ∧ c ≤ 'F')

/-- What stands for one character in a text, or for half of one. -/
inductive IsUnit : List Char → Prop
  | plain {c : Char} : ' ' ≤ c → c ≠ '"' → c ≠ '\\' → IsUnit [c]
  | short {c : Char} : c ∈ ['"', '\\', '/', 'b', 'f', 'n', 'r', 't'] → IsUnit ['\\', c]
  | point {a b c d : Char} : IsHexDigit a → IsHexDigit b → IsHexDigit c → IsHexDigit d →
    IsUnit ['\\', 'u', a, b, c, d]

/-- Texts between quotes. -/
inductive IsText : List Char → Prop
  | mk {units : List (List Char)} : (∀ unit ∈ units, IsUnit unit) →
    IsText ('"' :: (units.flatten ++ ['"']))

/-! ## Values -/

/-- Texts that are JSON values. -/
inductive IsValue : List Char → Prop
  | word {cs : List Char} :
    cs ∈ [['n', 'u', 'l', 'l'], ['t', 'r', 'u', 'e'], ['f', 'a', 'l', 's', 'e']] → IsValue cs
  | number {cs : List Char} : IsNumber cs → IsValue cs
  | text {cs : List Char} : IsText cs → IsValue cs
  | list {items : List (List Char)} {cs : List Char} : Bracketed .list Eq items cs →
    (∀ item ∈ items, IsValue item) → IsValue cs
  | object {members : List (List Char × List Char)} {cs : List Char} :
    Bracketed .object (fun member => Member (Eq member.1) (Eq member.2)) members cs →
    (∀ member ∈ members, IsText member.1) → (∀ member ∈ members, IsValue member.2) → IsValue cs

/-! ## First characters -/

theorem Gap.isSpace {cs : List Char} (h : Gap cs) : ∀ c ∈ cs, isSpace c = true := by
  intro c hc
  rcases h c hc with rfl | rfl | rfl | rfl <;> rfl

theorem Gap.nil : Gap [] :=
  List.forall_mem_nil _

/-- Whether a text starts as an item can: with no white space, and with no closing bracket. -/
def startsItem : List Char → Bool
  | [] => false
  | c :: _ => !isSpace c && c != ']' && c != '\x7d'

/-- Whether a text starts with what can stand after an item, or is empty. -/
def followsItem : List Char → Bool
  | [] => true
  | c :: _ => isSpace c || c == ',' || c == ']' || c == '\x7d'

theorem skipSpace_eq_self {c : Char} (h : isSpace c = false) (cs : List Char) :
    skipSpace (c :: cs) = c :: cs :=
  List.dropWhile_cons_of_neg (by simp [h])

/-- What stands between the parts of a text leaves the next part as it is. -/
theorem skipSpace_gap {gap : List Char} (h : Gap gap) {c : Char} (hc : isSpace c = false)
    (cs : List Char) : skipSpace (gap ++ c :: cs) = c :: cs := by
  rw [skipSpace, List.dropWhile_append_of_pos h.isSpace]
  exact skipSpace_eq_self hc cs

theorem exists_cons_of_startsItem {cs : List Char} (h : startsItem cs = true) :
    ∃ c tail, cs = c :: tail ∧ isSpace c = false ∧ c ≠ ']' ∧ c ≠ '\x7d' := by
  rcases cs with _ | ⟨c, tail⟩
  · simp [startsItem] at h
  · exact ⟨c, tail, rfl, by simpa [startsItem, and_assoc] using h⟩

theorem startsItem_append {cs : List Char} (h : startsItem cs = true) (rest : List Char) :
    startsItem (cs ++ rest) = true := by
  rcases cs with _ | ⟨c, cs⟩
  · simp [startsItem] at h
  · exact h

theorem startsItem_of_isDigit {c : Char} (h : c.isDigit = true) (cs : List Char) :
    startsItem (c :: cs) = true := by
  have hne : ∀ d : Char, d.isDigit = false → c ≠ d := fun _ => ne_of_isDigit h
  simp [startsItem, isSpace, hne ' ' rfl, hne '\n' rfl, hne '\t' rfl, hne '\r' rfl, hne ']' rfl,
    hne '\x7d' rfl]

theorem Bracketed.starts {α : Type} {bracket : Bracket} {Item : α → List Char → Prop}
    {xs : List α} {cs : List Char} (h : Bracketed bracket Item xs cs) :
    startsItem cs = true := by
  cases h <;> cases bracket <;> rfl

theorem IsNumber.starts {cs : List Char} (h : IsNumber cs) : startsItem cs = true := by
  rcases h with ⟨rfl | rfl, hwhole, -, -⟩
  · rcases hwhole with _ | ⟨hc, -, -⟩
    · rfl
    · exact startsItem_of_isDigit hc _
  · rfl

theorem IsText.starts {cs : List Char} (h : IsText cs) : startsItem cs = true := by
  rcases h with ⟨-⟩
  rfl

theorem IsValue.starts {cs : List Char} (h : IsValue cs) : startsItem cs = true := by
  cases h with
  | word h =>
    simp only [List.mem_cons, List.not_mem_nil, or_false] at h
    rcases h with rfl | rfl | rfl <;> rfl
  | number h => exact h.starts
  | text h => exact h.starts
  | list h _ => exact h.starts
  | object h _ _ => exact h.starts

theorem followsItem_gap {gap : List Char} (h : Gap gap) {c : Char}
    (hc : c = ',' ∨ c = ']' ∨ c = '\x7d') (cs : List Char) :
    followsItem (gap ++ c :: cs) = true := by
  rcases gap with _ | ⟨d, gap⟩
  · rcases hc with rfl | rfl | rfl <;> rfl
  · rw [List.cons_append, followsItem, h.isSpace d (List.mem_cons_self ..)]
    rfl

theorem Remaining.follows {α : Type} {bracket : Bracket} {Item : α → List Char → Prop}
    {xs : List α} {tail : List Char} (h : Remaining bracket Item xs tail) (rest : List Char) :
    followsItem (tail ++ rest) = true := by
  cases h with
  | close hgap =>
    rw [List.append_assoc]
    refine followsItem_gap hgap ?_ _
    cases bracket
    · exact .inr (.inl rfl)
    · exact .inr (.inr rfl)
  | comma hbefore hafter hitem htail =>
    rw [List.append_assoc]
    exact followsItem_gap hbefore (.inl rfl) _

/-! ## Turns between items -/

variable {bracket : Bracket} {first : Bool} {gap cs : List Char}

theorem turn_close (h : Gap gap) (rest : List Char) :
    turn bracket first (gap ++ bracket.close :: rest) = .ok (.finished rest) := by
  have hclose : isSpace bracket.close = false := by cases bracket <;> rfl
  have hspace := skipSpace_gap h hclose rest
  simp only [turn, hspace, if_true]

theorem ne_close_of_startsItem {c : Char} (hlist : c ≠ ']') (hobject : c ≠ '\x7d') :
    c ≠ bracket.close := by
  cases bracket
  · exact hlist
  · exact hobject

theorem turn_first (h : Gap gap) (hstart : startsItem cs = true) :
    turn bracket true (gap ++ cs) = .ok (.item cs) := by
  obtain ⟨c, tail, rfl, hc, hlist, hobject⟩ := exists_cons_of_startsItem hstart
  simp only [turn, skipSpace_gap h hc, if_neg (ne_close_of_startsItem hlist hobject), if_true]

theorem turn_comma {before after : List Char} (hbefore : Gap before) (hafter : Gap after)
    (hstart : startsItem cs = true) :
    turn bracket false (before ++ ',' :: (after ++ cs)) = .ok (.item cs) := by
  obtain ⟨c, tail, rfl, hc, hlist, hobject⟩ := exists_cons_of_startsItem hstart
  have hcomma : ',' ≠ bracket.close := by cases bracket <;> decide
  have hspace := @skipSpace_gap _ hbefore ',' rfl (after ++ c :: tail)
  simp only [turn, hspace, if_neg hcomma, Bool.false_eq_true, if_false, if_true,
    skipSpace_gap hafter hc, turnAfterComma, if_neg (ne_close_of_startsItem hlist hobject)]

/-- Neither a digit nor any other character that a number can have comes after an item. -/
theorem ne_of_followsItem {c : Char} {cs : List Char} (h : followsItem (c :: cs) = true) :
    c.isDigit = false ∧ c ≠ '.' ∧ c ≠ 'e' ∧ c ≠ 'E' := by
  simp only [followsItem, isSpace, Bool.or_eq_true, beq_iff_eq, or_assoc] at h
  rcases h with rfl | rfl | rfl | rfl | rfl | rfl | rfl <;> decide

end Json

end BoardQuery

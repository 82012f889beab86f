import BoardQuery.Json.Number
import BoardQuery.Json.Text

/-!
# Passing over a JSON value

A value that nobody asks for is passed over in one go. The lists and objects that are open are kept
on a stack, so values may be nested to any depth.

Lists and objects share their punctuation, which `turn` reads: the closing bracket, or what stands
before the next item.
-/

namespace BoardQuery

namespace Json

/-- Whether a character is white space between the parts of a JSON text. -/
def isSpace (c : Char) : Bool :=
  c == ' ' || c == '\n' || c == '\t' || c == '\r'

def skipSpace (cs : List Char) : List Char :=
  cs.dropWhile isSpace

theorem skipSpace_le (cs : List Char) : (skipSpace cs).length ≤ cs.length :=
  (List.dropWhile_sublist _).length_le

def skipWord : List Char → List Char → Except Fault (List Char)
  | [], cs => .ok cs
  | _ :: _, [] => .error .cutShort
  | d :: word, c :: cs => if c = d then skipWord word cs else .error .malformed

/-- Passes over a value that holds no others. -/
def skipScalar : List Char → Except Fault (List Char)
  | '"' :: cs => (readText false cs).map (·.2)
  | 'n' :: cs => skipWord ['u', 'l', 'l'] cs
  | 't' :: cs => skipWord ['r', 'u', 'e'] cs
  | 'f' :: cs => skipWord ['a', 'l', 's', 'e'] cs
  | cs => skipNumber cs

/-! ## Items and brackets -/

inductive Bracket where
  | list | object
deriving DecidableEq, Repr

def Bracket.close : Bracket → Char
  | list => ']'
  | object => '\x7d'

/-- Where a reader stands between items: at the closing bracket, or at the next item. -/
inductive Turn where
  | finished (rest : List Char)
  | item (rest : List Char)
deriving DecidableEq, Repr

/-- The next item after a comma. -/
def turnAfterComma (close : Char) : List Char → Except Fault Turn
  | [] => .error .cutShort
  | c :: cs => if c = close then .error .malformed else .ok (.item (c :: cs))

/-- Goes on to the next item or over the closing bracket. A comma stands before every item but the
first. -/
def turn (bracket : Bracket) (first : Bool) (cs : List Char) : Except Fault Turn :=
  match skipSpace cs with
  | [] => .error .cutShort
  | c :: rest =>
    if c = bracket.close then .ok (.finished rest)
    else if first then .ok (.item (c :: rest))
    else if c = ',' then turnAfterComma bracket.close (skipSpace rest)
    else .error .malformed

def skipColon (cs : List Char) : Except Fault (List Char) :=
  match skipSpace cs with
  | [] => .error .cutShort
  | c :: rest => if c = ':' then .ok rest else .error .malformed

/-- Reads the name of a member, from its opening quote. -/
def readName (kept : Bool) : List Char → Reads (List Char)
  | [] => .error .cutShort
  | c :: cs => if c = '"' then readText kept cs else .error .malformed

/-- Passes over the name of a member and the colon after it. -/
def skipName (cs : List Char) : Except Fault (List Char) :=
  (readName false cs).bind fun (_, rest) => skipColon rest

/-! ## What a step leaves -/

theorem skipDigits_lt {cs rest : List Char} (h : skipDigits cs = .ok rest) :
    rest.length < cs.length := by
  simp only [skipDigits] at h
  split at h
  · next hdigit =>
    rcases cs with _ | ⟨c, cs⟩
    · simp [startsDigit] at hdigit
    · obtain rfl := Except.ok.inj h
      rw [List.dropWhile_cons_of_pos (by simpa [startsDigit] using hdigit)]
      exact Nat.lt_succ_of_le (List.dropWhile_sublist _).length_le
  · simp at h

theorem skipSign_le (cs : List Char) : (skipSign cs).length ≤ cs.length := by
  unfold skipSign
  split <;> simp

theorem skipExponent_le {cs rest : List Char} (h : skipExponent cs = .ok rest) :
    rest.length ≤ cs.length := by
  unfold skipExponent at h
  split at h
  · next cs =>
    have := skipDigits_lt h
    have := skipSign_le cs
    simp only [List.length_cons]
    omega
  · next cs =>
    have := skipDigits_lt h
    have := skipSign_le cs
    simp only [List.length_cons]
    omega
  · simp_all

theorem bind_eq_ok {α β : Type} {x : Except Fault α} {f : α → Except Fault β} {b : β} :
    x.bind f = .ok b ↔ ∃ a, x = .ok a ∧ f a = .ok b := by
  rcases x with fault | a <;> simp [Except.bind]

theorem skipFraction_le {cs rest : List Char} (h : skipFraction cs = .ok rest) :
    rest.length ≤ cs.length := by
  unfold skipFraction at h
  split at h
  · obtain ⟨after, hdigits, h⟩ := bind_eq_ok.1 h
    have := skipDigits_lt hdigits
    have := skipExponent_le h
    simp only [List.length_cons]
    omega
  · exact skipExponent_le h

theorem skipUnsigned_lt {cs rest : List Char} (h : skipUnsigned cs = .ok rest) :
    rest.length < cs.length := by
  unfold skipUnsigned at h
  split at h
  · split at h
    · simp at h
    · have := skipFraction_le h
      simp only [List.length_cons]
      omega
  · obtain ⟨after, hdigits, h⟩ := bind_eq_ok.1 h
    have := skipDigits_lt hdigits
    have := skipFraction_le h
    omega

theorem skipNumber_lt {cs rest : List Char} (h : skipNumber cs = .ok rest) :
    rest.length < cs.length := by
  unfold skipNumber at h
  split at h
  · have := skipUnsigned_lt h
    simp only [List.length_cons]
    omega
  · exact skipUnsigned_lt h

theorem skipWord_le {word cs rest : List Char} (h : skipWord word cs = .ok rest) :
    rest.length ≤ cs.length := by
  induction word generalizing cs with
  | nil => simp_all [skipWord]
  | cons d word ih =>
    rcases cs with _ | ⟨c, cs⟩
    · simp [skipWord] at h
    · simp only [skipWord] at h
      split at h
      · exact Nat.le_succ_of_le (ih h)
      · simp at h

theorem skipScalar_lt {cs rest : List Char} (h : skipScalar cs = .ok rest) :
    rest.length < cs.length := by
  unfold skipScalar at h
  split at h
  · next cs =>
    cases hread : readText false cs with
    | error fault => simp [hread, Except.map] at h
    | ok read =>
      simp only [hread, Except.map, Except.ok.injEq] at h
      have hread' : readText false cs = .ok (read.1, rest) := by rw [hread, ← h]
      have := readText_rest_lt hread'
      simp only [List.length_cons]
      omega
  · exact Nat.lt_succ_of_le (skipWord_le h)
  · exact Nat.lt_succ_of_le (skipWord_le h)
  · exact Nat.lt_succ_of_le (skipWord_le h)
  · exact skipNumber_lt h

theorem turn_finished_lt {bracket : Bracket} {first : Bool} {cs rest : List Char}
    (h : turn bracket first cs = .ok (.finished rest)) : rest.length < cs.length := by
  have hle := skipSpace_le cs
  simp only [turn] at h
  split at h
  · simp at h
  · next c after hspace =>
    rw [hspace, List.length_cons] at hle
    split at h
    · simp only [Except.ok.injEq, Turn.finished.injEq] at h
      subst h
      exact hle
    · split at h
      · simp at h
      · split at h
        · unfold turnAfterComma at h
          split at h
          · simp at h
          · split at h <;> simp at h
        · simp at h

theorem turn_item_le {bracket : Bracket} {first : Bool} {cs rest : List Char}
    (h : turn bracket first cs = .ok (.item rest)) : rest.length ≤ cs.length := by
  have hle := skipSpace_le cs
  simp only [turn] at h
  split at h
  · simp at h
  · next c after hspace =>
    rw [hspace, List.length_cons] at hle
    split at h
    · simp at h
    · split at h
      · simp only [Except.ok.injEq, Turn.item.injEq] at h
        rw [← h, List.length_cons]
        exact hle
      · split at h
        · have := skipSpace_le after
          unfold turnAfterComma at h
          split at h
          · simp at h
          · next heq =>
            split at h
            · simp at h
            · simp only [Except.ok.injEq, Turn.item.injEq] at h
              rw [← h, ← heq]
              omega
        · simp at h

theorem skipColon_lt {cs rest : List Char} (h : skipColon cs = .ok rest) :
    rest.length < cs.length := by
  have hle := skipSpace_le cs
  simp only [skipColon] at h
  split at h
  · simp at h
  · next c after hspace =>
    rw [hspace, List.length_cons] at hle
    split at h
    · obtain rfl := Except.ok.inj h
      exact hle
    · simp at h

theorem readName_rest_lt {kept : Bool} {cs rest name : List Char}
    (h : readName kept cs = .ok (name, rest)) : rest.length < cs.length := by
  unfold readName at h
  split at h
  · simp at h
  · split at h
    · exact Nat.lt_succ_of_lt (readText_rest_lt h)
    · simp at h

theorem skipName_lt {cs rest : List Char} (h : skipName cs = .ok rest) :
    rest.length < cs.length := by
  obtain ⟨⟨name, after⟩, hname, h⟩ := bind_eq_ok.1 h
  exact Nat.lt_trans (skipColon_lt h) (readName_rest_lt hname)

/-! ## Values -/

mutual

/-- Passes over a value within the open brackets, and over what follows it up to their end. -/
def skipWithin (opened : List Bracket) (cs : List Char) : Except Fault (List Char) :=
  match _h : skipSpace cs with
  | [] => .error .cutShort
  | c :: rest =>
    if c = '[' then skipAfter (.list :: opened) true rest
    else if c = '\x7b' then skipAfter (.object :: opened) true rest
    else
      match _hs : skipScalar (c :: rest) with
      | .error fault => .error fault
      | .ok rest => skipAfter opened false rest
termination_by 2 * cs.length
decreasing_by
  all_goals
    have := skipSpace_le cs
    rw [_h, List.length_cons] at this
  · omega
  · omega
  · have := skipScalar_lt _hs
    simp only [List.length_cons] at this
    omega

/-- Passes over what follows an item up to the end of the open brackets. -/
def skipAfter (opened : List Bracket) (first : Bool) (cs : List Char) :
    Except Fault (List Char) :=
  match opened with
  | [] => .ok cs
  | bracket :: opened =>
    match _h : turn bracket first cs with
    | .error fault => .error fault
    | .ok (.finished rest) => skipAfter opened false rest
    | .ok (.item rest) =>
      match bracket with
      | .list => skipWithin (.list :: opened) rest
      | .object =>
        match _hn : skipName rest with
        | .error fault => .error fault
        | .ok rest => skipWithin (.object :: opened) rest
termination_by 2 * cs.length + 1
decreasing_by
  · have := turn_finished_lt _h
    omega
  · have := turn_item_le _h
    omega
  · have := turn_item_le _h
    have := skipName_lt _hn
    omega

end

/-- Passing over leaves no more than there was, and less if there is a value to pass over. -/
theorem skip_lengths (n : Nat) :
    (∀ opened cs rest, 2 * cs.length ≤ n → skipWithin opened cs = .ok rest →
      rest.length < cs.length) ∧
    (∀ opened first cs rest, 2 * cs.length + 1 ≤ n → skipAfter opened first cs = .ok rest →
      rest.length ≤ cs.length) := by
  induction n with
  | zero =>
    refine ⟨fun opened cs rest hn h => ?_, fun opened first cs rest hn h => by omega⟩
    obtain rfl := List.length_eq_zero_iff.1 (by omega : cs.length = 0)
    rw [skipWithin] at h
    simp [skipSpace] at h
  | succ n ih =>
    refine ⟨fun opened cs rest hn h => ?_, fun opened first cs rest hn h => ?_⟩
    · have hle := skipSpace_le cs
      rw [skipWithin] at h
      split at h
      · simp at h
      · next c after hspace =>
        rw [hspace, List.length_cons] at hle
        split at h
        · have := ih.2 _ _ _ _ (by omega) h
          omega
        · split at h
          · have := ih.2 _ _ _ _ (by omega) h
            omega
          · split at h
            · simp at h
            · next hscalar =>
              have hlt := skipScalar_lt hscalar
              rw [List.length_cons] at hlt
              have := ih.2 _ _ _ _ (by omega) h
              omega
    · rw [skipAfter.eq_def] at h
      split at h
      · simp_all
      · split at h
        · simp at h
        · next hturn =>
          have := turn_finished_lt hturn
          have := ih.2 _ _ _ _ (by omega) h
          omega
        · next hturn =>
          have := turn_item_le hturn
          split at h
          · have := ih.1 _ _ _ (by omega) h
            omega
          · split at h
            · simp at h
            · next hname =>
              have := skipName_lt hname
              have := ih.1 _ _ _ (by omega) h
              omega

def skipValue (cs : List Char) : Except Fault (List Char) :=
  skipWithin [] cs

theorem skipValue_lt {cs rest : List Char} (h : skipValue cs = .ok rest) :
    rest.length < cs.length :=
  (skip_lengths _).1 _ _ _ (Nat.le_refl _) h

end Json

end BoardQuery

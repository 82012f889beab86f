import BoardQuery.Json.Fault

/-!
# Reading the texts of JSON

A text is read from the character after its opening quote. A text that is kept has to be made of
characters: an escaped surrogate must be the first half of a pair or the second. In one that is
passed over only the form of the escapes counts.
-/

namespace BoardQuery

namespace Json

def hexDigit? (c : Char) : Option Nat :=
  if c.isDigit then some (c.toNat - '0'.toNat)
  else if 'a' ≤ c ∧ c ≤ 'f' then some (c.toNat - 'a'.toNat + 10)
  else if 'A' ≤ c ∧ c ≤ 'F' then some (c.toNat - 'A'.toNat + 10)
  else none

/-- The number of four hexadecimal digits. The text is cut short only if it ends before its fourth
byte. -/
def readHex : List Char → Reads Nat
  | a :: b :: c :: d :: rest =>
    match hexDigit? a, hexDigit? b, hexDigit? c, hexDigit? d with
    | some a, some b, some c, some d => .ok (((a * 16 + b) * 16 + c) * 16 + d, rest)
    | _, _, _, _ => .error .malformed
  | cs => .error (if (String.ofList cs).utf8ByteSize < 4 then .cutShort else .malformed)

def isHighSurrogate (n : Nat) : Bool :=
  0xD800 ≤ n && n ≤ 0xDBFF

def isLowSurrogate (n : Nat) : Bool :=
  0xDC00 ≤ n && n ≤ 0xDFFF

def joinSurrogates (high low : Nat) : Char :=
  Char.ofNat (0x10000 + (high - 0xD800) * 0x400 + (low - 0xDC00))

/-- The second half of a surrogate pair, escaped. -/
def readLowSurrogate : List Char → Reads Nat
  | [] | ['\\'] => .error .cutShort
  | '\\' :: 'u' :: cs =>
    (readHex cs).andThen fun low rest =>
      if isLowSurrogate low then .ok (low, rest) else .error .malformed
  | _ => .error .malformed

/-- The character that a letter after a backslash stands for. -/
def shortEscape? : Char → Option Char
  | '"' => some '"'
  | '\\' => some '\\'
  | '/' => some '/'
  | 'b' => some '\x08'
  | 'f' => some '\x0c'
  | 'n' => some '\n'
  | 'r' => some '\r'
  | 't' => some '\t'
  | _ => none

/-- The character that is escaped, from the character after the backslash. -/
def readEscape (kept : Bool) : List Char → Reads Char
  | [] => .error .cutShort
  | 'u' :: cs =>
    (readHex cs).andThen fun n rest =>
      if kept && isLowSurrogate n then .error .malformed
      else if kept && isHighSurrogate n then (readLowSurrogate rest).mapValue (joinSurrogates n)
      else .ok (Char.ofNat n, rest)
  | c :: rest =>
    match shortEscape? c with
    | some c => .ok (c, rest)
    | none => .error .malformed

theorem readHex_rest_lt {cs rest : List Char} {n : Nat} (h : readHex cs = .ok (n, rest)) :
    rest.length < cs.length := by
  simp only [readHex] at h
  split at h
  · split at h
    · obtain ⟨-, rfl⟩ := Prod.mk.inj (Except.ok.inj h)
      simp only [List.length_cons]
      omega
    · simp at h
  · simp at h

theorem readLowSurrogate_rest_lt {cs rest : List Char} {n : Nat}
    (h : readLowSurrogate cs = .ok (n, rest)) : rest.length < cs.length := by
  unfold readLowSurrogate at h
  split at h
  · simp at h
  · simp at h
  · obtain ⟨low, after, hhex, h⟩ := Reads.andThen_eq_ok.1 h
    have := readHex_rest_lt hhex
    split at h
    · obtain ⟨-, rfl⟩ := Prod.mk.inj (Except.ok.inj h)
      simp only [List.length_cons]
      omega
    · simp at h
  · simp at h

theorem readEscape_rest_lt {kept : Bool} {cs rest : List Char} {c : Char}
    (h : readEscape kept cs = .ok (c, rest)) : rest.length < cs.length := by
  unfold readEscape at h
  split at h
  · simp at h
  · obtain ⟨n, after, hhex, h⟩ := Reads.andThen_eq_ok.1 h
    have := readHex_rest_lt hhex
    simp only [List.length_cons]
    split at h
    · simp at h
    · split at h
      · obtain ⟨low, hlow, -⟩ := Reads.mapValue_eq_ok.1 h
        have := readLowSurrogate_rest_lt hlow
        omega
      · obtain ⟨-, rfl⟩ := Prod.mk.inj (Except.ok.inj h)
        omega
  · split at h
    · obtain ⟨-, rfl⟩ := Prod.mk.inj (Except.ok.inj h)
      simp
    · simp at h

/-- The characters of a text up to its closing quote, and the rest after that. -/
def readText (kept : Bool) : List Char → Reads (List Char)
  | [] => .error .cutShort
  | c :: cs =>
    if c = '"' then .ok ([], cs)
    else if c = '\\' then
      match _h : readEscape kept cs with
      | .error fault => .error fault
      | .ok (escaped, rest) => (readText kept rest).mapValue (escaped :: ·)
    else if c < ' ' then .error .malformed
    else (readText kept cs).mapValue (c :: ·)
termination_by cs => cs.length
decreasing_by
  · have := readEscape_rest_lt _h
    simp only [List.length_cons]
    omega
  · simp

theorem readText_rest_lt {kept : Bool} {cs rest text : List Char}
    (h : readText kept cs = .ok (text, rest)) : rest.length < cs.length := by
  induction hn : cs.length using Nat.strongRecOn generalizing cs text with
  | _ n ih =>
  subst hn
  rcases cs with _ | ⟨c, cs⟩
  · simp [readText] at h
  · rw [readText] at h
    simp only [List.length_cons] at ih ⊢
    split at h
    · obtain ⟨-, rfl⟩ := Prod.mk.inj (Except.ok.inj h)
      omega
    · split at h
      · split at h
        · simp at h
        · next escaped after hescape =>
          have hlt := readEscape_rest_lt hescape
          obtain ⟨text, htext, -⟩ := Reads.mapValue_eq_ok.1 h
          have := ih after.length (by omega) htext rfl
          omega
      · split at h
        · simp at h
        · obtain ⟨text, htext, -⟩ := Reads.mapValue_eq_ok.1 h
          have := ih cs.length (by omega) htext rfl
          omega

end Json

end BoardQuery

import BoardQuery.Json.Skip
import BoardQuery.SortedMap

/-!
# Reading JSON values of a known kind

Readers of texts, lists of texts and dictionaries from texts to texts. A value of another kind is
read as far as it takes to tell its kind, so a fault within it comes first.
-/

namespace BoardQuery

namespace Json

/-- The fault of a value that is not of the expected kind, from its first character. -/
def wrongKind (cs : List Char) : Fault :=
  match cs with
  | [] => .cutShort
  | c :: rest =>
    if c = '[' ∨ c = '\x7b' then .mismatched
    else if c = '-' ∨ c.isDigit then numberFault cs
    else
      match if c = '"' then (readText true rest).map (·.2) else skipScalar cs with
      | .ok _ => .mismatched
      | .error fault => fault

/-- Reads a value that starts with a certain character, from the character after that. -/
def readFrom {α : Type} (opening : Char) (read : List Char → Reads α) (cs : List Char) : Reads α :=
  match skipSpace cs with
  | [] => .error .cutShort
  | c :: rest => if c = opening then read rest else .error (wrongKind (c :: rest))

theorem readFrom_rest_lt {α : Type} {opening : Char} {read : List Char → Reads α}
    (hread : ∀ {cs a rest}, read cs = .ok (a, rest) → rest.length ≤ cs.length)
    {cs rest : List Char} {a : α} (h : readFrom opening read cs = .ok (a, rest)) :
    rest.length < cs.length := by
  have hle := skipSpace_le cs
  simp only [readFrom] at h
  split at h
  · simp at h
  · next c after hspace =>
    rw [hspace, List.length_cons] at hle
    split at h
    · have := hread h
      omega
    · simp at h

/-! ## Items -/

/-- A reader of one item, which adds the item to those read before. -/
structure ItemReader (α : Type) where
  read : α → List Char → Reads α
  rest_lt : ∀ {a cs a' rest}, read a cs = .ok (a', rest) → rest.length < cs.length

namespace ItemReader

variable {α : Type}

/-- Reads items up to the closing bracket. -/
def readAll (reader : ItemReader α) (bracket : Bracket) (first : Bool) (a : α) (cs : List Char) :
    Reads α :=
  match _h : turn bracket first cs with
  | .error fault => .error fault
  | .ok (.finished rest) => .ok (a, rest)
  | .ok (.item rest) =>
    match _hr : reader.read a rest with
    | .error fault => .error fault
    | .ok (a, rest) => reader.readAll bracket false a rest
termination_by cs.length
decreasing_by
  have := turn_item_le _h
  have := reader.rest_lt _hr
  omega

theorem readAll_rest_lt (reader : ItemReader α) {bracket : Bracket} {first : Bool} {a a' : α}
    {cs rest : List Char} (h : reader.readAll bracket first a cs = .ok (a', rest)) :
    rest.length < cs.length := by
  induction hn : cs.length using Nat.strongRecOn generalizing first a cs with
  | _ n ih =>
  subst hn
  rw [readAll] at h
  split at h
  · simp at h
  · next hturn =>
    obtain ⟨-, rfl⟩ := Prod.mk.inj (Except.ok.inj h)
    exact turn_finished_lt hturn
  · next hturn =>
    split at h
    · simp at h
    · next hread =>
      have := turn_item_le hturn
      have := reader.rest_lt hread
      have := ih _ (by omega) h rfl
      omega

end ItemReader

/-! ## Texts, lists and dictionaries -/

def readString (cs : List Char) : Reads String :=
  readFrom '"' (fun cs => (readText true cs).mapValue String.ofList) cs

theorem readString_rest_lt {cs rest : List Char} {s : String}
    (h : readString cs = .ok (s, rest)) : rest.length < cs.length := by
  refine readFrom_rest_lt (fun h => ?_) h
  obtain ⟨text, htext, -⟩ := Reads.mapValue_eq_ok.1 h
  exact Nat.le_of_lt (readText_rest_lt htext)

def stringItems : ItemReader (List String) where
  read strings cs := (readString cs).mapValue fun s => strings ++ [s]
  rest_lt h := by
    obtain ⟨s, hs, -⟩ := Reads.mapValue_eq_ok.1 h
    exact readString_rest_lt hs

def readStrings (cs : List Char) : Reads (List String) :=
  readFrom '[' (stringItems.readAll .list true []) cs

theorem readStrings_rest_lt {cs rest : List Char} {strings : List String}
    (h : readStrings cs = .ok (strings, rest)) : rest.length < cs.length :=
  readFrom_rest_lt (fun h => Nat.le_of_lt (stringItems.readAll_rest_lt h)) h

/-- Reads what a member holds, from the colon before it. -/
def readMember {α : Type} (read : List Char → Reads α) (cs : List Char) : Reads α :=
  (skipColon cs).bind read

theorem readMember_rest_lt {α : Type} {read : List Char → Reads α}
    (hread : ∀ {cs a rest}, read cs = .ok (a, rest) → rest.length < cs.length)
    {cs rest : List Char} {a : α} (h : readMember read cs = .ok (a, rest)) :
    rest.length < cs.length := by
  obtain ⟨after, hcolon, h⟩ := bind_eq_ok.1 h
  exact Nat.lt_trans (hread h) (skipColon_lt hcolon)

/-- The entries of a dictionary. Of two with one name the later counts. -/
def entryItems : ItemReader (SortedMap String) where
  read entries cs :=
    (readName true cs).andThen fun name rest =>
      (readMember readString rest).mapValue fun s => entries.insert (String.ofList name) s
  rest_lt h := by
    obtain ⟨name, after, hname, h⟩ := Reads.andThen_eq_ok.1 h
    obtain ⟨s, hs, -⟩ := Reads.mapValue_eq_ok.1 h
    exact Nat.lt_trans (readMember_rest_lt readString_rest_lt hs) (readName_rest_lt hname)

/-- Reads a dictionary from texts to texts. -/
def readDictionary (cs : List Char) : Reads (SortedMap String) :=
  readFrom '\x7b' (entryItems.readAll .object true .empty) cs

theorem readDictionary_rest_lt {cs rest : List Char} {entries : SortedMap String}
    (h : readDictionary cs = .ok (entries, rest)) : rest.length < cs.length :=
  readFrom_rest_lt (fun h => Nat.le_of_lt (entryItems.readAll_rest_lt h)) h

end Json

end BoardQuery

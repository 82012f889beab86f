import BoardQuery.Json.Reader
import BoardQuery.Proofs.Escaping
import BoardQuery.Proofs.Syntax

/-!
# Items are read back

A reader of items that goes from one state to the next with every item it reads goes through all
items between brackets, however they are laid out (`readAll_bracketed`). So texts, lists of texts
and dictionaries are read back from whatever layout they are in (`readString_written`,
`readStrings_written`, `readDictionary_written`).
-/

namespace BoardQuery

namespace Json

variable {gap cs rest : List Char}

/-! ## Readers of items -/

section ReadAll

variable {α ι : Type} {reader : ItemReader α} {bracket : Bracket} {Item : ι → List Char → Prop}
  {state : List ι → α} {all xs : List ι}

namespace ItemReader

theorem readAll_of_finished {first : Bool} {a : α}
    (h : turn bracket first cs = .ok (.finished rest)) :
    reader.readAll bracket first a cs = .ok (a, rest) := by
  rw [readAll]
  split
  · rename_i hturn
    rw [h] at hturn
    simp at hturn
  · rename_i hturn
    rw [h] at hturn
    obtain rfl := Turn.finished.inj (Except.ok.inj hturn)
    rfl
  · rename_i hturn
    rw [h] at hturn
    simp at hturn

theorem readAll_of_item {first : Bool} {a a' : α} {after : List Char}
    (h : turn bracket first cs = .ok (.item after)) (hread : reader.read a after = .ok (a', rest)) :
    reader.readAll bracket first a cs = reader.readAll bracket false a' rest := by
  rw [readAll]
  split
  · rename_i hturn
    rw [h] at hturn
    simp at hturn
  · rename_i hturn
    rw [h] at hturn
    simp at hturn
  · rename_i hturn
    rw [h] at hturn
    obtain rfl := Turn.item.inj (Except.ok.inj hturn)
    split
    · rename_i hfault
      rw [hread] at hfault
      simp at hfault
    · rename_i hok
      rw [hread] at hok
      obtain ⟨rfl, rfl⟩ := Prod.mk.inj (Except.ok.inj hok)
      rfl

/-- A reader that is in a certain state once it has read some of all items, and goes on to the next
state with the next item, whatever comes after it. -/
structure Follows (reader : ItemReader α) (Item : ι → List Char → Prop) (state : List ι → α)
    (all : List ι) : Prop where
  starts : ∀ x item, Item x item → startsItem item = true
  read : ∀ before x later, all = before ++ x :: later → ∀ item, Item x item → ∀ rest,
    followsItem rest = true →
      reader.read (state before) (item ++ rest) = .ok (state (before ++ [x]), rest)

theorem Follows.readAll_remaining (h : reader.Follows Item state all) {tail : List Char}
    (htail : Remaining bracket Item xs tail) (rest : List Char) : ∀ before, all = before ++ xs →
      reader.readAll bracket false (state before) (tail ++ rest) = .ok (state all, rest) := by
  induction htail with
  | close hgap =>
    rintro before rfl
    rw [List.append_nil, List.append_assoc]
    exact readAll_of_finished (turn_close hgap rest)
  | @comma gap gap' item tail x xs hgap hgap' hitem htail ih =>
    intro before hall
    have hturn : turn bracket false (gap ++ ',' :: (gap' ++ (item ++ (tail ++ rest)))) =
        .ok (.item (item ++ (tail ++ rest))) :=
      turn_comma hgap hgap' (startsItem_append (h.starts x item hitem) _)
    have hread := h.read before x xs hall item hitem _ (htail.follows rest)
    rw [List.append_assoc, List.cons_append, List.append_assoc, List.append_assoc,
      readAll_of_item hturn hread]
    exact ih (before ++ [x]) (by rw [hall, List.append_assoc]; rfl)

/-- All items between brackets are read, whatever comes after them. -/
theorem Follows.readAll_bracketed (h : reader.Follows Item state all)
    (hcs : Bracketed bracket Item all cs) :
    ∃ inner, cs = bracket.opening :: inner ∧ ∀ rest,
      reader.readAll bracket true (state []) (inner ++ rest) = .ok (state all, rest) := by
  cases hcs with
  | none hgap =>
    refine ⟨_, rfl, fun rest => ?_⟩
    rw [List.append_assoc]
    exact readAll_of_finished (turn_close hgap rest)
  | @some gap item tail x xs hgap hitem htail =>
    refine ⟨_, rfl, fun rest => ?_⟩
    have hturn : turn bracket true (gap ++ (item ++ (tail ++ rest))) =
        .ok (.item (item ++ (tail ++ rest))) :=
      turn_first hgap (startsItem_append (h.starts x item hitem) _)
    have hread := h.read [] x xs rfl item hitem _ (htail.follows rest)
    rw [List.append_assoc, List.append_assoc, readAll_of_item hturn hread]
    exact h.readAll_remaining htail rest [x] rfl

end ItemReader

theorem readFrom_of_opening {opening : Char} {read : List Char → Reads α} (hgap : Gap gap)
    (hopening : isSpace opening = false) :
    readFrom opening read (gap ++ opening :: cs) = read cs := by
  rw [readFrom, skipSpace_gap hgap hopening]
  exact if_pos rfl

theorem ItemReader.Follows.readFrom_bracketed (h : reader.Follows Item state all) (hgap : Gap gap)
    (hcs : Bracketed bracket Item all cs) (rest : List Char) :
    readFrom bracket.opening (reader.readAll bracket true (state [])) (gap ++ (cs ++ rest)) =
      .ok (state all, rest) := by
  obtain ⟨inner, rfl, hread⟩ := h.readAll_bracketed hcs
  rw [List.cons_append, readFrom_of_opening hgap (by cases bracket <;> rfl)]
  exact hread rest

end ReadAll

/-! ## Texts, lists and dictionaries -/

theorem starts_quoted (s : String) : startsItem (quoted s) = true :=
  rfl

theorem readString_written (hgap : Gap gap) (s : String) (rest : List Char) :
    readString (gap ++ (quoted s ++ rest)) = .ok (s, rest) := by
  rw [quoted_append, readString, readFrom_of_opening hgap rfl, readText_quoted]
  show Except.ok (String.ofList s.toList, rest) = _
  rw [String.ofList_toList]

theorem readName_quoted {kept : Bool} (s : String) (rest : List Char) :
    readName kept (quoted s ++ rest) = .ok (s.toList, rest) := by
  rw [quoted_append, readName, if_pos rfl, readText_quoted]

theorem readMember_written {α : Type} (read : List Char → Reads α) (hgap : Gap gap)
    (cs : List Char) : readMember read (gap ++ ':' :: cs) = read cs := by
  have hcolon := @skipSpace_gap _ hgap ':' rfl cs
  rw [readMember, skipColon, hcolon]
  rfl

/-- Lists of texts in writing. -/
def WritesStrings (strings : List String) (cs : List Char) : Prop :=
  Bracketed .list (fun s => Eq (quoted s)) strings cs

/-- Dictionaries in writing, with their entries in the order in which they are written. -/
def WritesEntries (entries : List (String × String)) (cs : List Char) : Prop :=
  Bracketed .object (fun entry => Member (Eq (quoted entry.1)) (Eq (quoted entry.2))) entries cs

theorem stringItems_follows (strings : List String) :
    stringItems.Follows (fun s => Eq (quoted s)) (fun before => before) strings where
  starts := by
    rintro s item rfl
    exact starts_quoted s
  read := by
    rintro before s later - item rfl rest -
    show (readString (quoted s ++ rest)).mapValue _ = _
    rw [show readString (quoted s ++ rest) = _ from readString_written Gap.nil s rest]
    rfl

theorem readStrings_written {strings : List String} (hgap : Gap gap)
    (h : WritesStrings strings cs) (rest : List Char) :
    readStrings (gap ++ (cs ++ rest)) = .ok (strings, rest) :=
  (stringItems_follows strings).readFrom_bracketed hgap h rest

theorem entryItems_follows (entries : List (String × String)) :
    entryItems.Follows (fun entry => Member (Eq (quoted entry.1)) (Eq (quoted entry.2)))
      SortedMap.ofList entries where
  starts := by
    rintro entry item ⟨rfl, -, -, -⟩
    exact startsItem_append (starts_quoted entry.1) _
  read := by
    rintro before entry later - item ⟨rfl, hgap, hgap', rfl⟩ rest -
    rw [List.append_assoc, List.append_assoc, List.cons_append, List.append_assoc]
    simp only [entryItems, readName_quoted, Reads.andThen, readMember_written _ hgap,
      readString_written hgap', Reads.mapValue, String.ofList_toList, SortedMap.ofList_concat]

theorem readDictionary_written {entries : List (String × String)} (hgap : Gap gap)
    (h : WritesEntries entries cs) (rest : List Char) :
    readDictionary (gap ++ (cs ++ rest)) = .ok (SortedMap.ofList entries, rest) :=
  (entryItems_follows entries).readFrom_bracketed hgap h rest

end Json

end BoardQuery

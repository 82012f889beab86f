import BoardQuery.Proofs.BareClause
import BoardQuery.Proofs.DaysAway
import BoardQuery.Proofs.Digits
import BoardQuery.Proofs.Messages

/-!
# Numbers of days

Digits are read as the number that they spell unless it takes more than 32 bits, and no English word
is made of them. But so many days lead out of the supported years, wherever they are counted from
(`boundary?_eq_none`). So a number of days is refused where there is no such day, and for no other
reason (`read_dayCount`).
-/

namespace BoardQuery

open Text Calendar

/-! ## Digits -/

namespace Text

variable {zeros n : Nat} {c : Char}

theorem bare_zeroPadded : Token.Bare (zeroPadded zeros n) := by
  obtain ⟨c, cs, hcs⟩ := List.exists_cons_of_ne_nil (@zeroPadded_ne_nil zeros n)
  have hc : c.isDigit = true := isDigit_of_mem_zeroPadded (hcs ▸ List.mem_cons_self ..)
  exact ⟨⟨c, cs, hcs, of_isDigit (P := fun c => Token.isQuote c = false) (by decide) hc⟩,
    fun c hc => of_isDigit (P := fun c => isBlank c = false) (by decide)
      (isDigit_of_mem_zeroPadded hc)⟩

theorem isSmall_of_isDigit (h : c.isDigit = true) : IsSmall c where
  ne_sigma := of_isDigit (P := fun c => c ≠ '\u03A3') (by decide) h
  lowerChar := of_isDigit (P := fun c => lowerChar c = [c]) (by decide) h

theorem lower_of_isDigit {s : String} (h : ∀ c ∈ s.toList, c.isDigit = true) : lower s = s :=
  lower_of_isSmall fun c hc => isSmall_of_isDigit (h c hc)

end Text

/-- Digits are not in a table of words that have other characters. -/
theorem Lexicon.get?_table_of_isDigit {α : Type} {wording : String → String}
    {tags : List (String × α)}
    (htags : ∀ tag ∈ tags, (word (wording tag.1)).toList.all Char.isDigit = false)
    {value : String} (h : ∀ c ∈ value.toList, c.isDigit = true) :
    (table wording tags).get? (lower value) = none := by
  rw [lower_of_isDigit h, get?_table, Option.map_eq_none_iff]
  rcases hlast : lastTag? wording tags value with _ | tag
  · rfl
  · have hother := htags tag (mem_of_lastTag? wording hlast)
    rw [((lastTag?_eq_some_iff wording).1 hlast).1.2, List.all_eq_true.2 h] at hother
    simp at hother

/-! ## Bounds -/

namespace Facet

/-- How many days after today the day starts that bounds a date, given a number of days. -/
def reach (facet : Facet) (days : Nat) : Int :=
  if facet = .dueAt then days + 1 else -days

/-- How a date compares to its bound. -/
def comparison (facet : Facet) : Comparison :=
  if facet = .dueAt then .before else .notBefore

end Facet

namespace Calendar

/-- The start of the day that bounds a date, given a number of days, if there is such a day. -/
def Anchor.boundary? (anchor : Anchor) (facet : Facet) (days : Nat) : Option Moment :=
  let day := anchor.today.addDays (facet.reach days)
  if day.isSupported then anchor.zone.dayStart? day else none

theorem Zone.dayStart?_fixed {d : Date} {offset : Int}
    (h : (Moment.mk d 0 offset).isSupported = true) :
    (Zone.fixed offset).dayStart? d = some ⟨d, 0, offset⟩ := by
  simp [dayStart?, earliest?, offsets, offsetAt, h]

namespace Anchor

variable {anchor : Anchor} {facet : Facet} {n : Nat}

/-- From today, numbers of days that do not fit in 32 bits lead to no supported date, and neither
does the last one that fits. -/
theorem boundary?_eq_none (h : anchor.today.isSupported = true) (hn : UInt32.size ≤ n + 1) :
    anchor.boundary? facet n = none := by
  refine if_neg fun hday => ?_
  have hextent := Date.natAbs_number_sub_le h hday
  rw [Date.eq_addDays_iff.1 rfl] at hextent
  have hreach : n ≤ (facet.reach n).natAbs := by
    unfold Facet.reach
    split <;> omega
  have hsize : Date.farthest + 1 < UInt32.size := by decide
  omega

theorem dayAway?_eq_boundary? (h : anchor.today.isSupported = true) {amount : Nat}
    {direction : Direction} (hreach : facet.reach n = direction.signed amount) :
    anchor.dayAway? amount .day direction = anchor.boundary? facet n := by
  have hday : anchor.today.LiesAway (direction.signed amount) .day
      (anchor.today.addDays (facet.reach n)) :=
    hreach ▸ Date.eq_addDays_iff.1 rfl
  exact dayAway?_of_liesAway h hday

theorem daysBound?_ofNat (h : anchor.today.isSupported = true) (hn : n < UInt32.size) :
    anchor.daysBound? facet (.ofNat n) =
      (anchor.boundary? facet n).map fun m => .bound facet.comparison m.written := by
  unfold daysBound? Facet.comparison
  rw [UInt32.toNat_ofNat_of_lt' hn]
  split
  · rename_i hdue
    have hreach : facet.reach n = Direction.forward.signed (n + 1) := if_pos hdue
    by_cases hfit : n + 1 < UInt32.size
    · rw [fitting?, if_pos hfit, Option.bind_some, dayAway?_eq_boundary? h hreach]
    · rw [fitting?, if_neg hfit, Option.bind_none, boundary?_eq_none h (Nat.not_lt.1 hfit)]
  · rename_i hdue
    have hreach : facet.reach n = Direction.backward.signed n := if_neg hdue
    rw [dayAway?_eq_boundary? h hreach]

end Anchor

end Calendar

namespace Lexicon

variable {l : Lexicon} {anchor : Anchor} {clause : Clause}

theorem query_clause :
    l.query anchor [.clause clause] = Query.empty.addReading (l.read anchor clause) :=
  rfl

theorem read_of_facet?_date {facet : Facet} (h : l.facet? (lower clause.keyword) = some facet)
    (hdate : facet.isDate = true) :
    l.read anchor clause =
      .ofOption facet (l.readDate? anchor facet clause.value)
        .dueAt .numberExpected (.clause (lower clause.keyword) clause.value) := by
  simp only [read, h]
  cases facet with
  | dueAt | createdAt | modifiedAt => rfl
  | _ => simp [Facet.isDate] at hdate

/-- A number that does not fit is not understood as a word either. -/
theorem readDate?_zeroPadded {facet : Facet} {zeros n : Nat}
    (hperiod : l.period? (String.ofList (zeroPadded zeros n)) = none)
    (hdueWord : l.dueWord? (String.ofList (zeroPadded zeros n)) = none)
    (h : anchor.today.isSupported = true) :
    l.readDate? anchor facet (String.ofList (zeroPadded zeros n)) =
      (anchor.boundary? facet n).map fun m => .bound facet.comparison m.written := by
  rw [readDate?, String.toList_ofList, readCount?_zeroPadded]
  by_cases hn : n < UInt32.size
  · rw [if_pos hn]
    exact Anchor.daysBound?_ofNat h hn
  · rw [if_neg hn, Anchor.boundary?_eq_none h (Nat.le_succ_of_le (Nat.not_lt.1 hn))]
    simp [hperiod, hdueWord]

end Lexicon

namespace SearchBox

/-! ## Clauses -/

/-- The English keywords of dates, in small letters. -/
def dateKeywords : List (String × Facet) :=
  [("due", .dueAt), ("created", .createdAt), ("modified", .modifiedAt)]

theorem facet?_dateKeyword {key : String} {facet : Facet} (h : (key, facet) ∈ dateKeywords) :
    english.lexicon.facet? key = some facet := by
  have hall : ∀ entry ∈ dateKeywords, english.lexicon.facet? entry.1 = some entry.2 := by
    rw [lexicon_english]
    simp only [Lexicon.facet?_ofWording]
    decide
  exact hall (key, facet) h

variable {anchor : Anchor} {facet : Facet} {zeros n : Nat}

theorem period?_zeroPadded :
    english.lexicon.period? (String.ofList (zeroPadded zeros n)) = none := by
  rw [lexicon_english]
  exact Lexicon.get?_table_of_isDigit (by decide) fun c hc =>
    isDigit_of_mem_zeroPadded (String.toList_ofList ▸ hc)

theorem dueWord?_zeroPadded :
    english.lexicon.dueWord? (String.ofList (zeroPadded zeros n)) = none := by
  rw [lexicon_english]
  exact Lexicon.get?_table_of_isDigit (by decide) fun c hc =>
    isDigit_of_mem_zeroPadded (String.toList_ofList ▸ hc)

/-- A date clause alone is read as its bound, or refused. -/
theorem read_date {keyword value : String} (hkeyword : isWord keyword.toList = true)
    (hfacet : (lower keyword, facet) ∈ dateKeywords) (hvalue : Token.Bare value.toList) :
    english.read anchor (keyword ++ ":" ++ value) =
      Query.empty.addReading (.ofOption facet (english.lexicon.readDate? anchor facet value)
        .dueAt .numberExpected (.clause (lower keyword) value)) := by
  have hdate : ∀ entry ∈ dateKeywords, entry.2.isDate = true := by decide
  have hkey : english.lexicon.facet? (lower (Clause.typed keyword value).keyword) = some facet :=
    facet?_dateKeyword hfacet
  rw [read, Token.scan_word hkeyword hvalue, Lexicon.query_clause,
    Lexicon.read_of_facet?_date hkey (hdate _ hfacet), Clause.typed]

/-- In English a date clause with a number of days, whatever its size and the zeros before it, sets
one bound: a due date lies before the day after that many days from today, a date of creation or of
change not before the day that lies so many days back, each by its local midnight in a zone with one
offset. Where that day is not supported, the clause is refused with its keyword in small letters and
its digits as they were typed. -/
theorem read_dayCount {today : Date} (htoday : today.isSupported = true) (offset : Int)
    {keyword : String} (hkeyword : isWord keyword.toList = true)
    (hfacet : (lower keyword, facet) ∈ dateKeywords) (zeros n : Nat) :
    let digits := String.ofList (zeroPadded zeros n)
    let day := today.addDays (facet.reach n)
    let midnight : Moment := ⟨day, 0, offset⟩
    let q := english.read ⟨today, .fixed offset⟩ (keyword ++ ":" ++ digits)
    (day.isSupported = true → midnight.isSupported = true →
        q.criteria.groups.groups = [(facet, [.bound facet.comparison midnight.written])]
          ∧ q.issues.groups = [])
      ∧ (day.isSupported = false →
        q.criteria.groups.groups = []
          ∧ q.issues.groups =
            [(.dueAt, [⟨.numberExpected, .clause (lower keyword) digits, none⟩])])
      ∧ q.criteria.text = "" := by
  intro digits day midnight q
  have hbare : Token.Bare digits.toList := by
    rw [String.toList_ofList]
    exact bare_zeroPadded
  have hq : q = Query.empty.addReading (.ofOption facet
      ((Anchor.boundary? ⟨today, .fixed offset⟩ facet n).map fun m =>
        .bound facet.comparison m.written)
      .dueAt .numberExpected (.clause (lower keyword) digits)) :=
    (read_date hkeyword hfacet hbare).trans
      (by rw [Lexicon.readDate?_zeroPadded period?_zeroPadded dueWord?_zeroPadded htoday])
  refine ⟨fun hday hmidnight => ?_, fun hday => ?_, ?_⟩
  · have hfound : Anchor.boundary? ⟨today, .fixed offset⟩ facet n = some midnight := by
      rw [Anchor.boundary?, if_pos hday, Zone.dayStart?_fixed hmidnight]
    rw [hq, hfound]
    exact ⟨rfl, rfl⟩
  · have hnone : Anchor.boundary? ⟨today, .fixed offset⟩ facet n = none := by
      rw [Anchor.boundary?, if_neg (Bool.eq_false_iff.1 hday)]
    rw [hq, hnone]
    exact ⟨rfl, rfl⟩
  · rw [hq]
    rcases Anchor.boundary? ⟨today, .fixed offset⟩ facet n with _ | m
    · rfl
    · rfl

/-- What is due within seven days is due before the eighth day, with zeros before the number too. A
number of days that does not fit in 32 bits is refused as it was typed. -/
theorem read_dayCount_zeros :
    let today : Date := ⟨2026, 10, 18, by decide, by decide⟩
    (english.read ⟨today, .fixed 7200⟩ "Due:007").criteria.groups.groups =
        [(.dueAt, [.bound .before "2026-10-26T00:00:00+02:00"])]
      ∧ (english.read ⟨today, .fixed 7200⟩ "Created:4294967296").issues.groups =
        [(.dueAt, [⟨.numberExpected, .clause "created" "4294967296", none⟩])] := by
  intro today
  have htoday : today.isSupported = true := by decide
  have hseven : String.ofList (zeroPadded 2 7) = "007" := by decide
  have hlarge : String.ofList (zeroPadded 0 4294967296) = "4294967296" := by decide
  obtain ⟨hfound, -, -⟩ := @read_dayCount .dueAt today htoday 7200 "Due" (by decide)
    (by decide) 2 7
  obtain ⟨-, hrefused, -⟩ := @read_dayCount .createdAt today htoday 7200 "Created" (by decide)
    (by decide) 0 4294967296
  rw [hseven] at hfound
  rw [hlarge] at hrefused
  have hdue := (hfound (by decide) (by decide)).1
  have hcreated := (hrefused (by decide)).2
  have hwritten : (Moment.mk (today.addDays (Facet.reach .dueAt 7)) 0 7200).written =
      "2026-10-26T00:00:00+02:00" := by
    decide
  have hlower : lower "Created" = "created" := by decide
  rw [hwritten] at hdue
  rw [hlower] at hcreated
  exact ⟨hdue, hcreated⟩

end SearchBox

end BoardQuery

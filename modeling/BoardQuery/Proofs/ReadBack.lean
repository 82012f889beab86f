import BoardQuery.Calendar.Written
import BoardQuery.Proofs.ByteOrder
import BoardQuery.Proofs.DateOrder
import BoardQuery.Proofs.Digits

/-!
# What is written can be read back

A number ends where no digit follows, and the parts of a date or of a timestamp have other
characters between them, so that each part is read back by itself (`Reader.ReadsBack`). So a date
can be told from its text. Of a timestamp the second that the text shows can be told, with the
offset to the nearest minute (`Timestamp.readsBack`), and what has passed of that second cannot.
Numbers that are written with one width are in the order of their texts (`keepsOrder_writePadded`),
and so are dates as long as their years have no sign (`Date.bytes_written_lt_iff`).
-/

namespace BoardQuery

open Json (startsDigit)

namespace Text

/-! ## Readers -/

/-- A reader of the start of a text, which leaves the rest. -/
abbrev Reader (α : Type) :=
  StateT (List Char) Option α

namespace Reader

/-- Reads a number, up to the first character that is no digit. -/
def natural : Reader Nat := fun cs =>
  (readNat? (cs.takeWhile Char.isDigit)).map fun n => (n, cs.dropWhile Char.isDigit)

/-- Passes over a character, which has to be the given one. -/
def mark (c : Char) : Reader Unit
  | [] => none
  | d :: cs => if d = c then some ((), cs) else none

/-- Reads a sign, which is plus where there is none. -/
def sign : Reader Int
  | '-' :: cs => some (-1, cs)
  | '+' :: cs => some (1, cs)
  | cs => some (1, cs)

variable {α β : Type} {r : Reader α} {f : α → Reader β} {cs ds : List Char} {a : α} {b : β}

/-- The text is read as the value, wherever no digit follows. -/
def ReadsBack (r : Reader α) (cs : List Char) (a : α) : Prop :=
  ∀ rest, startsDigit rest = false → r.run (cs ++ rest) = some (a, rest)

theorem readsBack_pure : (pure a : Reader α).ReadsBack [] a :=
  fun _ _ => rfl

theorem readsBack_lift {found : Option α} (h : found = some a) :
    (liftM found : Reader α).ReadsBack [] a := by
  subst h
  exact fun _ _ => rfl

/-- What follows a part must not start with a digit. -/
theorem ReadsBack.bind (h : r.ReadsBack cs a) (hf : (f a).ReadsBack ds b)
    (hds : startsDigit ds = false) : (r >>= f).ReadsBack (cs ++ ds) b := by
  intro rest hrest
  have hfollows : startsDigit (ds ++ rest) = false := by
    cases ds
    · exact hrest
    · exact hds
  rw [List.append_assoc, StateT.run_bind, h _ hfollows]
  exact hf rest hrest

/-- After the last part the value is made of what was read. -/
theorem ReadsBack.bind_last (h : r.ReadsBack cs a) (hf : (f a).ReadsBack [] b) :
    (r >>= f).ReadsBack cs b := by
  have hbind := h.bind hf rfl
  rwa [List.append_nil] at hbind

theorem ReadsBack.bind_pure {value : α → β} (h : r.ReadsBack cs a) (hvalue : value a = b) :
    (r >>= fun a => pure (value a)).ReadsBack cs b :=
  h.bind_last (hvalue ▸ readsBack_pure)

theorem ReadsBack.mark (h : r.ReadsBack cs a) (c : Char) :
    (Reader.mark c >>= fun _ => r).ReadsBack (c :: cs) a := by
  intro rest hrest
  have hmark : (Reader.mark c).run (c :: (cs ++ rest)) = some ((), cs ++ rest) := if_pos rfl
  rw [List.cons_append, StateT.run_bind, hmark]
  exact h rest hrest

theorem readsBack_writePadded (width n : Nat) : natural.ReadsBack (writePadded width n) n := by
  intro rest hrest
  have hdigits : ∀ c ∈ writePadded width n, c.isDigit = true := fun _ => isDigit_of_mem_writePadded
  rw [StateT.run, natural, takeWhile_isDigit_append hdigits hrest,
    dropWhile_isDigit_append hdigits hrest, writePadded_eq_zeroPadded, readNat?_zeroPadded,
    Option.map_some]

theorem ReadsBack.signed {p : Prop} [Decidable p] {f : Int → Reader β}
    (h : (f (if p then -1 else 1)).ReadsBack cs b) :
    (sign >>= f).ReadsBack ((if p then '-' else '+') :: cs) b := by
  intro rest hrest
  rw [StateT.run_bind]
  split
  · rename_i hp
    rw [if_pos hp] at h
    exact h rest hrest
  · rename_i hp
    rw [if_neg hp] at h
    exact h rest hrest

theorem sign_run_of_startsDigit (h : startsDigit cs = true) : sign.run cs = some (1, cs) := by
  rcases cs with _ | ⟨c, cs⟩
  · rfl
  · have hne : ∀ d : Char, d.isDigit = false → c ≠ d := fun _ => Json.ne_of_isDigit h
    rw [StateT.run, sign]
    · exact fun _ heq => hne '-' rfl (List.cons.inj heq).1
    · exact fun _ heq => hne '+' rfl (List.cons.inj heq).1

theorem ReadsBack.unsigned {width n : Nat} {f : Int → Reader β}
    (h : (f 1).ReadsBack (writePadded width n) b) :
    (sign >>= f).ReadsBack (writePadded width n) b := by
  intro rest hrest
  have hstarts : startsDigit (writePadded width n ++ rest) = true := startsDigit_zeroPadded rest
  rw [StateT.run_bind, sign_run_of_startsDigit hstarts]
  exact h rest hrest

/-- What the reader makes of a text, if it would be written as that text. -/
def readAs? (r : Reader α) (write : α → String) (s : String) : Option α :=
  ((r.run s.toList).map fun found => found.1).filter fun a => write a = s

theorem ReadsBack.readAs?_eq_some_iff {write : α → String} (h : r.ReadsBack (write a).toList a)
    {s : String} : r.readAs? write s = some a ↔ write a = s := by
  constructor
  · intro hread
    simpa using (Option.filter_eq_some_iff.1 hread).2
  · rintro rfl
    have hrun : r.run (write a).toList = some (a, []) := by
      have hend := h [] rfl
      rwa [List.append_nil] at hend
    rw [readAs?, hrun]
    simp

end Reader

/-! ## Numbers of one width -/

theorem writePadded_one {n : Nat} (h : n < 10) : writePadded 1 n = [n.digitChar] := by
  rw [writePadded, writeNat, Nat.toDigits_of_lt_base h]
  rfl

/-- The last digit is the rest of a division by ten. -/
theorem writePadded_succ (width n : Nat) :
    writePadded (width + 2) n = writePadded (width + 1) (n / 10) ++ [(n % 10).digitChar] := by
  simp only [writePadded, writeNat]
  rcases Nat.lt_or_ge n 10 with hlt | hge
  · have hzero : Nat.toDigits 10 0 = ['0'] := rfl
    rw [Nat.toDigits_of_lt_base hlt, Nat.div_eq_of_lt hlt, Nat.mod_eq_of_lt hlt, hzero]
    simp [List.replicate_succ']
  · have happend := Nat.toDigits_append_toDigits (b := 10) (n := n / 10) (d := n % 10) (by decide)
      (by omega) (by omega)
    rw [Nat.div_add_mod, Nat.toDigits_of_lt_base (Nat.mod_lt n (by decide))] at happend
    rw [← happend, List.length_append, List.length_singleton, ← List.append_assoc]
    congr 3
    omega

theorem digitChar_lt {m n : Nat} (hlt : m < n) (hn : n < 10) : m.digitChar < n.digitChar := by
  have hall : ∀ n < 10, ∀ m < n, m.digitChar < n.digitChar := by decide
  exact hall n hn m hlt

theorem keepsOrder_writePadded (width : Nat) :
    KeepsOrder (10 ^ (width + 1)) (writePadded (width + 1)) := by
  induction width with
  | zero =>
    intro m n hlt hn s t
    rw [writePadded_one (hlt.trans hn), writePadded_one hn]
    exact keepsOrder_singleton (fun _ _ => digitChar_lt) m n hlt hn s t
  | succ width ih =>
    have hspell : writePadded (width + 2) =
        fun n => writePadded (width + 1) (n / 10) ++ [(n % 10).digitChar] :=
      funext (writePadded_succ width)
    rw [hspell]
    exact ih.append_digit (by decide) Nat.digitChar fun _ _ => digitChar_lt

end Text

namespace Calendar

open Text Text.Reader

/-! ## Dates -/

theorem monthLength_le (year : Int) (month : Nat) : monthLength year month ≤ 31 := by
  simp only [monthLength]
  repeat' split
  all_goals omega

def yearReader : Reader Int := do
  let sign ← sign
  let size ← natural
  return sign * size

theorem readsBack_writeYear (year : Int) : yearReader.ReadsBack (writeYear year) year := by
  unfold writeYear
  split
  · have hyear : (1 : Int) * year.toNat = year := by omega
    exact ((readsBack_writePadded 4 year.toNat).bind_pure hyear).unsigned
  · have hyear : (if year < 0 then -1 else 1 : Int) * year.natAbs = year := by
      split <;> omega
    exact ((readsBack_writePadded 4 year.natAbs).bind_pure hyear).signed

namespace Date

def reader : Reader Date := do
  let year ← yearReader
  mark '-'
  let month ← natural
  mark '-'
  let day ← natural
  liftM (ofYmd? year month day)

theorem ofYmd?_self (d : Date) : ofYmd? d.year d.month d.day = some d :=
  dif_pos ⟨d.month_mem, d.day_mem⟩

protected theorem readsBack (d : Date) : reader.ReadsBack d.chars d := by
  refine (readsBack_writeYear d.year).bind (ReadsBack.mark ?_ '-') rfl
  refine (readsBack_writePadded 2 d.month).bind (ReadsBack.mark ?_ '-') rfl
  exact (readsBack_writePadded 2 d.day).bind_last (readsBack_lift (ofYmd?_self d))

/-- The date that is written as a text. -/
def ofWritten? (s : String) : Option Date :=
  reader.readAs? written s

theorem ofWritten?_eq_some_iff {d : Date} {s : String} :
    ofWritten? s = some d ↔ d.written = s := by
  refine ReadsBack.readAs?_eq_some_iff ?_
  rw [written, String.toList_ofList]
  exact d.readsBack

theorem written_injective : Function.Injective written :=
  fun _ _ h => Option.some.inj ((ofWritten?_eq_some_iff.2 h).symm.trans
    (ofWritten?_eq_some_iff.2 rfl))

/-! ## Dates in order -/

variable {d d' : Date}

theorem chars_lt (h : d < d') (hfirst : 0 ≤ d.year) (hlast : d'.year ≤ 9999) :
    d.chars < d'.chars := by
  have hmonth := d'.month_mem
  have hday := d'.day_mem
  have hlength := monthLength_le d'.year d'.month
  rw [chars, chars]
  rcases lt_def.1 h with hyear | ⟨hyear, hmonth' | ⟨hmonth', hday'⟩⟩
  · rw [writeYear, if_pos ⟨hfirst, by omega⟩, writeYear, if_pos ⟨by omega, hlast⟩]
    exact keepsOrder_writePadded 3 _ _ (by omega) (show d'.year.toNat < 10000 by omega) _ _
  · rw [hyear]
    refine List.append_left_lt (List.cons_lt_cons_self.2 ?_)
    exact keepsOrder_writePadded 1 _ _ hmonth' (show d'.month < 100 by omega) _ _
  · rw [hyear, hmonth']
    refine List.append_left_lt (List.cons_lt_cons_self.2 ?_)
    refine List.append_left_lt (List.cons_lt_cons_self.2 ?_)
    simpa using keepsOrder_writePadded 1 _ _ hday' (show d'.day < 100 by omega) [] []

theorem bytes_written_lt (h : d < d') (hfirst : 0 ≤ d.year) (hlast : d'.year ≤ 9999) :
    bytes d.written < bytes d'.written := by
  rw [bytes_lt_iff, String.lt_iff_toList_lt, written, written, String.toList_ofList,
    String.toList_ofList]
  exact chars_lt h hfirst hlast

theorem bytes_written_lt_iff (hd : 0 ≤ d.year ∧ d.year ≤ 9999)
    (hd' : 0 ≤ d'.year ∧ d'.year ≤ 9999) : bytes d.written < bytes d'.written ↔ d < d' := by
  refine ⟨fun hbytes => ?_, fun h => bytes_written_lt h hd.1 hd'.2⟩
  rcases lt_trichotomy d d' with hlt | rfl | hgt
  · exact hlt
  · exact absurd hbytes (List.lt_irrefl _)
  · exact absurd hbytes (List.lt_asymm (bytes_written_lt hgt hd'.1 hd.2))

/-- A sign comes before every digit. -/
example :
    written ⟨10000, 1, 1, by decide, by decide⟩ < written ⟨9999, 12, 31, by decide, by decide⟩ := by
  decide

end Date

/-! ## Timestamps -/

/-- Reads a time of day, and whether it is a leap second, which is told by the second before it. -/
def timeReader : Reader (Nat × Bool) := do
  let hours ← natural
  mark ':'
  let minutes ← natural
  mark ':'
  let seconds ← natural
  return (3600 * hours + 60 * minutes + min seconds 59, 59 < seconds)

theorem readsBack_writeTime (second nanosecond : Nat) :
    timeReader.ReadsBack (writeTime second nanosecond)
      (60 * (second / 60) + min (second % 60 + nanosecond / 1000000000) 59,
        59 < second % 60 + nanosecond / 1000000000) := by
  have hminutes : 3600 * (second / 3600) + 60 * (second / 60 % 60) = 60 * (second / 60) := by
    omega
  refine (readsBack_writePadded 2 (second / 3600)).bind (ReadsBack.mark ?_ ':') rfl
  refine (readsBack_writePadded 2 (second / 60 % 60)).bind (ReadsBack.mark ?_ ':') rfl
  refine (readsBack_writePadded 2 _).bind_pure ?_
  rw [hminutes]

/-- All that is written of a time of day is its minute and the second shown. -/
theorem writeTime_eq {second second' nanosecond nanosecond' : Nat}
    (hminute : second / 60 = second' / 60)
    (hsecond : second % 60 + nanosecond / 1000000000 = second' % 60 + nanosecond' / 1000000000) :
    writeTime second nanosecond = writeTime second' nanosecond' := by
  have hhour : second / 3600 = second' / 3600 := by omega
  rw [writeTime, writeTime, hhour, hminute, hsecond]

/-- An offset as it is written, which is to the nearest minute. -/
def nearestMinute (offset : Int) : Int :=
  (if offset < 0 then -1 else 1) * (60 * ((offset.natAbs + 30) / 60) : Nat)

theorem nearestMinute_eq_self {offset : Int} (h : offset % 60 = 0) :
    nearestMinute offset = offset := by
  unfold nearestMinute
  split <;> omega

def offsetReader : Reader Int := do
  let sign ← sign
  let hours ← natural
  mark ':'
  let minutes ← natural
  return sign * (60 * (60 * hours + minutes) : Nat)

theorem readsBack_writeOffset (offset : Int) :
    offsetReader.ReadsBack (writeOffset offset) (nearestMinute offset) := by
  have hminutes (minutes : Nat) : 60 * (minutes / 60) + minutes % 60 = minutes :=
    Nat.div_add_mod minutes 60
  refine ReadsBack.signed ?_
  refine (readsBack_writePadded 2 _).bind (ReadsBack.mark ?_ ':') rfl
  refine (readsBack_writePadded 2 _).bind_pure ?_
  rw [hminutes, nearestMinute]

theorem startsDigit_writeOffset (offset : Int) : startsDigit (writeOffset offset) = false := by
  unfold writeOffset
  split <;> rfl

namespace Timestamp

variable {t t' : Timestamp}

/-- Whether a timestamp is the start of a second. A leap second stands at the end of a minute. -/
def IsWhole (t : Timestamp) : Prop :=
  t.nanosecond = 0 ∨ t.nanosecond = 1000000000 ∧ t.second % 60 = 59

/-- The start of the second that the text of a timestamp shows, with the offset to the nearest
minute. -/
def shown (t : Timestamp) : Timestamp :=
  let second := t.second % 60 + t.nanosecond / 1000000000
  Moment.timestamp ⟨t.date, 60 * (t.second / 60) + min second 59, nearestMinute t.offset⟩
    (59 < second)

theorem shown_eq_self_iff (ht : t.offset % 60 = 0) : t.shown = t ↔ t.IsWhole := by
  have hlt := t.nanosecond_lt
  simp only [Timestamp.ext_iff, IsWhole, shown, Moment.timestamp, decide_eq_true_eq,
    nearestMinute_eq_self ht, true_and]
  split <;> omega

theorem writeTime_shown (t : Timestamp) :
    writeTime t.shown.second t.shown.nanosecond = writeTime t.second t.nanosecond := by
  have hlt := t.nanosecond_lt
  refine writeTime_eq ?_ ?_
  · simp only [shown, Moment.timestamp]
    omega
  · simp only [shown, Moment.timestamp, decide_eq_true_eq]
    split <;> omega

/-- What the text of a timestamp does not show does not change it. -/
theorem written_shown (ht : t.offset % 60 = 0) : t.shown.written = t.written := by
  have hdate : t.shown.date = t.date := rfl
  have hoffset : t.shown.offset = t.offset := nearestMinute_eq_self ht
  rw [written, chars, hdate, writeTime_shown, hoffset]
  rfl

def reader : Reader Timestamp := do
  let date ← Date.reader
  mark 'T'
  let time ← timeReader
  let offset ← offsetReader
  return Moment.timestamp ⟨date, time.1, offset⟩ time.2

protected theorem readsBack (t : Timestamp) : reader.ReadsBack t.chars t.shown := by
  refine t.date.readsBack.bind (ReadsBack.mark ?_ 'T') rfl
  refine (readsBack_writeTime t.second t.nanosecond).bind ?_ (startsDigit_writeOffset t.offset)
  exact (readsBack_writeOffset t.offset).bind_pure rfl

/-- The timestamp that is written as a text, if it is the start of a second and its offset a whole
number of minutes. -/
def ofWritten? (s : String) : Option Timestamp :=
  reader.readAs? written s

theorem ofWritten?_written (ht : t.offset % 60 = 0) : ofWritten? t.written = some t.shown := by
  refine (ReadsBack.readAs?_eq_some_iff ?_).2 (written_shown ht)
  rw [written_shown ht, written, String.toList_ofList]
  exact t.readsBack

theorem ofWritten?_eq_self_iff (ht : t.offset % 60 = 0) :
    ofWritten? t.written = some t ↔ t.IsWhole := by
  rw [ofWritten?_written ht, Option.some_inj, shown_eq_self_iff ht]

theorem written_eq_iff (ht : t.offset % 60 = 0) (ht' : t'.offset % 60 = 0) :
    t.written = t'.written ↔ t.shown = t'.shown := by
  constructor
  · intro h
    have hread := ofWritten?_written ht
    rw [h, ofWritten?_written ht'] at hread
    exact (Option.some.inj hread).symm
  · intro h
    rw [← written_shown ht, h, written_shown ht']

end Timestamp

/-- Every date is read back from its text, so no two dates are written alike, and between years 0
and 9999 the bytes of the texts are in the order of the dates. A timestamp whose offset is a whole
number of minutes is read back with its date, its time of day and its offset, and so with its
instant, if it is the start of a second, whatever the length and the sign of its year. Two that
are written alike show the same second. -/
theorem written_read_back :
    (∀ d : Date, Date.ofWritten? d.written = some d)
      ∧ Function.Injective Date.written
      ∧ (∀ d d' : Date, 0 ≤ d.year ∧ d.year ≤ 9999 → 0 ≤ d'.year ∧ d'.year ≤ 9999 →
        (bytes d.written < bytes d'.written ↔ d < d'))
      ∧ (∀ t : Timestamp, t.offset % 60 = 0 →
        (Timestamp.ofWritten? t.written = some t ↔ t.IsWhole))
      ∧ ∀ t t' : Timestamp, t.offset % 60 = 0 → t'.offset % 60 = 0 →
        (t.written = t'.written ↔ t.shown = t'.shown) :=
  ⟨fun _ => Date.ofWritten?_eq_some_iff.2 rfl, Date.written_injective,
    fun _ _ => Date.bytes_written_lt_iff, fun _ => Timestamp.ofWritten?_eq_self_iff,
    fun _ _ => Timestamp.written_eq_iff⟩

/-- A year of five digits and a year before year 0 are read back, and so are an offset that is
behind universal time by hours and minutes, and a leap second, whose text also stands for its
middle. -/
theorem written_read_back_signed :
    Date.ofWritten? "-0001-02-28" = some ⟨-1, 2, 28, by decide, by decide⟩
      ∧ bytes "0999-12-31" < bytes "1000-01-01"
      ∧ Timestamp.ofWritten? "+12026-10-26T23:05:09-05:30" =
        some (Moment.timestamp ⟨⟨12026, 10, 26, by decide, by decide⟩, 83109, -19800⟩ false)
      ∧ Timestamp.ofWritten? "2016-12-31T23:59:60+00:00" =
        some (Moment.timestamp ⟨⟨2016, 12, 31, by decide, by decide⟩, 86399, 0⟩ true)
      ∧ (Timestamp.mk ⟨⟨2016, 12, 31, by decide, by decide⟩, 86399, 0⟩ 1500000000
        (by decide)).written = "2016-12-31T23:59:60+00:00" := by
  obtain ⟨hdates, -, horder, hwhole, halike⟩ := written_read_back
  let early : Date := ⟨-1, 2, 28, by decide, by decide⟩
  let last : Date := ⟨999, 12, 31, by decide, by decide⟩
  let first : Date := ⟨1000, 1, 1, by decide, by decide⟩
  let late : Moment := ⟨⟨12026, 10, 26, by decide, by decide⟩, 83109, -19800⟩
  let leap : Moment := ⟨⟨2016, 12, 31, by decide, by decide⟩, 86399, 0⟩
  let middle : Timestamp := ⟨leap, 1500000000, by decide⟩
  have hearly : early.written = "-0001-02-28" := by decide
  have hlast : last.written = "0999-12-31" := by decide
  have hfirst : first.written = "1000-01-01" := by decide
  have hlate : (late.timestamp false).written = "+12026-10-26T23:05:09-05:30" := by decide
  have hleap : (leap.timestamp true).written = "2016-12-31T23:59:60+00:00" := by decide
  have hlt : bytes last.written < bytes first.written :=
    (horder last first (by decide) (by decide)).2 (Date.lt_def.2 (.inl (by decide)))
  rw [hlast, hfirst] at hlt
  refine ⟨hearly ▸ hdates early, hlt, hlate ▸ ?_, hleap ▸ ?_, hleap ▸ ?_⟩
  · exact (hwhole (late.timestamp false) (by decide)).2 (.inl rfl)
  · exact (hwhole (leap.timestamp true) (by decide)).2 (.inr ⟨rfl, by decide⟩)
  · exact (halike middle (leap.timestamp true) (by decide) (by decide)).2 (by decide)

/-- What has passed of a second is not written, so no way to read the texts gives every timestamp
back. -/
theorem half_second_unwritten :
    (Timestamp.mk ⟨⟨2026, 10, 18, by decide, by decide⟩, 35100, 0⟩ 0 (by decide)).written =
        "2026-10-18T09:45:00+00:00"
      ∧ (Timestamp.mk ⟨⟨2026, 10, 18, by decide, by decide⟩, 35100, 0⟩ 500000000
        (by decide)).written = "2026-10-18T09:45:00+00:00"
      ∧ ¬∃ read : String → Option Timestamp, ∀ t : Timestamp,
        -86400 < t.offset ∧ t.offset < 86400 → t.offset % 60 = 0 → read t.written = some t := by
  let start : Timestamp := ⟨⟨⟨2026, 10, 18, by decide, by decide⟩, 35100, 0⟩, 0, by decide⟩
  let half : Timestamp := ⟨start.toMoment, 500000000, by decide⟩
  have hstart : start.written = "2026-10-18T09:45:00+00:00" := by decide
  have hhalf : half.written = "2026-10-18T09:45:00+00:00" := by decide
  refine ⟨hstart, hhalf, ?_⟩
  rintro ⟨read, hread⟩
  have hfirst := hread start (by decide) (by decide)
  have hsecond := hread half (by decide) (by decide)
  -- one text stands for two timestamps
  rw [hstart] at hfirst
  rw [hhalf, hfirst] at hsecond
  exact absurd (Option.some.inj hsecond) (by decide)

end Calendar

end BoardQuery

import BoardQuery.Proofs.Digits
import BoardQuery.Proofs.Messages
import Mathlib.Data.Nat.Digits.Defs

/-!
# Counts as they are typed

A count is read from a numeral and from nothing else: ASCII digits, at least one, whose decimal value
fits in 32 bits, however many zeros it starts with (`readCount?_eq_some_iff`). A number of days is
such a count. A limit may have a plus sign besides, and is not zero (`readLimit?_eq_some_iff`).
-/

namespace BoardQuery

open Text Calendar

namespace Text

variable {cs : List Char} {n : Nat} {count : UInt32}

/-! ## Numerals -/

/-- ASCII digits, at least one, whose decimal value is `n`. -/
structure IsNumeral (cs : List Char) (n : Nat) : Prop where
  ne_nil : cs ≠ []
  isDigit : ∀ c ∈ cs, c.isDigit = true
  value : Nat.ofDigits 10 (cs.reverse.map fun c => c.toNat - '0'.toNat) = n

/-- A limit as it is typed: a numeral of a positive number of at most 32 bits, with a plus sign
before it or without. -/
structure IsLimit (cs : List Char) (n : Nat) : Prop where
  pos : 1 ≤ n
  fits : n < UInt32.size
  numeral : ∃ digits, (cs = digits ∨ cs = '+' :: digits) ∧ IsNumeral digits n

/-- Reading digits from the left gives each the weight of its place from the right. -/
theorem digitsValue_eq_ofDigits (cs : List Char) :
    digitsValue cs = Nat.ofDigits 10 (cs.reverse.map fun c => c.toNat - '0'.toNat) := by
  induction cs using List.reverseRecOn with
  | nil => rfl
  | append_singleton cs c ih =>
    have hstep : digitsValue (cs ++ [c]) = 10 * digitsValue cs + (c.toNat - '0'.toNat) := by
      rw [digitsValue, List.foldl_append]
      rfl
    rw [hstep, ih, List.reverse_append, List.reverse_singleton, List.singleton_append,
      List.map_cons, Nat.ofDigits_cons, Nat.add_comm]

theorem readNat?_eq_some_iff : readNat? cs = some n ↔ IsNumeral cs n := by
  have hdigits : (!cs.isEmpty && cs.all Char.isDigit) = true ↔
      cs ≠ [] ∧ ∀ c ∈ cs, c.isDigit = true := by simp
  unfold readNat?
  rw [digitsValue_eq_ofDigits]
  constructor
  · intro h
    split at h
    · rename_i hcs
      obtain ⟨hne, hall⟩ := hdigits.1 hcs
      exact ⟨hne, hall, Option.some.inj h⟩
    · simp at h
  · rintro ⟨hne, hall, hvalue⟩
    rw [if_pos (hdigits.2 ⟨hne, hall⟩), hvalue]

/-- A numeral is a count exactly if its value fits, whatever its length. -/
theorem readCount?_eq_some_iff : readCount? cs = some count ↔ IsNumeral cs count.toNat := by
  rw [readCount?, Option.bind_eq_some_iff]
  constructor
  · rintro ⟨n, hn, h⟩
    split at h
    · rename_i hfits
      obtain rfl := Option.some.inj h
      rw [UInt32.toNat_ofNat_of_lt' hfits]
      exact readNat?_eq_some_iff.1 hn
    · simp at h
  · intro h
    refine ⟨count.toNat, readNat?_eq_some_iff.2 h, ?_⟩
    rw [if_pos count.toNat_lt, UInt32.ofNat_toNat]

theorem IsNumeral.ne_plus_cons (h : IsNumeral cs n) (rest : List Char) : cs ≠ '+' :: rest := by
  rintro rfl
  exact absurd (h.isDigit '+' (List.mem_cons_self ..)) (by decide)

theorem readSignedCount?_eq_some_iff :
    readSignedCount? cs = some count ↔
      ∃ digits, (cs = digits ∨ cs = '+' :: digits) ∧ IsNumeral digits count.toNat := by
  unfold readSignedCount?
  split
  · rename_i rest
    rw [readCount?_eq_some_iff]
    constructor
    · intro h
      exact ⟨rest, .inr rfl, h⟩
    · rintro ⟨digits, rfl | heq, h⟩
      · exact absurd rfl (h.ne_plus_cons rest)
      · rwa [(List.cons.inj heq).2]
  · rename_i hplus
    rw [readCount?_eq_some_iff]
    constructor
    · intro h
      exact ⟨cs, .inl rfl, h⟩
    · rintro ⟨digits, rfl | rfl, h⟩
      · exact h
      · exact absurd rfl (hplus digits)

end Text

/-! ## Limits -/

namespace Reading

variable {facet group : Facet} {understood : Option Criterion} {kind : IssueKind}
  {offence : Offence}

theorem ofOption_eq_criterion_iff {c : Criterion} :
    ofOption facet understood group kind offence = .criterion facet c ↔ understood = some c := by
  rcases understood with _ | c'
  · simp [ofOption]
  · simp [ofOption]

end Reading

namespace Lexicon

variable {l : Lexicon} {anchor : Anchor} {clause : Clause}

theorem readLimit?_eq_some_iff {value : String} {c : Criterion} :
    readLimit? value = some c ↔
      ∃ count : UInt32, c = .count count ∧ IsLimit value.toList count.toNat := by
  have hzero : ∀ count : UInt32, count = 0 ↔ ¬1 ≤ count.toNat := by
    intro count
    rw [← UInt32.toNat_inj]
    simp
  rw [readLimit?, Option.bind_eq_some_iff]
  constructor
  · rintro ⟨count, hcount, h⟩
    split at h
    · simp at h
    · rename_i hne
      obtain rfl := Option.some.inj h
      exact ⟨count, rfl, not_not.1 ((hzero count).not.1 hne), count.toNat_lt,
        readSignedCount?_eq_some_iff.1 hcount⟩
  · rintro ⟨count, rfl, hlimit⟩
    refine ⟨count, readSignedCount?_eq_some_iff.2 hlimit.numeral, ?_⟩
    rw [if_neg (mt (hzero count).1 (not_not.2 hlimit.pos))]

theorem readLimit?_eq_none {value : String} (h : ∀ n, ¬IsLimit value.toList n) :
    readLimit? value = none := by
  rcases hread : readLimit? value with _ | c
  · rfl
  · obtain ⟨count, -, hlimit⟩ := readLimit?_eq_some_iff.1 hread
    exact absurd hlimit (h count.toNat)

theorem read_of_facet?_limit (h : l.facet? (lower clause.keyword) = some .limit) :
    l.read anchor clause =
      .ofOption .limit (readLimit? clause.value) .limit .limitInvalid (.text clause.value) := by
  simp only [read, h]
  rfl

/-- Numbers are read exactly. A limit is set by a numeral from 1 on that fits in 32 bits, with a plus
sign before it or without, and every other value is refused as it was typed. A number of days is a
numeral that fits in 32 bits and has no sign. In both, the numeral may start with zeros. -/
theorem numerals_read :
    (∀ (l : Lexicon) (anchor : Anchor) (clause : Clause),
        l.facet? (lower clause.keyword) = some .limit →
          (∀ count : UInt32, l.read anchor clause = .criterion .limit (.count count) ↔
              IsLimit clause.value.toList count.toNat)
            ∧ ((∀ n, ¬IsLimit clause.value.toList n) →
              l.read anchor clause = .issue .limit ⟨.limitInvalid, .text clause.value, none⟩))
      ∧ ∀ (value : String) (n : Nat), (readCount? value.toList).map UInt32.toNat = some n ↔
          IsNumeral value.toList n ∧ n < UInt32.size := by
  refine ⟨fun l anchor clause hlimit => ⟨fun count => ?_, fun hnone => ?_⟩, fun value n => ?_⟩
  · rw [read_of_facet?_limit hlimit, Reading.ofOption_eq_criterion_iff, readLimit?_eq_some_iff]
    constructor
    · rintro ⟨count', hcount, h⟩
      rwa [Criterion.count.inj hcount]
    · intro h
      exact ⟨count, rfl, h⟩
  · rw [read_of_facet?_limit hlimit, readLimit?_eq_none hnone]
    rfl
  · rw [Option.map_eq_some_iff]
    constructor
    · rintro ⟨count, hcount, rfl⟩
      exact ⟨readCount?_eq_some_iff.1 hcount, count.toNat_lt⟩
    · rintro ⟨hnumeral, hfits⟩
      have hvalue : (UInt32.ofNat n).toNat = n := UInt32.toNat_ofNat_of_lt' hfits
      exact ⟨.ofNat n, readCount?_eq_some_iff.2 (hvalue.symm ▸ hnumeral), hvalue⟩

/-- The greatest limit, with a sign and zeros before it, and the number after it, which is refused as
a limit and as a number of days. -/
theorem numerals_read_greatest :
    let l := SearchBox.english.lexicon
    let anchor : Anchor := ⟨⟨2026, 10, 18, by decide, by decide⟩, .fixed 0⟩
    l.facet? (lower "Limit") = some .limit
      ∧ l.read anchor (.typed "Limit" "+004294967295") = .criterion .limit (.count 4294967295)
      ∧ l.read anchor (.typed "Limit" "4294967296") =
        .issue .limit ⟨.limitInvalid, .text "4294967296", none⟩
      ∧ (readCount? "004294967295".toList).map UInt32.toNat = some 4294967295
      ∧ (readCount? "4294967296".toList).map UInt32.toNat ≠ some 4294967296 := by
  intro l anchor
  have hfacet : l.facet? (lower "Limit") = some .limit := by
    have hlower : lower "Limit" = "limit" := by decide
    rw [hlower]
    show SearchBox.english.lexicon.facet? "limit" = some .limit
    rw [SearchBox.lexicon_english]
    simp only [facet?_ofWording]
    decide
  have hgreatest : IsNumeral "004294967295".toList 4294967295 :=
    readNat?_eq_some_iff.1 (by decide)
  have hnext : ∀ n, IsNumeral "4294967296".toList n → n = 4294967296 := by
    intro n hn
    have hread : readNat? "4294967296".toList = some 4294967296 := by decide
    exact Option.some.inj ((readNat?_eq_some_iff.2 hn).symm.trans hread)
  obtain ⟨hlimit, hcount⟩ := numerals_read
  refine ⟨hfacet, ?_, ?_, ?_, ?_⟩
  · refine ((hlimit l anchor (.typed "Limit" "+004294967295") hfacet).1 4294967295).2 ?_
    exact ⟨by decide, by decide, _, .inr rfl, hgreatest⟩
  · refine (hlimit l anchor (.typed "Limit" "4294967296") hfacet).2 ?_
    rintro n ⟨-, hfits, digits, rfl | hplus, hnumeral⟩
    · rw [hnext n hnumeral] at hfits
      exact absurd hfits (by decide)
    · exact absurd hplus (by simp [Clause.typed])
  · exact (hcount "004294967295" 4294967295).2 ⟨hgreatest, by decide⟩
  · intro h
    exact absurd ((hcount "4294967296" 4294967296).1 h).2 (by decide)

end Lexicon

end BoardQuery

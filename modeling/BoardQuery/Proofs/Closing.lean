import BoardQuery.Proofs.Heading

/-!
# The end of a value

`close?` finds the shortest value on its line that a quote closes before a gap
(`close?_eq_some_iff`). What follows a gap does not change what is found before it, unless the
quote closes a value that reaches over the gap (`close?_append`).
-/

namespace BoardQuery

open Text

namespace Token

theorem atGap_cons {c : Char} {cs : List Char} : atGap (c :: cs) = isBlank c := rfl

theorem atGap_append {cs t : List Char} (ht : atGap t = true) : atGap (cs ++ t) = atGap cs := by
  rcases cs with _ | ⟨c, cs⟩
  · exact ht
  · rfl

/-- What stands before the first blank ends at a gap. -/
theorem atGap_dropWhile (cs : List Char) : atGap (cs.dropWhile (!isBlank ·)) = true := by
  have hhead := List.head?_dropWhile_not (!isBlank ·) cs
  rcases hcs : cs.dropWhile (!isBlank ·) with _ | ⟨c, tail⟩
  · rfl
  · rw [hcs] at hhead
    simpa [atGap_cons] using hhead

/-- The text `cs` starts with `value`, which ends within its line, and after it `quote` stands
before the gap at the start of `tail`. -/
structure Closes (quote cs value tail : List Char) : Prop where
  split : cs = value ++ (quote ++ tail)
  line : ∀ c ∈ value, isLineBreak c = false
  gap : atGap tail = true

theorem closesHere_iff {quote cs : List Char} :
    (quote.isPrefixOf cs && atGap (cs.drop quote.length)) = true ↔
      ∃ tail, cs = quote ++ tail ∧ atGap tail = true := by
  rw [Bool.and_eq_true, List.isPrefixOf_iff_prefix]
  constructor
  · rintro ⟨⟨tail, rfl⟩, h⟩
    rw [List.drop_left] at h
    exact ⟨tail, rfl, h⟩
  · rintro ⟨tail, rfl, h⟩
    rw [List.drop_left]
    exact ⟨List.prefix_append _ _, h⟩

theorem close?_quote_append {quote tail : List Char} (h : atGap tail = true) :
    close? quote (quote ++ tail) = some ([], tail) := by
  rcases hcs : quote ++ tail with _ | ⟨c, cs⟩
  · obtain ⟨rfl, rfl⟩ := List.append_eq_nil_iff.1 hcs
    rfl
  · rw [close?, if_pos (closesHere_iff.2 ⟨tail, hcs.symm, h⟩), ← hcs, List.drop_left]

theorem close?_cons_of_not {quote cs : List Char} {c : Char}
    (h : ¬∃ tail, c :: cs = quote ++ tail ∧ atGap tail = true) :
    close? quote (c :: cs) =
      if isLineBreak c then none
      else (close? quote cs).map fun (value, tail) => (c :: value, tail) := by
  rw [close?, if_neg fun hc => h (closesHere_iff.1 hc)]

theorem close?_nil {quote : List Char} (h : quote ≠ []) : close? quote [] = none := by
  simp [close?, h]

theorem Closes.cons {quote cs value tail : List Char} {c : Char} (hc : isLineBreak c = false)
    (h : Closes quote cs value tail) : Closes quote (c :: cs) (c :: value) tail where
  split := by rw [h.split, List.cons_append]
  line d hd := by
    rcases List.mem_cons.1 hd with rfl | hd
    · exact hc
    · exact h.line d hd
  gap := h.gap

theorem closes_of_close? {quote : List Char} : ∀ {cs value tail : List Char},
    close? quote cs = some (value, tail) → Closes quote cs value tail
  | [], value, tail, h => by
    simp only [close?] at h
    split at h
    · rename_i hq
      obtain rfl := List.isEmpty_iff.1 hq
      obtain ⟨rfl, rfl⟩ := Prod.mk.inj (Option.some.inj h)
      exact ⟨rfl, by simp, rfl⟩
    · simp at h
  | c :: cs, value, tail, h => by
    by_cases here : ∃ tail, c :: cs = quote ++ tail ∧ atGap tail = true
    · obtain ⟨tail', hcs, hgap⟩ := here
      rw [hcs, close?_quote_append hgap] at h
      obtain ⟨rfl, rfl⟩ := Prod.mk.inj (Option.some.inj h)
      exact ⟨hcs, by simp, hgap⟩
    · rw [close?_cons_of_not here] at h
      split at h
      · simp at h
      · rename_i hc
        obtain ⟨⟨value', tail'⟩, hclose, heq⟩ := Option.map_eq_some_iff.1 h
        obtain ⟨rfl, rfl⟩ := Prod.mk.inj heq
        exact (closes_of_close? hclose).cons (by simpa using hc)

/-- Wherever a quote closes a value, one is found, and none that is longer. -/
theorem exists_close?_of_closes {quote : List Char} : ∀ {cs value tail : List Char},
    Closes quote cs value tail →
      ∃ value' tail', close? quote cs = some (value', tail') ∧ value'.length ≤ value.length
  | cs, [], tail, h => by
    obtain ⟨rfl, -, hgap⟩ := h
    exact ⟨[], tail, close?_quote_append hgap, le_rfl⟩
  | cs, c :: value, tail, h => by
    obtain ⟨rfl, hline, hgap⟩ := h
    rw [List.cons_append]
    by_cases here : ∃ tail', c :: (value ++ (quote ++ tail)) = quote ++ tail' ∧ atGap tail' = true
    · obtain ⟨tail', hcs, hgap'⟩ := here
      rw [hcs]
      exact ⟨[], tail', close?_quote_append hgap', Nat.zero_le _⟩
    · have hvalue : Closes quote (value ++ (quote ++ tail)) value tail :=
        ⟨rfl, fun d hd => hline d (List.mem_cons_of_mem _ hd), hgap⟩
      obtain ⟨value', tail', hclose, hle⟩ := exists_close?_of_closes hvalue
      refine ⟨c :: value', tail', ?_, Nat.succ_le_succ hle⟩
      rw [close?_cons_of_not here, hclose, hline c (List.mem_cons_self ..)]
      rfl

theorem Closes.eq_of_length {quote cs value value' tail tail' : List Char}
    (h : Closes quote cs value tail) (h' : Closes quote cs value' tail')
    (hlen : value.length = value'.length) : value = value' ∧ tail = tail' := by
  obtain ⟨hv, htail⟩ := List.append_inj (h.split.symm.trans h'.split) hlen
  exact ⟨hv, List.append_cancel_left htail⟩

/-- What is found is the shortest value that the quote closes. -/
theorem close?_eq_some_iff {quote cs value tail : List Char} :
    close? quote cs = some (value, tail) ↔
      Closes quote cs value tail
        ∧ ∀ value' tail', Closes quote cs value' tail' → value.length ≤ value'.length := by
  constructor
  · intro h
    refine ⟨closes_of_close? h, fun value' tail' h' => ?_⟩
    obtain ⟨value'', tail'', hclose, hle⟩ := exists_close?_of_closes h'
    obtain ⟨rfl, -⟩ := Prod.mk.inj (Option.some.inj (h.symm.trans hclose))
    exact hle
  · rintro ⟨h, hmin⟩
    obtain ⟨value', tail', hclose, hle⟩ := exists_close?_of_closes h
    have h' := closes_of_close? hclose
    obtain ⟨rfl, rfl⟩ := h.eq_of_length h' (Nat.le_antisymm (hmin _ _ h') hle)
    exact hclose

theorem close?_nil_quote {t : List Char} (h : atGap t = true) : close? [] t = some ([], t) :=
  @close?_quote_append [] t h

/-- Without quotes, a value ends at the first gap. -/
theorem close?_gap : ∀ {value tail : List Char}, (∀ c ∈ value, isBlank c = false) →
    atGap tail = true → close? [] (value ++ tail) = some (value, tail)
  | [], _, _, hgap => close?_nil_quote hgap
  | c :: value, tail, h, hgap => by
    have hc := h c (List.mem_cons_self ..)
    have hvalue : ∀ d ∈ value, isBlank d = false := fun d hd => h d (List.mem_cons_of_mem _ hd)
    have here : ¬∃ tail', c :: (value ++ tail) = [] ++ tail' ∧ atGap tail' = true := by
      rintro ⟨tail', rfl, hgap'⟩
      rw [atGap_cons, hc] at hgap'
      simp at hgap'
    rw [List.cons_append, close?_cons_of_not here, isLineBreak_of_not_isBlank hc,
      close?_gap hvalue hgap]
    rfl

/-- Characters without a blank that start a text stand before its first gap. -/
theorem append_of_append_gap {cs t xs rest : List Char} (hxs : ∀ c ∈ xs, isBlank c = false)
    (ht : atGap t = true) (h : cs ++ t = xs ++ rest) : ∃ mid, cs = xs ++ mid ∧ rest = mid ++ t := by
  rcases List.append_eq_append_iff.1 h with ⟨mid, rfl, rfl⟩ | ⟨mid, rfl, rfl⟩
  · rcases mid with _ | ⟨c, mid⟩
    · exact ⟨[], by simp, rfl⟩
    · have hc := hxs c (by simp)
      rw [List.cons_append, atGap_cons, hc] at ht
      simp at ht
  · exact ⟨mid, rfl, rfl⟩

theorem quote_append_iff {quote cs t : List Char} (hq : ∀ c ∈ quote, isQuote c = true)
    (ht : atGap t = true) :
    (∃ tail, cs ++ t = quote ++ tail ∧ atGap tail = true) ↔
      ∃ tail, cs = quote ++ tail ∧ atGap tail = true := by
  constructor
  · rintro ⟨tail, h, hgap⟩
    obtain ⟨mid, rfl, rfl⟩ := append_of_append_gap (fun c hc => isBlank_of_isQuote (hq c hc)) ht h
    exact ⟨mid, rfl, by rwa [atGap_append ht] at hgap⟩
  · rintro ⟨tail, rfl, hgap⟩
    exact ⟨tail ++ t, List.append_assoc .., by rwa [atGap_append ht]⟩

/-- What is found before a gap does not change with what follows the gap, unless the quote closes
something after it. -/
theorem close?_append {quote t : List Char} (hq : ∀ c ∈ quote, isQuote c = true)
    (ht : atGap t = true) (hnone : quote ≠ [] → close? quote t = none) :
    ∀ cs : List Char, close? quote (cs ++ t) =
      (close? quote cs).map fun (value, tail) => (value, tail ++ t)
  | [] => by
    by_cases hquote : quote = []
    · subst hquote
      rw [List.nil_append, close?_nil_quote ht]
      rfl
    · rw [List.nil_append, hnone hquote, close?_nil hquote]
      rfl
  | c :: cs => by
    by_cases here : ∃ tail, c :: cs = quote ++ tail ∧ atGap tail = true
    · obtain ⟨tail, hcs, hgap⟩ := here
      rw [hcs, List.append_assoc, close?_quote_append (by rwa [atGap_append ht]),
        close?_quote_append hgap]
      rfl
    · have here' : ¬∃ tail, c :: cs ++ t = quote ++ tail ∧ atGap tail = true :=
        fun h => here ((quote_append_iff hq ht).1 h)
      rw [List.cons_append] at here' ⊢
      rw [close?_cons_of_not here', close?_cons_of_not here,
        close?_append hq ht hnone cs]
      split
      · rfl
      · rw [Option.map_map, Option.map_map]
        rfl

theorem mem_shortenings : ∀ {cs quote : List Char}, quote ∈ shortenings cs ↔ quote <+: cs
  | [], quote => by simp [shortenings]
  | c :: cs, quote => by
    simp only [shortenings, List.mem_append, List.mem_map, List.mem_singleton]
    rw [List.prefix_cons_iff, or_comm]
    exact or_congr_right ⟨fun ⟨q, hq, h⟩ => ⟨q, h.symm, mem_shortenings.1 hq⟩,
      fun ⟨q, h, hq⟩ => ⟨q, mem_shortenings.2 hq, h.symm⟩⟩

end Token

end BoardQuery

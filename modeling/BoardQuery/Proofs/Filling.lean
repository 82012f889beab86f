import BoardQuery.Phrasebook
import Mathlib.Data.List.Infix

/-!
# Filling the placeholders of a message

A template is cut into characters and placeholders (`segments`), and filled at once if each
placeholder is replaced by its text (`Offence.fillAtOnce`). A search replaces the placeholders one
after the other. That comes to the same as long as each one stands where the template has it and
nowhere else when its turn comes (`substituteChars_render`): then nothing that was put in is
replaced again.
-/

namespace BoardQuery

namespace Text

/-! ## Placeholders -/

/-- Placeholders that are not empty, and none of which begins with another. -/
structure IsCode (placeholders : List (List Char)) : Prop where
  ne_nil : ∀ p ∈ placeholders, p ≠ []
  eq_of_prefix : ∀ p ∈ placeholders, ∀ q ∈ placeholders, p <+: q → p = q

theorem isCode_singleton {pattern : List Char} (h : pattern ≠ []) : IsCode [pattern] where
  ne_nil _ hp := List.mem_singleton.1 hp ▸ h
  eq_of_prefix _ hp _ hq _ := (List.mem_singleton.1 hp).trans (List.mem_singleton.1 hq).symm

section Placeholders

variable {placeholders : List (List Char)}

/-- Where two placeholders begin at once they are the same. -/
theorem IsCode.eq_of_prefix_of_prefix (h : IsCode placeholders) {p q cs : List Char}
    (hp : p ∈ placeholders) (hq : q ∈ placeholders) (hpcs : p <+: cs) (hqcs : q <+: cs) : p = q := by
  rcases List.prefix_or_prefix_of_prefix hpcs hqcs with hle | hle
  · exact h.eq_of_prefix p hp q hq hle
  · exact (h.eq_of_prefix q hq p hp hle).symm

/-- A template is read from the left: a placeholder as a whole, and by itself any character with
which none begins. -/
@[elab_as_elim]
theorem template_induction (h : IsCode placeholders) {motive : List Char → Prop} (nil : motive [])
    (slot : ∀ p ∈ placeholders, ∀ cs, motive cs → motive (p ++ cs))
    (plain : ∀ c cs, (∀ p ∈ placeholders, ¬p <+: c :: cs) → motive cs → motive (c :: cs)) :
    ∀ cs, motive cs
  | [] => nil
  | c :: cs => by
    by_cases hbegins : ∃ p ∈ placeholders, p <+: c :: cs
    · obtain ⟨p, hp, rest, hrest⟩ := hbegins
      have hlength : rest.length < (c :: cs).length := by
        have := List.length_pos_iff.2 (h.ne_nil p hp)
        rw [← hrest, List.length_append]
        omega
      rw [← hrest]
      exact slot p hp rest (template_induction h nil slot plain rest)
    · exact plain c cs (fun p hp hbegin => hbegins ⟨p, hp, hbegin⟩)
        (template_induction h nil slot plain cs)
termination_by cs => cs.length
decreasing_by all_goals simp only [List.length_cons] at *; omega

end Placeholders

/-! ## Replacing one pattern -/

section Pattern

variable {pattern text : List Char}

/-- A text in which one pattern is replaced is read in the same way. -/
@[elab_as_elim]
theorem occurrence_induction (hpattern : pattern ≠ []) {motive : List Char → Prop} (nil : motive [])
    (occurrence : ∀ cs, motive cs → motive (pattern ++ cs))
    (other : ∀ c cs, ¬pattern <+: c :: cs → motive cs → motive (c :: cs)) : ∀ cs, motive cs :=
  template_induction (isCode_singleton hpattern) nil
    (fun _ hp cs hcs => List.mem_singleton.1 hp ▸ occurrence cs hcs)
    (fun c cs h hcs => other c cs (h pattern List.mem_cons_self) hcs)

theorem substituteChars_nil : substituteChars pattern text [] = [] := by
  rw [substituteChars]

theorem substituteChars_append_self (hpattern : pattern ≠ []) (cs : List Char) :
    substituteChars pattern text (pattern ++ cs) = text ++ substituteChars pattern text cs := by
  obtain ⟨c, pattern', rfl⟩ := List.exists_cons_of_ne_nil hpattern
  have hbegin : (c :: pattern').isPrefixOf (c :: (pattern' ++ cs)) = true :=
    List.isPrefixOf_iff_prefix.2 ⟨cs, rfl⟩
  rw [List.cons_append, substituteChars, if_pos hbegin]
  simp

theorem substituteChars_self (hpattern : pattern ≠ []) (text : List Char) :
    substituteChars pattern text pattern = text := by
  have hself : substituteChars pattern text (pattern ++ []) = _ :=
    substituteChars_append_self hpattern []
  rwa [substituteChars_nil, List.append_nil, List.append_nil] at hself

theorem substituteChars_cons {c : Char} {cs : List Char} (h : ¬pattern <+: c :: cs) :
    substituteChars pattern text (c :: cs) = c :: substituteChars pattern text cs := by
  rw [substituteChars, if_neg fun hbegin => h (List.isPrefixOf_iff_prefix.1 hbegin)]

/-- Where the pattern does not begin nothing is replaced. -/
theorem substituteChars_append {rest : List Char} : ∀ {cs : List Char},
    (∀ t, t <:+ cs → t ≠ [] → ¬pattern <+: t ++ rest) →
      substituteChars pattern text (cs ++ rest) = cs ++ substituteChars pattern text rest
  | [], _ => rfl
  | c :: cs, h => by
    have hrest : substituteChars pattern text (cs ++ rest) =
        cs ++ substituteChars pattern text rest :=
      substituteChars_append fun t ht => h t (ht.trans (List.suffix_cons c cs))
    have hfirst : ¬pattern <+: c :: (cs ++ rest) :=
      h (c :: cs) List.suffix_rfl (List.cons_ne_nil _ _)
    rw [List.cons_append, substituteChars_cons hfirst, hrest, List.cons_append]

/-- A text without the pattern stays as it is. -/
theorem substituteChars_eq_self {cs : List Char} (h : ¬pattern <:+: cs) :
    substituteChars pattern text cs = cs := by
  have hnot : ∀ t, t <:+ cs → t ≠ [] → ¬pattern <+: t ++ [] := by
    intro t ht _ hbegin
    rw [List.append_nil] at hbegin
    exact h (hbegin.isInfix.trans ht.isInfix)
  have hself : substituteChars pattern text (cs ++ []) = _ := substituteChars_append hnot
  rwa [substituteChars_nil, List.append_nil] at hself

/-- A pattern does not reach over a character that it does not have. -/
theorem prefix_append_cons_iff {c : Char} (hc : c ∉ pattern) {cs rest : List Char} :
    pattern <+: cs ++ c :: rest ↔ pattern <+: cs := by
  refine ⟨fun h => ?_, fun h => h.trans (List.prefix_append _ _)⟩
  rcases List.prefix_or_prefix_of_prefix h (List.prefix_append cs (c :: rest)) with hle | ⟨t, ht⟩
  · exact hle
  · subst ht
    rw [List.prefix_append_right_inj] at h
    rcases t with _ | ⟨d, t⟩
    · rw [List.append_nil]
    · have hd : d = c := (List.cons_prefix_cons.1 h).1
      exact absurd (by simp [hd]) hc

/-- So it is replaced before and after such a character on its own. -/
theorem substituteChars_append_cons {c : Char} (hc : c ∉ pattern) (hpattern : pattern ≠ [])
    (cs rest : List Char) :
    substituteChars pattern text (cs ++ c :: rest) =
      substituteChars pattern text cs ++ c :: substituteChars pattern text rest := by
  induction cs using occurrence_induction hpattern with
  | nil =>
    have hnot : ¬pattern <+: c :: rest := fun h =>
      hpattern (List.prefix_nil.1 ((prefix_append_cons_iff hc).1 h))
    rw [List.nil_append, substituteChars_cons hnot, substituteChars_nil, List.nil_append]
  | occurrence cs ih =>
    rw [List.append_assoc, substituteChars_append_self hpattern,
      substituteChars_append_self hpattern, ih, List.append_assoc]
  | other d cs h ih =>
    have hnot : ¬pattern <+: d :: (cs ++ c :: rest) := fun h' =>
      h ((prefix_append_cons_iff hc).1 h')
    rw [List.cons_append, substituteChars_cons hnot, substituteChars_cons h, ih, List.cons_append]

/-- Each replacement changes the length of a text by the same amount. -/
theorem length_substituteChars (hpattern : pattern ≠ []) (text cs : List Char) :
    ∃ n, (0 < n ↔ pattern <:+: cs)
      ∧ (substituteChars pattern text cs).length + n * pattern.length =
        cs.length + n * text.length := by
  induction cs using occurrence_induction hpattern with
  | nil => exact ⟨0, by simpa using hpattern, by simp [substituteChars_nil]⟩
  | occurrence cs ih =>
    obtain ⟨n, -, hlength⟩ := ih
    refine ⟨n + 1, ?_, ?_⟩
    · simp [(List.prefix_append pattern cs).isInfix]
    · rw [substituteChars_append_self hpattern, List.length_append, List.length_append,
        Nat.succ_mul, Nat.succ_mul]
      omega
  | other c cs h ih =>
    obtain ⟨n, hn, hlength⟩ := ih
    refine ⟨n, ?_, ?_⟩
    · rw [hn, List.infix_cons_iff, or_iff_right h]
    · rw [substituteChars_cons h, List.length_cons, List.length_cons]
      omega

/-- A text that is put in the place of a pattern within itself stays the same only if the pattern is
all of it or does not occur. -/
theorem substituteChars_self_iff (hpattern : pattern ≠ []) :
    substituteChars pattern text text = text ↔ text = pattern ∨ ¬pattern <:+: text := by
  constructor
  · intro h
    obtain ⟨n, hn, hlength⟩ := length_substituteChars hpattern text text
    rw [h, Nat.add_left_cancel_iff] at hlength
    by_cases hoccurs : pattern <:+: text
    · exact .inl (hoccurs.eq_of_length (Nat.eq_of_mul_eq_mul_left (hn.2 hoccurs) hlength)).symm
    · exact .inr hoccurs
  · rintro (rfl | h)
    · exact substituteChars_self hpattern text
    · exact substituteChars_eq_self h

end Pattern

theorem toList_substitute (pattern text template : String) :
    (substitute pattern text template).toList =
      substituteChars pattern.toList text.toList template.toList :=
  String.toList_ofList

/-! ## Templates cut at their placeholders -/

/-- A part of a template: a character that stands for itself, or a placeholder. -/
inductive Segment where
  | plain (c : Char)
  | slot (placeholder : List Char)
deriving DecidableEq, Repr

/-- Cuts a template at its placeholders, which are found from the left. -/
def segments (placeholders : List (List Char)) : List Char → List Segment
  | [] => []
  | c :: cs =>
    match placeholders.find? (·.isPrefixOf (c :: cs)) with
    | some p => .slot p :: segments placeholders (cs.drop (p.length - 1))
    | none => .plain c :: segments placeholders cs
termination_by cs => cs.length
decreasing_by all_goals simp only [List.length_drop, List.length_cons]; omega

/-- The text of a segment, given what stands in the place of each placeholder. -/
def Segment.fill (texts : List Char → List Char) : Segment → List Char
  | .plain c => [c]
  | .slot p => texts p

/-- The text that some segments come to. -/
def render (texts : List Char → List Char) (segs : List Segment) : List Char :=
  segs.flatMap (Segment.fill texts)

@[simp]
theorem render_nil (texts : List Char → List Char) : render texts [] = [] :=
  rfl

@[simp]
theorem render_cons (texts : List Char → List Char) (seg : Segment) (segs : List Segment) :
    render texts (seg :: segs) = seg.fill texts ++ render texts segs :=
  List.flatMap_cons

section Segments

variable {placeholders : List (List Char)}

theorem segments_nil : segments placeholders [] = [] := by
  rw [segments]

theorem segments_append (h : IsCode placeholders) {p : List Char} (hp : p ∈ placeholders)
    (cs : List Char) :
    segments placeholders (p ++ cs) = .slot p :: segments placeholders cs := by
  have hfind : placeholders.find? (·.isPrefixOf (p ++ cs)) = some p := by
    rcases hfound : placeholders.find? (·.isPrefixOf (p ++ cs)) with _ | q
    · have hnot := List.find?_eq_none.1 hfound p hp
      exact absurd (List.isPrefixOf_iff_prefix.2 (List.prefix_append p cs)) hnot
    · have hq : q.isPrefixOf (p ++ cs) = true := by simpa using List.find?_some hfound
      have heq : q = p := h.eq_of_prefix_of_prefix (List.mem_of_find?_eq_some hfound) hp
        (List.isPrefixOf_iff_prefix.1 hq) (List.prefix_append p cs)
      rw [hfound, heq]
  obtain ⟨c, p', rfl⟩ := List.exists_cons_of_ne_nil (h.ne_nil p hp)
  rw [List.cons_append] at hfind ⊢
  rw [segments, hfind]
  simp

theorem segments_cons {c : Char} {cs : List Char} (h : ∀ p ∈ placeholders, ¬p <+: c :: cs) :
    segments placeholders (c :: cs) = .plain c :: segments placeholders cs := by
  have hfind : placeholders.find? (·.isPrefixOf (c :: cs)) = none :=
    List.find?_eq_none.2 fun p hp hbegin => h p hp (List.isPrefixOf_iff_prefix.1 hbegin)
  rw [segments, hfind]

theorem mem_of_slot_mem_segments (h : IsCode placeholders) {p cs : List Char} :
    .slot p ∈ segments placeholders cs → p ∈ placeholders := by
  induction cs using template_induction h with
  | nil => simp [segments_nil]
  | slot q hq cs ih =>
    rw [segments_append h hq, List.mem_cons]
    rintro (heq | hmem)
    · exact Segment.slot.inj heq ▸ hq
    · exact ih hmem
  | plain c cs hnot ih =>
    rw [segments_cons hnot, List.mem_cons]
    rintro (heq | hmem)
    · exact Segment.noConfusion heq
    · exact ih hmem

/-- What stands in the place of other placeholders makes no difference. -/
theorem render_segments_congr (h : IsCode placeholders) {texts texts' : List Char → List Char}
    (htexts : ∀ p ∈ placeholders, texts p = texts' p) (cs : List Char) :
    render texts (segments placeholders cs) = render texts' (segments placeholders cs) := by
  unfold render
  refine List.flatMap_congr fun seg hseg => ?_
  rcases seg with c | p
  · rfl
  · exact htexts p (mem_of_slot_mem_segments h hseg)

/-- A template is what it comes to if each placeholder is left in its place. -/
theorem render_id_segments (h : IsCode placeholders) (cs : List Char) :
    render id (segments placeholders cs) = cs := by
  induction cs using template_induction h with
  | nil => rw [segments_nil, render_nil]
  | slot p hp cs ih => rw [segments_append h hp, render_cons, ih, Segment.fill, id]
  | plain c cs hnot ih => rw [segments_cons hnot, render_cons, ih, Segment.fill, List.singleton_append]

/-- A single pattern is replaced all at once. -/
theorem substituteChars_eq_render {pattern : List Char} (hpattern : pattern ≠ [])
    (text cs : List Char) :
    substituteChars pattern text cs = render (fun _ => text) (segments [pattern] cs) := by
  induction cs using occurrence_induction hpattern with
  | nil => rw [substituteChars_nil, segments_nil, render_nil]
  | occurrence cs ih =>
    rw [substituteChars_append_self hpattern,
      segments_append (isCode_singleton hpattern) List.mem_cons_self, render_cons, ih, Segment.fill]
  | other c cs h ih =>
    rw [substituteChars_cons h, segments_cons (by simpa using h), render_cons, ih, Segment.fill,
      List.singleton_append]

/-! ## Replacing one placeholder among others -/

/-- The pattern begins nowhere in the text that some segments come to but at its own slots. -/
def OnlyAtSlots (pattern : List Char) (texts : List Char → List Char) : List Segment → Prop
  | [] => True
  | seg :: segs =>
    (seg = .slot pattern
        ∨ ∀ t, t <:+ seg.fill texts → t ≠ [] → ¬pattern <+: t ++ render texts segs)
      ∧ OnlyAtSlots pattern texts segs

instance decidableOnlyAtSlots (pattern : List Char) (texts : List Char → List Char) :
    ∀ segs : List Segment, Decidable (OnlyAtSlots pattern texts segs)
  | [] => isTrue trivial
  | seg :: segs =>
    have := decidableOnlyAtSlots pattern texts segs
    have : Decidable (∀ t, t <:+ seg.fill texts → t ≠ [] → ¬pattern <+: t ++ render texts segs) :=
      decidable_of_iff
        (∀ t ∈ (seg.fill texts).tails, t ≠ [] → ¬pattern <+: t ++ render texts segs)
        (by simp only [List.mem_tails])
    inferInstanceAs (Decidable (_ ∧ _))

theorem Segment.fill_update {texts : List Char → List Char} {pattern : List Char} {seg : Segment}
    (h : seg ≠ .slot pattern) (text : List Char) :
    seg.fill (Function.update texts pattern text) = seg.fill texts := by
  rcases seg with c | p
  · rfl
  · exact Function.update_of_ne (fun hp => h (congrArg Segment.slot hp)) _ _

/-- A pattern that begins only at its own slots is replaced there and nowhere else. -/
theorem substituteChars_render {pattern : List Char} {texts : List Char → List Char}
    (hpattern : pattern ≠ []) (hown : texts pattern = pattern) (text : List Char) :
    ∀ {segs : List Segment}, OnlyAtSlots pattern texts segs →
      substituteChars pattern text (render texts segs) =
        render (Function.update texts pattern text) segs
  | [], _ => substituteChars_nil
  | seg :: segs, h => by
    have ih := substituteChars_render hpattern hown text h.2
    rw [render_cons, render_cons]
    by_cases hslot : seg = .slot pattern
    · subst hslot
      rw [Segment.fill, Segment.fill, hown, Function.update_self,
        substituteChars_append_self hpattern, ih]
    · rw [substituteChars_append (h.1.resolve_left hslot), Segment.fill_update hslot, ih]

/-- No two occurrences of placeholders in a template overlap. -/
def Separate (placeholders : List (List Char)) (template : List Char) : Prop :=
  ∀ p ∈ placeholders, ∀ q ∈ placeholders, ∀ i j,
    p <+: template.drop i → q <+: template.drop j → i < j → i + p.length ≤ j

instance (placeholders : List (List Char)) (template : List Char) :
    Decidable (Separate placeholders template) :=
  decidable_of_iff
    (∀ p ∈ placeholders, ∀ i < template.length, p <+: template.drop i →
      ∀ q ∈ placeholders, ∀ j < template.length,
        ¬(i < j ∧ j < i + p.length ∧ q <+: template.drop j))
    ⟨fun h p hp q hq i j hi hj hij => by
      have hlength := hi.length_le
      rw [List.length_drop] at hlength
      by_cases hlt : j < template.length
      · exact Nat.le_of_not_lt fun hover => h p hp i (by omega) hi q hq j hlt ⟨hij, hover, hj⟩
      · omega,
    fun h p hp i _ hi q hq j _ ⟨hij, hover, hj⟩ =>
      absurd hover (Nat.not_lt.2 (h p hp q hq i j hi hj hij))⟩

example : ¬Separate ["__operator__".toList, "__value__".toList] "__operator__value__".toList := by
  decide +kernel

theorem Separate.drop {template : List Char} (h : Separate placeholders template) (n : Nat) :
    Separate placeholders (template.drop n) := by
  intro p hp q hq i j hi hj hij
  rw [List.drop_drop] at hi hj
  have := h p hp q hq (n + i) (n + j) hi hj (by omega)
  omega

/-- In a template whose placeholders do not overlap each is found at its own slots only. -/
theorem onlyAtSlots_segments (h : IsCode placeholders) {pattern : List Char}
    (hpattern : pattern ∈ placeholders) {cs : List Char} (hcs : Separate placeholders cs) :
    OnlyAtSlots pattern id (segments placeholders cs) := by
  induction cs using template_induction h with
  | nil =>
    rw [segments_nil]
    trivial
  | slot p hp cs ih =>
    rw [segments_append h hp]
    refine ⟨?_, ih (by simpa using hcs.drop p.length)⟩
    by_cases heq : p = pattern
    · exact .inl (congrArg Segment.slot heq)
    · refine .inr fun t ht htne hbegin => heq ?_
      rw [render_id_segments h] at hbegin
      obtain ⟨s, hs⟩ : t <:+ p := ht
      have hdrop : (p ++ cs).drop s.length = t ++ cs := by
        rw [← hs, List.append_assoc, List.drop_left]
      rcases s with _ | ⟨d, s⟩
      · rw [List.nil_append] at hs
        exact h.eq_of_prefix_of_prefix hp hpattern (List.prefix_append p cs) (hs ▸ hbegin)
      · -- an occurrence that begins further on overlaps with that of `p`
        have hle := hcs p hp pattern hpattern 0 (d :: s).length (List.prefix_append p cs)
          (hdrop ▸ hbegin) (Nat.succ_pos _)
        have := List.length_pos_iff.2 htne
        rw [← hs, List.length_append] at hle
        omega
  | plain c cs hnot ih =>
    rw [segments_cons hnot]
    refine ⟨.inr fun t ht htne hbegin => ?_, ih (hcs.drop 1)⟩
    rw [render_id_segments h] at hbegin
    rcases List.suffix_cons_iff.1 ht with rfl | hnil
    · exact hnot pattern hpattern hbegin
    · exact htne (List.suffix_nil.1 hnil)

end Segments

end Text

/-! ## Filling a message -/

open Text

namespace Offence

/-- The placeholders of messages about a clause. -/
def clausePlaceholders : List (List Char) :=
  ["__operator__".toList, "__value__".toList, "%s".toList]

/-- The placeholders that an offence fills. -/
def placeholders : Offence → List (List Char)
  | .text _ => ["%s".toList]
  | .clause _ _ => clausePlaceholders

/-- What an offence puts in the place of a placeholder. -/
def textFor : Offence → List Char → List Char
  | .text typed, _ => typed.toList
  | .clause keyword value, p =>
    if p = "__operator__".toList then keyword.toList else value.toList

/-- A template with all the placeholders of an offence replaced at once, from the left. -/
def fillAtOnce (template : String) (offence : Offence) : String :=
  .ofList (render offence.textFor (segments offence.placeholders template.toList))

theorem toList_fillAtOnce (template : String) (offence : Offence) :
    (offence.fillAtOnce template).toList =
      render offence.textFor (segments offence.placeholders template.toList) :=
  String.toList_ofList

theorem isCode_clausePlaceholders : IsCode clausePlaceholders where
  ne_nil := by decide
  eq_of_prefix := by decide

/-- Once the keyword is put in `__value__` stands at its own places only, and once the value is put
in as well `%s` does. -/
structure Settled (template keyword value : String) : Prop where
  onlyAtSlots_value : OnlyAtSlots "__value__".toList
    (Function.update id "__operator__".toList keyword.toList)
    (segments clausePlaceholders template.toList)
  onlyAtSlots_typed : OnlyAtSlots "%s".toList
    (Function.update (Function.update id "__operator__".toList keyword.toList)
      "__value__".toList value.toList)
    (segments clausePlaceholders template.toList)

instance (template keyword value : String) : Decidable (Settled template keyword value) :=
  decidable_of_iff
    (OnlyAtSlots "__value__".toList
        (Function.update id "__operator__".toList keyword.toList)
        (segments clausePlaceholders template.toList)
      ∧ OnlyAtSlots "%s".toList
        (Function.update (Function.update id "__operator__".toList keyword.toList)
          "__value__".toList value.toList)
        (segments clausePlaceholders template.toList))
    ⟨fun h => ⟨h.1, h.2⟩, fun h => ⟨h.1, h.2⟩⟩

theorem fill_text (template typed : String) :
    (Offence.text typed).fill template = (Offence.text typed).fillAtOnce template :=
  congrArg String.ofList (substituteChars_eq_render (by decide) typed.toList template.toList)

theorem toList_fill_clause (template keyword value : String) :
    ((Offence.clause keyword value).fill template).toList =
      substituteChars "%s".toList value.toList
        (substituteChars "__value__".toList value.toList
          (substituteChars "__operator__".toList keyword.toList template.toList)) := by
  rw [fill, toList_substitute, toList_substitute, toList_substitute]

theorem fill_clause {template keyword value : String}
    (hseparate : Separate clausePlaceholders template.toList)
    (hsettled : Settled template keyword value) :
    (Offence.clause keyword value).fill template =
      (Offence.clause keyword value).fillAtOnce template := by
  have hcode := isCode_clausePlaceholders
  have hoperator : "__operator__".toList ∈ clausePlaceholders := by decide
  have hfirst := substituteChars_render (by decide) rfl keyword.toList
    (onlyAtSlots_segments hcode hoperator hseparate)
  have hsecond := substituteChars_render (by decide) rfl value.toList hsettled.onlyAtSlots_value
  have hthird := substituteChars_render (by decide) rfl value.toList hsettled.onlyAtSlots_typed
  rw [render_id_segments hcode] at hfirst
  rw [← String.toList_inj, toList_fill_clause, hfirst, hsecond, hthird, toList_fillAtOnce]
  refine render_segments_congr hcode (fun p hp => ?_) _
  simp only [clausePlaceholders, List.mem_cons, List.not_mem_nil, or_false] at hp
  rcases hp with rfl | rfl | rfl <;> rfl

end Offence

end BoardQuery

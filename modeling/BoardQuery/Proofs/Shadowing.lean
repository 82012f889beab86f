import BoardQuery.Journal
import BoardQuery.Proofs.Keywords
import Mathlib.Data.List.Pairwise

/-!
# Keywords that hide others

A table is made without a warning exactly when all of its tags have words, and tags that share a
word share its meaning (`quiet_tableRemarks_iff`). In a search box that is made without a warning
every keyword then has the meaning of its own tag, but for one (`facet?_of_quiet`): the sigils are
put over the table without a remark, so a keyword that is worded as a sigil of another facet is
taken over in silence (`quiet_sigil_hides_keyword`).
-/

namespace BoardQuery

open Text

/-- None of some remarks is a warning. -/
def Quiet (remarks : List Remark) : Prop :=
  ∀ remark ∈ remarks, remark.level ≠ .warn

theorem quiet_append {remarks remarks' : List Remark} :
    Quiet (remarks ++ remarks') ↔ Quiet remarks ∧ Quiet remarks' :=
  List.forall_mem_append

theorem Phrasebook.quiet_remarks (p : Phrasebook) (tag : String) : Quiet (p.remarks tag) := by
  unfold Phrasebook.remarks
  split
  · simp [Quiet]
  · simp [Quiet, Remark.level]

namespace Lexicon

variable {α : Type}

/-- All of some tags have words, and the ones that share a word share its meaning. -/
def Clear (wording : String → String) (tags : List (String × α)) : Prop :=
  (∀ tag ∈ tags, word (wording tag.1) ≠ "")
    ∧ tags.Pairwise fun tag tag' => word (wording tag.1) = word (wording tag'.1) → tag.2 = tag'.2

instance [DecidableEq α] (wording : String → String) (tags : List (String × α)) :
    Decidable (Clear wording tags) :=
  inferInstanceAs (Decidable (_ ∧ _))

theorem Clear.eq_of_word_eq {wording : String → String} {tags : List (String × α)}
    (h : Clear wording tags) {tag tag' : String × α} (htag : tag ∈ tags) (htag' : tag' ∈ tags)
    (hword : word (wording tag.1) = word (wording tag'.1)) : tag.2 = tag'.2 :=
  have : Std.Symm fun tag tag' : String × α =>
      word (wording tag.1) = word (wording tag'.1) → tag.2 = tag'.2 :=
    ⟨fun _ _ hr hword => (hr hword.symm).symm⟩
  List.Pairwise.forall_of_forall (fun _ _ _ => rfl) h.2 htag htag' hword

variable [DecidableEq α] (p : Phrasebook)

/-- A tag is added to a table without a warning when its word is new there, or means the same. -/
theorem quiet_entryRemarks_iff (table : SortedMap α) (entry : String × α) :
    Quiet (entryRemarks p table entry) ↔
      word (p.wording entry.1) ≠ ""
        ∧ ∀ before, table.get? (word (p.wording entry.1)) = some before → before = entry.2 := by
  unfold entryRemarks
  simp only [quiet_append, p.quiet_remarks, true_and]
  split
  · rename_i hblank
    simp [Quiet, Remark.level, String.isEmpty_iff.1 hblank]
  · rename_i hword
    rcases hget : table.get? (word (p.wording entry.1)) with _ | before
    · simpa [Quiet] using hword
    · by_cases hsame : before = entry.2
      · simpa [Quiet, hsame] using hword
      · simp [Quiet, Remark.level, hsame]

theorem quiet_remarksFrom_iff (table : SortedMap α) (entries : List (String × α)) :
    Quiet (remarksFrom p table entries) ↔
      (∀ entry ∈ entries, ∀ before,
          table.get? (word (p.wording entry.1)) = some before → before = entry.2)
        ∧ Clear p.wording entries := by
  induction entries generalizing table with
  | nil => simp [remarksFrom, Quiet, Clear]
  | cons entry entries ih =>
    unfold remarksFrom Clear
    rw [quiet_append, quiet_entryRemarks_iff, ih, List.forall_mem_cons, List.forall_mem_cons,
      List.pairwise_cons]
    unfold Clear
    simp only [get?_enter]
    constructor
    · rintro ⟨⟨hword, hbefore⟩, hlater, hwords, hpairs⟩
      -- a later tag of the same word finds in the table what this one has entered
      have hfirst : ∀ entry' ∈ entries,
          word (p.wording entry.1) = word (p.wording entry'.1) → entry.2 = entry'.2 := by
        intro entry' hentry' heq
        exact hlater entry' hentry' entry.2 (by rw [if_pos ⟨hwords entry' hentry', heq⟩])
      refine ⟨⟨hbefore, fun entry' hentry' before hget => ?_⟩, ⟨hword, hwords⟩, hfirst, hpairs⟩
      by_cases heq : word (p.wording entry.1) = word (p.wording entry'.1)
      · rw [← hfirst entry' hentry' heq]
        exact hbefore before (by rw [heq, hget])
      · exact hlater entry' hentry' before (by rw [if_neg fun h => heq h.2, hget])
    · rintro ⟨⟨hbefore, hlater⟩, ⟨hword, hwords⟩, hfirst, hpairs⟩
      refine ⟨⟨hword, hbefore⟩, fun entry' hentry' before hget => ?_, hwords, hpairs⟩
      split at hget
      · rename_i h
        rw [← Option.some.inj hget]
        exact hfirst entry' hentry' h.2
      · exact hlater entry' hentry' before hget

theorem quiet_tableRemarks_iff (tags : List (String × α)) :
    Quiet (tableRemarks p tags) ↔ Clear p.wording tags := by
  unfold tableRemarks
  rw [quiet_remarksFrom_iff]
  simp

theorem quiet_remarks_iff :
    Quiet (remarks p) ↔
      Clear p.wording facetTags ∧ Clear p.wording dueWordTags ∧ Clear p.wording periodTags
        ∧ Clear p.wording statusTags ∧ Clear p.wording sortFieldTags
        ∧ Clear p.wording partTags := by
  unfold remarks
  simp only [quiet_append, quiet_tableRemarks_iff, and_assoc]

omit [DecidableEq α] in
/-- In a clear table the last tag of a word means what all tags of the word mean. -/
theorem lastTag?_of_clear {wording : String → String} {tags : List (String × α)}
    (h : Clear wording tags) {tag : String × α} (htag : tag ∈ tags) :
    (lastTag? wording tags (word (wording tag.1))).map (·.2) = some tag.2 := by
  obtain ⟨last, hlast⟩ := exists_lastTag? wording htag (h.1 tag htag)
  obtain ⟨⟨-, hword⟩, -⟩ := (lastTag?_eq_some_iff wording).1 hlast
  rw [hlast, Option.map_some, h.eq_of_word_eq (mem_of_lastTag? wording hlast) htag hword]

end Lexicon

namespace SearchBox

theorem quiet_remarks_iff (box : SearchBox) :
    Quiet box.remarks ↔ Quiet (Lexicon.remarks box.phrasebook) := by
  unfold remarks
  rw [quiet_append, and_iff_right]
  intro remark hremark
  obtain ⟨token, -, hremark⟩ := List.mem_flatMap.1 hremark
  exact box.phrasebook.quiet_remarks _ remark hremark

theorem quiet_ofSettings_iff (settings : Settings) :
    Quiet (ofSettings settings).remarks ↔
      Lexicon.Clear settings.phrasebook.wording Lexicon.facetTags
        ∧ Lexicon.Clear settings.phrasebook.wording Lexicon.dueWordTags
        ∧ Lexicon.Clear settings.phrasebook.wording Lexicon.periodTags
        ∧ Lexicon.Clear settings.phrasebook.wording Lexicon.statusTags
        ∧ Lexicon.Clear settings.phrasebook.wording Lexicon.sortFieldTags
        ∧ Lexicon.Clear settings.phrasebook.wording Lexicon.partTags :=
  (quiet_remarks_iff _).trans (Lexicon.quiet_remarks_iff _)

/-- In a search box that is made without a warning, a keyword has the facet of its tag, unless it
is worded as a sigil. -/
theorem facet?_of_quiet {settings : Settings} {box : SearchBox}
    (hbox : ofSettings? settings = .ok box) (hquiet : Quiet box.remarks) :
    ∀ tag ∈ Lexicon.facetTags,
      box.lexicon.facet? (lower (box.phrasebook.wording tag.1)) =
        some (if box.phrasebook.wording tag.1 = "#" then .label
          else if box.phrasebook.wording tag.1 = "@" then .user
          else tag.2) := by
  intro tag htag
  obtain ⟨hvalid, rfl⟩ := ofSettings?_eq_ok_iff.1 hbox
  have hclear : Lexicon.Clear settings.phrasebook.wording Lexicon.facetTags :=
    ((quiet_ofSettings_iff _).1 hquiet).1
  have hlast := Lexicon.lastTag?_of_clear hclear htag
  rw [Settings.word_wording hvalid htag] at hlast
  have hfacet := facet?_lower settings (settings.phrasebook.wording tag.1)
  rw [hlast] at hfacet
  refine hfacet.trans ?_
  rw [show (ofSettings settings).phrasebook = settings.phrasebook from rfl]
  split_ifs <;> rfl

/-- A short form of the board's keyword that is worded as the sigil of labels. -/
def sigilBoard : Settings where
  language := "en"
  wordings := .ofList [("operator-board-abbrev", "#"), ("operator-label-abbrev", "x")]
  labelColors := Palette.boardColors

theorem ofSettings?_sigilBoard : ofSettings? sigilBoard = .ok (ofSettings sigilBoard) := by
  have hvalid : sigilBoard.validated = .ok sigilBoard := by decide
  exact ofSettings?_eq_ok_iff.2 ⟨hvalid, rfl⟩

theorem quiet_sigilBoard : Quiet (ofSettings sigilBoard).remarks := by
  rw [quiet_ofSettings_iff, funext sigilBoard.wording_phrasebook]
  simp only [Phrasebook.english, Phrasebook.wording_ofList]
  decide

theorem facet?_of_quiet_short_label :
    ofSettings? sigilBoard = .ok (ofSettings sigilBoard)
      ∧ Quiet (ofSettings sigilBoard).remarks
      ∧ (ofSettings sigilBoard).lexicon.facet? (lower "x") = some .label := by
  have hword : (ofSettings sigilBoard).phrasebook.wording "operator-label-abbrev" = "x" :=
    sigilBoard.wording_of_get? (by decide +kernel)
  have hfacet := facet?_of_quiet ofSettings?_sigilBoard quiet_sigilBoard
    ("operator-label-abbrev", .label) (by decide)
  rw [hword] at hfacet
  exact ⟨ofSettings?_sigilBoard, quiet_sigilBoard, hfacet⟩

/-- A sigil takes over a keyword of another facet without a warning. -/
theorem quiet_sigil_hides_keyword :
    ¬∀ (settings : Settings) (box : SearchBox), ofSettings? settings = .ok box →
      Quiet box.remarks → ∀ tag ∈ Lexicon.facetTags,
        box.lexicon.facet? (lower (box.phrasebook.wording tag.1)) = some tag.2 := by
  intro h
  have hword : (ofSettings sigilBoard).phrasebook.wording "operator-board-abbrev" = "#" :=
    sigilBoard.wording_of_get? (by decide +kernel)
  have hboard := h sigilBoard _ ofSettings?_sigilBoard quiet_sigilBoard
    ("operator-board-abbrev", .board) (by decide)
  rw [hword, facet?_lower, if_pos rfl] at hboard
  simp at hboard

end SearchBox

end BoardQuery

import BoardQuery.Text.Lowercase
import Mathlib.Tactic.SplitIfs

/-!
# Runs of capitals

A code point that changes in lower-casing lies in one of the runs of capitals, which tells its small
letter (`lowerPoint_cases`). The small letters of a run are no capitals of any run, so they stay as
they are (`lowerPoint_lowerPoint`).
-/

namespace BoardQuery

namespace Text

namespace CaseRun

/-- A run holds every `step`-th code point from its first to its last. -/
def Holds (run : CaseRun) (n : Nat) : Prop :=
  run.first ≤ n ∧ n ≤ run.last ∧ (n - run.first) % run.step = 0

/-- The small letters of a run of capitals, as a run of their own. -/
def smalls (run : CaseRun) : CaseRun :=
  ⟨(run.first + run.shift).toNat, (run.last + run.shift).toNat, run.step, 0⟩

theorem holds_smalls {run : CaseRun} {n : Nat} (hfirst : 0 ≤ run.first + run.shift)
    (h : run.Holds n) : run.smalls.Holds (n + run.shift).toNat := by
  obtain ⟨hle, hlast, hstep⟩ := h
  have hoffset : (n + run.shift).toNat - (run.first + run.shift).toNat = n - run.first := by omega
  refine ⟨?_, ?_, hoffset ▸ hstep⟩
  · show (run.first + run.shift).toNat ≤ _
    omega
  · show _ ≤ (run.last + run.shift).toNat
    omega

/-- Whether two runs hold no code point in common: one ends before the other begins, or they take
turns. The tests are those on numbers that are evaluated at once. -/
def isApart (run other : CaseRun) : Bool :=
  Nat.blt run.last other.first || (Nat.blt other.last run.first
    || (Nat.beq other.step 2 && ((Nat.beq run.step 2 || Nat.beq run.first run.last)
      && Nat.beq ((run.first + other.first) % 2) 1)))

theorem not_holds_of_isApart {run other : CaseRun} (h : run.isApart other = true) {n : Nat}
    (hn : run.Holds n) : ¬other.Holds n := by
  rintro ⟨hfirst', hlast', hstep'⟩
  obtain ⟨hfirst, hlast, hstep⟩ := hn
  simp only [isApart, Bool.or_eq_true, Bool.and_eq_true, Nat.blt_eq, Nat.beq_eq] at h
  rcases h with h | h | ⟨hother, hrun | hrun, hparity⟩
  · omega
  · omega
  · rw [hother] at hstep'
    rw [hrun] at hstep
    omega
  · rw [hother] at hstep'
    omega

/-- Whether a run has no code point in common with those of some ascending runs that are looked
through for it. -/
def isClearOf (run : CaseRun) : List CaseRun → Bool
  | [] => true
  | other :: runs =>
    Nat.blt run.last other.first || (run.isApart other && run.isClearOf runs)

end CaseRun

/-- A code point is its own small letter, or lies in the run of capitals that tells its small
letter. -/
theorem lowerPoint_cases : ∀ (runs : List CaseRun) (n : Nat),
    lowerPoint runs n = n
      ∨ ∃ run ∈ runs, run.Holds n ∧ lowerPoint runs n = (n + run.shift).toNat
  | [], n => .inl rfl
  | run :: runs, n => by
    unfold lowerPoint
    split_ifs with hfirst hrun
    · exact .inl rfl
    · simp only [Bool.and_eq_true, decide_eq_true_eq, beq_iff_eq] at hrun
      exact .inr ⟨run, List.mem_cons_self .., ⟨by omega, hrun⟩, rfl⟩
    · rcases lowerPoint_cases runs n with h | ⟨run', hmem, h⟩
      · exact .inl h
      · exact .inr ⟨run', List.mem_cons_of_mem _ hmem, h⟩

/-- A code point of a run that is clear of all capitals is its own small letter. -/
theorem lowerPoint_of_isClearOf {small : CaseRun} {n : Nat} (hn : small.Holds n) :
    ∀ runs : List CaseRun, small.isClearOf runs = true → lowerPoint runs n = n
  | [], _ => rfl
  | run :: runs, h => by
    unfold lowerPoint
    split_ifs with hfirst hrun
    · rfl
    · simp only [Bool.and_eq_true, decide_eq_true_eq, beq_iff_eq] at hrun
      exfalso
      rw [CaseRun.isClearOf, Bool.or_eq_true, Bool.and_eq_true, Nat.blt_eq] at h
      rcases h with h | ⟨h, -⟩
      · have := hn.2.1
        omega
      · exact CaseRun.not_holds_of_isApart h hn ⟨by omega, hrun⟩
    · rw [CaseRun.isClearOf, Bool.or_eq_true, Bool.and_eq_true, Nat.blt_eq] at h
      rcases h with h | ⟨-, h⟩
      · have := hn.2.1
        omega
      · exact lowerPoint_of_isClearOf hn runs h

private theorem caseRuns_above : ∀ run ∈ caseRuns, 64 < run.first + run.shift := by
  decide +kernel

private theorem caseRuns_clear :
    (caseRuns.all fun run => run.smalls.isClearOf caseRuns) = true := by
  decide +kernel

/-- The dotted capital I, which is in no run, is no small letter of a run either. -/
private theorem caseRuns_apart_from_dotted :
    ∀ run ∈ caseRuns, run.smalls.isApart ⟨0x130, 0x130, 1, 0⟩ = true := by
  decide +kernel

theorem eq_of_lowerPoint_le {n : Nat} (h : lowerPoint caseRuns n ≤ 64) :
    lowerPoint caseRuns n = n := by
  rcases lowerPoint_cases caseRuns n with heq | ⟨run, hrun, hholds, heq⟩
  · exact heq
  · have habove := caseRuns_above run hrun
    have hfirst := hholds.1
    omega

theorem holds_smalls_of_mem {run : CaseRun} (hrun : run ∈ caseRuns) {n : Nat} (h : run.Holds n) :
    run.smalls.Holds (n + run.shift).toNat := by
  have habove := caseRuns_above run hrun
  exact CaseRun.holds_smalls (by omega) h

/-- Small letters stay as they are. -/
theorem lowerPoint_lowerPoint (n : Nat) :
    lowerPoint caseRuns (lowerPoint caseRuns n) = lowerPoint caseRuns n := by
  rcases lowerPoint_cases caseRuns n with heq | ⟨run, hrun, hholds, heq⟩
  · rw [heq, heq]
  · rw [heq]
    exact lowerPoint_of_isClearOf (holds_smalls_of_mem hrun hholds) caseRuns
      (List.all_eq_true.1 caseRuns_clear run hrun)

theorem lowerPoint_ne_dotted {n : Nat} (h : n ≠ 0x130) : lowerPoint caseRuns n ≠ 0x130 := by
  rcases lowerPoint_cases caseRuns n with heq | ⟨run, hrun, hholds, heq⟩
  · rw [heq]
    exact h
  · rw [heq]
    intro hdotted
    have hsmall := holds_smalls_of_mem hrun hholds
    rw [hdotted] at hsmall
    exact CaseRun.not_holds_of_isApart (caseRuns_apart_from_dotted run hrun) hsmall
      ⟨Nat.le_refl _, Nat.le_refl _, rfl⟩

end Text

end BoardQuery

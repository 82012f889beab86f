/-!
# Why a text is not the JSON that is expected

A reader goes through the text once and reports the first thing that is wrong with it.
-/

namespace BoardQuery

namespace Json

/-- What is wrong with a text: it is no JSON, or it ends too early, or it holds a value of another
kind than the one expected or a member twice. -/
inductive Fault where
  | malformed | cutShort | mismatched
deriving DecidableEq, Repr

def Fault.message : Fault → String
  | malformed => "the text is not JSON"
  | cutShort => "the text ends too early"
  | mismatched => "a value is not of the expected kind"

/-- What a reader finds at the start of a text: a value and the characters after it. -/
abbrev Reads (α : Type) := Except Fault (α × List Char)

namespace Reads

variable {α β : Type}

def andThen (reads : Reads α) (next : α → List Char → Reads β) : Reads β :=
  match reads with
  | .ok (a, rest) => next a rest
  | .error fault => .error fault

def mapValue (f : α → β) (reads : Reads α) : Reads β :=
  reads.andThen fun a rest => .ok (f a, rest)

theorem andThen_eq_ok {reads : Reads α} {next : α → List Char → Reads β} {b : β}
    {rest : List Char} :
    reads.andThen next = .ok (b, rest) ↔
      ∃ a after, reads = .ok (a, after) ∧ next a after = .ok (b, rest) := by
  rcases reads with fault | ⟨a, after⟩
  · simp [andThen]
  · simp only [andThen, Except.ok.injEq, Prod.mk.injEq]
    constructor
    · intro h
      exact ⟨a, after, ⟨rfl, rfl⟩, h⟩
    · rintro ⟨_, _, ⟨rfl, rfl⟩, h⟩
      exact h

theorem mapValue_eq_ok {f : α → β} {reads : Reads α} {b : β} {rest : List Char} :
    reads.mapValue f = .ok (b, rest) ↔ ∃ a, reads = .ok (a, rest) ∧ f a = b := by
  rcases reads with fault | ⟨a, after⟩
  · simp [mapValue, andThen]
  · simp only [mapValue, andThen, Except.ok.injEq, Prod.mk.injEq]
    constructor
    · rintro ⟨rfl, rfl⟩
      exact ⟨a, ⟨rfl, rfl⟩, rfl⟩
    · rintro ⟨_, ⟨rfl, rfl⟩, rfl⟩
      exact ⟨rfl, rfl⟩

end Reads

end Json

end BoardQuery

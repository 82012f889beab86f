import BoardQuery.Json.Reader
import BoardQuery.Settings

/-!
# Reading settings

Settings are read from JSON: from an object that may lack members and have others, which are passed
over, or from a list of the members' values that may stop early. What is missing is as in the
standard settings. The settings are checked once all of the text has been read.
-/

namespace BoardQuery

open Json

namespace Settings

/-- The members of settings that have been read so far. -/
structure Draft where
  language : Option String
  wordings : Option (SortedMap String)
  labelColors : Option (List String)

namespace Draft

def empty : Draft := ⟨none, none, none⟩

/-- The settings of a draft, with the standard ones for what is missing. -/
def settings (draft : Draft) : Settings where
  language := draft.language.getD standard.language
  wordings := draft.wordings.getD standard.wordings
  labelColors := draft.labelColors.getD standard.labelColors

end Draft

/-- Reads a member of settings after its name, unless it has been read before. -/
def readOnce {α : Type} (read : List Char → Reads α) (before : Option α) (cs : List Char) :
    Reads α :=
  if before.isSome then .error .mismatched else readMember read cs

theorem readOnce_rest_lt {α : Type} {read : List Char → Reads α}
    (hread : ∀ {cs a rest}, read cs = .ok (a, rest) → rest.length < cs.length)
    {before : Option α} {cs rest : List Char} {a : α}
    (h : readOnce read before cs = .ok (a, rest)) : rest.length < cs.length := by
  simp only [readOnce] at h
  split at h
  · simp at h
  · exact readMember_rest_lt hread h

def skipMember (cs : List Char) : Reads Unit :=
  readMember (fun cs => (skipValue cs).map fun rest => ((), rest)) cs

theorem skipMember_rest_lt {cs rest : List Char} {u : Unit}
    (h : skipMember cs = .ok (u, rest)) : rest.length < cs.length := by
  refine readMember_rest_lt (fun {cs a rest} h => ?_) h
  cases hskip : skipValue cs with
  | error fault => simp [hskip, Except.map] at h
  | ok after =>
    simp only [hskip, Except.map, Except.ok.injEq, Prod.mk.injEq, true_and] at h
    exact h ▸ skipValue_lt hskip

/-- Reads a member of settings after its name. -/
def readNamed (draft : Draft) (name : String) (cs : List Char) : Reads Draft :=
  if name = "language" then
    (readOnce readString draft.language cs).mapValue ({ draft with language := some · })
  else if name = "keywords" then
    (readOnce readDictionary draft.wordings cs).mapValue ({ draft with wordings := some · })
  else if name = "label_colors" then
    (readOnce readStrings draft.labelColors cs).mapValue ({ draft with labelColors := some · })
  else (skipMember cs).mapValue fun _ => draft

theorem readNamed_rest_lt {draft draft' : Draft} {name : String} {cs rest : List Char}
    (h : readNamed draft name cs = .ok (draft', rest)) : rest.length < cs.length := by
  unfold readNamed at h
  split at h
  · obtain ⟨_, hread, -⟩ := Reads.mapValue_eq_ok.1 h
    exact readOnce_rest_lt readString_rest_lt hread
  · split at h
    · obtain ⟨_, hread, -⟩ := Reads.mapValue_eq_ok.1 h
      exact readOnce_rest_lt readDictionary_rest_lt hread
    · split at h
      · obtain ⟨_, hread, -⟩ := Reads.mapValue_eq_ok.1 h
        exact readOnce_rest_lt readStrings_rest_lt hread
      · obtain ⟨_, hread, -⟩ := Reads.mapValue_eq_ok.1 h
        exact skipMember_rest_lt hread

def memberItems : ItemReader Draft where
  read draft cs :=
    (readName true cs).andThen fun name rest => readNamed draft (String.ofList name) rest
  rest_lt h := by
    obtain ⟨name, after, hname, h⟩ := Reads.andThen_eq_ok.1 h
    exact Nat.lt_trans (readNamed_rest_lt h) (readName_rest_lt hname)

/-! ## Settings as a list -/

/-- Reads the next value of a list, if the list goes on. -/
def readNext {α : Type} (read : List Char → Reads α) (first : Bool) (cs : List Char) :
    Reads (Option α) :=
  match turn .list first cs with
  | .error fault => .error fault
  | .ok (.finished rest) => .ok (none, rest)
  | .ok (.item rest) => (read rest).mapValue some

/-- Reads the end of a list whose values are all there. -/
def readEnd (draft : Draft) (cs : List Char) : Reads Draft :=
  match skipSpace cs with
  | [] => .error .cutShort
  | c :: rest => if c = ']' then .ok (draft, rest) else .error .malformed

/-- Reads settings from a list of values, from the character after its bracket. -/
def readPlaces (cs : List Char) : Reads Draft :=
  (readNext readString true cs).andThen fun
    | none, rest => .ok (.empty, rest)
    | some language, rest =>
      (readNext readDictionary false rest).andThen fun
        | none, rest => .ok (⟨some language, none, none⟩, rest)
        | some wordings, rest =>
          (readNext readStrings false rest).andThen fun
            | none, rest => .ok (⟨some language, some wordings, none⟩, rest)
            | some labelColors, rest =>
              readEnd ⟨some language, some wordings, some labelColors⟩ rest

/-! ## The whole text -/

/-- Reads the members of settings from an object or a list. -/
def readDraft (cs : List Char) : Reads Draft :=
  match skipSpace cs with
  | [] => .error .cutShort
  | c :: rest =>
    if c = '\x7b' then memberItems.readAll .object true .empty rest
    else if c = '[' then readPlaces rest
    else .error (wrongKind (c :: rest))

/-- The settings of a text, which holds nothing else. -/
def parse (text : String) : Except Fault Settings :=
  match readDraft text.toList with
  | .error fault => .error fault
  | .ok (draft, rest) =>
    if (skipSpace rest).isEmpty then .ok draft.settings else .error .malformed

/-- The settings of a text, provided that their keywords can be typed. -/
def ofJson (text : String) : Except Failure Settings :=
  match parse text with
  | .error fault => .error (.notSettings fault)
  | .ok settings => settings.validated

/-- The settings of a file, given its bytes if there is a file at the path. -/
def ofFile (path : String) (bytes : Option ByteArray) : Except Failure Settings :=
  match bytes with
  | none => .error (.unreadable path .absent)
  | some bytes =>
    match String.fromUTF8? bytes with
    | none => .error (.unreadable path .notUtf8)
    | some text => ofJson text

end Settings

end BoardQuery

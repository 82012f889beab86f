import BoardQuery.Proofs.Accepted
import BoardQuery.Proofs.Items
import BoardQuery.Proofs.Passing
import BoardQuery.Proofs.Printed
import BoardQuery.Settings.Reader
import BoardQuery.Wire

/-!
# However settings are laid out

Settings can be written as an object, with their fields in any order and other members between
them, or as a list of the first of the fields. Fields that are standard can be left out. The reader
gets the settings back from every such text (`ofJson_of_writtenAs`): after each member its draft
holds the fields read so far, and nothing else (`drafted`). One of these texts is the compact one,
which has all fields (`writtenAs_compact`).
-/

namespace BoardQuery

open Json

namespace Settings

/-! ## Settings in writing -/

/-- The fields of settings, in the order in which a list has them. -/
inductive Field where
  | language | wordings | labelColors
deriving DecidableEq, Repr

namespace Field

def all : List Field := [language, wordings, labelColors]

def name : Field → String
  | language => "language"
  | wordings => "keywords"
  | labelColors => "label_colors"

/-- The texts that a field is read from. The entries of a dictionary are in any order; of two with
one key the later counts. -/
def Written (settings : Settings) : Field → List Char → Prop
  | language, cs => quoted settings.language = cs
  | wordings, cs =>
    ∃ entries, SortedMap.ofList entries = settings.wordings ∧ WritesEntries entries cs
  | labelColors, cs => WritesStrings settings.labelColors cs

def IsStandard (settings : Settings) : Field → Prop
  | language => settings.language = standard.language
  | wordings => settings.wordings = standard.wordings
  | labelColors => settings.labelColors = standard.labelColors

end Field

/-- A member of an object that settings are written as: one of their fields, or any other. -/
inductive Entry where
  | known (field : Field)
  | other (name : String)
deriving DecidableEq, Repr

namespace Entry

def field? : Entry → Option Field
  | known field => some field
  | other _ => none

/-- The texts of a member. What a member other than the fields holds is left open. -/
def Written (settings : Settings) : Entry → List Char → Prop
  | known field, cs => Member (Eq (quoted field.name)) (field.Written settings) cs
  | other name, cs => (∀ field : Field, name ≠ field.name) ∧ Member (Eq (quoted name)) IsValue cs

end Entry

/-- The values that settings are written as. A field that is left out has to be standard. -/
inductive Layout (settings : Settings) : List Char → Prop
  | object {entries : List Entry} {cs : List Char} :
    Bracketed .object (Entry.Written settings) entries cs → (entries.filterMap Entry.field?).Nodup →
      (∀ field ∉ entries.filterMap Entry.field?, field.IsStandard settings) → Layout settings cs
  | list {fields : List Field} {cs : List Char} :
    Bracketed .list (Field.Written settings) fields cs → fields <+: Field.all →
      (∀ field ∉ fields, field.IsStandard settings) → Layout settings cs

/-- A text has settings written in it, and nothing else but white space. -/
def WrittenAs (settings : Settings) (text : String) : Prop :=
  ∃ before cs after, Gap before ∧ Layout settings cs ∧ Gap after ∧
    text.toList = before ++ (cs ++ after)

/-! ## Drafts -/

variable {settings : Settings} {fields : List Field} {gap gap' cs rest : List Char}

/-- The draft that has some of the fields of settings. -/
def drafted (settings : Settings) (fields : List Field) : Draft where
  language := if .language ∈ fields then some settings.language else none
  wordings := if .wordings ∈ fields then some settings.wordings else none
  labelColors := if .labelColors ∈ fields then some settings.labelColors else none

theorem settings_drafted (h : ∀ field ∉ fields, field.IsStandard settings) :
    (drafted settings fields).settings = settings := by
  have hget : ∀ {α : Type} (field : Field) (a b : α), (field.IsStandard settings → a = b) →
      (if field ∈ fields then some a else none).getD b = a := by
    intro α field a b hab
    by_cases hfield : field ∈ fields
    · rw [if_pos hfield, Option.getD_some]
    · rw [if_neg hfield, Option.getD_none, hab (h field hfield)]
  unfold Draft.settings drafted
  rw [hget .language _ _ id, hget .wordings _ _ id, hget .labelColors _ _ id]

theorem Field.Written.starts {field : Field} (h : field.Written settings cs) :
    startsItem cs = true := by
  cases field with
  | language =>
    obtain rfl : quoted settings.language = cs := h
    exact starts_quoted _
  | wordings =>
    obtain ⟨entries, -, hentries⟩ := h
    exact hentries.starts
  | labelColors =>
    have hstrings : WritesStrings settings.labelColors cs := h
    exact hstrings.starts

/-! ## Settings as an object -/

theorem readOnce_none {α : Type} {read : List Char → Reads α} (hgap : Gap gap) (cs : List Char) :
    readOnce read none (gap ++ ':' :: cs) = read cs := by
  rw [readOnce, if_neg (by simp), readMember_written read hgap]

theorem readNamed_field {field : Field} (hfield : field ∉ fields) (hgap : Gap gap)
    (hgap' : Gap gap') (h : field.Written settings cs) (rest : List Char) :
    readNamed (drafted settings fields) field.name (gap ++ ':' :: (gap' ++ (cs ++ rest))) =
      .ok (drafted settings (fields ++ [field]), rest) := by
  cases field with
  | language =>
    have hnone : (drafted settings fields).language = none := if_neg hfield
    obtain rfl : quoted settings.language = cs := h
    rw [Field.name, readNamed, if_pos rfl, hnone, readOnce_none hgap, readString_written hgap']
    simp [Reads.mapValue, Reads.andThen, drafted]
  | wordings =>
    have hnone : (drafted settings fields).wordings = none := if_neg hfield
    obtain ⟨entries, hentries, hcs⟩ := h
    rw [Field.name, readNamed, if_neg (by decide), if_pos rfl, hnone, readOnce_none hgap,
      readDictionary_written hgap' hcs, hentries]
    simp [Reads.mapValue, Reads.andThen, drafted]
  | labelColors =>
    have hnone : (drafted settings fields).labelColors = none := if_neg hfield
    have hcs : WritesStrings settings.labelColors cs := h
    rw [Field.name, readNamed, if_neg (by decide), if_neg (by decide), if_pos rfl, hnone,
      readOnce_none hgap, readStrings_written hgap' hcs]
    simp [Reads.mapValue, Reads.andThen, drafted]

theorem readNamed_other {name : String} (hname : ∀ field : Field, name ≠ field.name)
    (hgap : Gap gap) (hgap' : Gap gap') (h : IsValue cs) (hrest : followsItem rest = true)
    (draft : Draft) :
    readNamed draft name (gap ++ ':' :: (gap' ++ (cs ++ rest))) = .ok (draft, rest) := by
  have hlanguage : name ≠ "language" := hname .language
  have hwordings : name ≠ "keywords" := hname .wordings
  have hcolors : name ≠ "label_colors" := hname .labelColors
  rw [readNamed, if_neg hlanguage, if_neg hwordings, if_neg hcolors, skipMember,
    readMember_written _ hgap, skipValue_append hgap' h hrest]
  rfl

theorem memberItems_follows {entries : List Entry}
    (hnodup : (entries.filterMap Entry.field?).Nodup) :
    memberItems.Follows (Entry.Written settings)
      (fun before => drafted settings (before.filterMap Entry.field?)) entries where
  starts := by
    intro entry item h
    cases entry with
    | known field =>
      obtain ⟨rfl, -, -, -⟩ := h
      exact startsItem_append (starts_quoted _) _
    | other name =>
      obtain ⟨-, ⟨rfl, -, -, -⟩⟩ := h
      exact startsItem_append (starts_quoted _) _
  read := by
    rintro before entry later rfl item h rest hrest
    rw [List.filterMap_append, List.filterMap_cons] at hnodup
    rw [List.filterMap_append, List.filterMap_cons, List.filterMap_nil]
    cases entry with
    | known field =>
      obtain ⟨rfl, hgap, hgap', hfield⟩ := h
      have hnew : field ∉ before.filterMap Entry.field? := by
        intro hmem
        exact (List.nodup_append.1 hnodup).2.2 field hmem field (List.mem_cons_self ..) rfl
      rw [List.append_assoc, List.append_assoc, List.cons_append, List.append_assoc]
      simp only [memberItems, readName_quoted, Reads.andThen, String.ofList_toList]
      exact readNamed_field hnew hgap hgap' hfield rest
    | other name =>
      obtain ⟨hname, ⟨rfl, hgap, hgap', hvalue⟩⟩ := h
      rw [List.append_assoc, List.append_assoc, List.cons_append, List.append_assoc]
      simp only [memberItems, readName_quoted, Reads.andThen, String.ofList_toList]
      rw [readNamed_other hname hgap hgap' hvalue hrest]
      simp [Entry.field?]

/-! ## Settings as a list -/

section Places

variable {α ι : Type} {Item : ι → List Char → Prop} {x : ι} {xs : List ι} {tail : List Char}
  {read : List Char → Reads α} {a : α}

theorem readNext_of_finished {first : Bool} (h : turn .list first cs = .ok (.finished rest)) :
    readNext read first cs = .ok (none, rest) := by
  rw [readNext, h]

theorem readNext_of_item {first : Bool} {after : List Char}
    (h : turn .list first cs = .ok (.item after)) (hread : read after = .ok (a, rest)) :
    readNext read first cs = .ok (some a, rest) := by
  rw [readNext, h]
  simp only [hread]
  rfl

theorem readNext_nil (h : Remaining .list Item [] tail) (rest : List Char) :
    readNext read false (tail ++ rest) = .ok (none, rest) := by
  rcases h with ⟨hgap⟩
  rw [List.append_assoc]
  exact readNext_of_finished (turn_close hgap rest)

theorem exists_readNext_none (h : Bracketed .list Item [] cs) :
    ∃ inner, cs = '[' :: inner ∧ ∀ rest, readNext read true (inner ++ rest) = .ok (none, rest) := by
  rcases h with ⟨hgap⟩
  refine ⟨_, rfl, fun rest => ?_⟩
  rw [List.append_assoc]
  exact readNext_of_finished (turn_close hgap rest)

theorem readEnd_nil (h : Remaining .list Item [] tail) (draft : Draft) (rest : List Char) :
    readEnd draft (tail ++ rest) = .ok (draft, rest) := by
  rcases h with ⟨hgap⟩
  have hspace := @skipSpace_gap _ hgap ']' rfl rest
  rw [List.append_assoc]
  simp only [readEnd, Bracket.close, List.cons_append, List.nil_append, hspace, if_true]

theorem exists_readNext_cons (h : Remaining .list Item (x :: xs) tail)
    (hstart : ∀ item, Item x item → startsItem item = true)
    (hread : ∀ item, Item x item → ∀ rest, read (item ++ rest) = .ok (a, rest)) :
    ∃ tail', Remaining .list Item xs tail' ∧
      ∀ rest, readNext read false (tail ++ rest) = .ok (some a, tail' ++ rest) := by
  rcases h with _ | @⟨gap, gap', item, tail, _, _, hgap, hgap', hitem, htail⟩
  refine ⟨tail, htail, fun rest => ?_⟩
  rw [List.append_assoc, List.cons_append, List.append_assoc, List.append_assoc]
  exact readNext_of_item (turn_comma hgap hgap' (startsItem_append (hstart item hitem) _))
    (hread item hitem _)

theorem exists_readNext_first (h : Bracketed .list Item (x :: xs) cs)
    (hstart : ∀ item, Item x item → startsItem item = true)
    (hread : ∀ item, Item x item → ∀ rest, read (item ++ rest) = .ok (a, rest)) :
    ∃ inner tail, cs = '[' :: inner ∧ Remaining .list Item xs tail ∧
      ∀ rest, readNext read true (inner ++ rest) = .ok (some a, tail ++ rest) := by
  rcases h with _ | @⟨gap, item, tail, _, _, hgap, hitem, htail⟩
  refine ⟨_, tail, rfl, htail, fun rest => ?_⟩
  rw [List.append_assoc, List.append_assoc]
  exact readNext_of_item (turn_first hgap (startsItem_append (hstart item hitem) _))
    (hread item hitem _)

end Places

theorem readString_item (settings : Settings) : ∀ item, Field.language.Written settings item →
    ∀ rest, readString (item ++ rest) = .ok (settings.language, rest) := by
  rintro item rfl rest
  exact readString_written Gap.nil _ rest

theorem readDictionary_item (settings : Settings) : ∀ item, Field.wordings.Written settings item →
    ∀ rest, readDictionary (item ++ rest) = .ok (settings.wordings, rest) := by
  rintro item ⟨entries, hentries, hitem⟩ rest
  rw [← hentries]
  exact readDictionary_written Gap.nil hitem rest

theorem readStrings_item (settings : Settings) : ∀ item, Field.labelColors.Written settings item →
    ∀ rest, readStrings (item ++ rest) = .ok (settings.labelColors, rest) :=
  fun _ hitem rest => readStrings_written Gap.nil hitem rest

/-- A list is read as far as it goes. -/
theorem exists_readPlaces (h : Bracketed .list (Field.Written settings) fields cs)
    (hfields : fields <+: Field.all) :
    ∃ inner, cs = '[' :: inner ∧
      ∀ rest, readPlaces (inner ++ rest) = .ok (drafted settings fields, rest) := by
  have hstart : ∀ field : Field, ∀ item, field.Written settings item → startsItem item = true :=
    fun field item hitem => hitem.starts
  -- the fields are the first of the three, so the list ends at one of four places
  rcases List.prefix_cons_iff.1 hfields with rfl | ⟨fields, rfl, hfields₁⟩
  · obtain ⟨inner, rfl, hnone⟩ := exists_readNext_none h
    refine ⟨inner, rfl, fun rest => ?_⟩
    rw [readPlaces, hnone]
    rfl
  obtain ⟨inner, tail, rfl, htail, hlanguage⟩ :=
    exists_readNext_first h (hstart .language) (readString_item settings)
  refine ⟨inner, rfl, fun rest => ?_⟩
  rw [readPlaces, hlanguage]
  rcases List.prefix_cons_iff.1 hfields₁ with rfl | ⟨fields, rfl, hfields₂⟩
  · simp only [Reads.andThen, readNext_nil htail]
    rfl
  obtain ⟨tail', htail', hwordings⟩ :=
    exists_readNext_cons htail (hstart .wordings) (readDictionary_item settings)
  rcases List.prefix_cons_iff.1 hfields₂ with rfl | ⟨fields, rfl, hfields₃⟩
  · simp only [Reads.andThen, hwordings, readNext_nil htail']
    rfl
  obtain ⟨tail'', htail'', hcolors⟩ :=
    exists_readNext_cons htail' (hstart .labelColors) (readStrings_item settings)
  obtain rfl : fields = [] := List.prefix_nil.1 hfields₃
  simp only [Reads.andThen, hwordings, hcolors, readEnd_nil htail'']
  rfl

/-! ## Whole texts -/

/-- Settings are read from any layout, with what is missing as in the standard settings. -/
theorem Layout.exists_readDraft (h : Layout settings cs) (hgap : Gap gap) (rest : List Char) :
    ∃ draft, readDraft (gap ++ (cs ++ rest)) = .ok (draft, rest) ∧ draft.settings = settings := by
  cases h with
  | object hcs hnodup hmissing =>
    obtain ⟨inner, rfl, hread⟩ := (memberItems_follows hnodup).readAll_bracketed hcs
    refine ⟨_, ?_, settings_drafted hmissing⟩
    have hspace := @skipSpace_gap _ hgap '\x7b' rfl (inner ++ rest)
    rw [List.cons_append, readDraft, Bracket.opening, hspace]
    exact hread rest
  | list hcs hfields hmissing =>
    obtain ⟨inner, rfl, hread⟩ := exists_readPlaces hcs hfields
    refine ⟨_, ?_, settings_drafted hmissing⟩
    have hspace := @skipSpace_gap _ hgap '[' rfl (inner ++ rest)
    rw [List.cons_append, readDraft, hspace]
    exact hread rest

theorem parse_of_writtenAs {text : String} (h : settings.WrittenAs text) :
    parse text = .ok settings := by
  obtain ⟨before, cs, after, hbefore, hlayout, hafter, htext⟩ := h
  obtain ⟨draft, hdraft, hsettings⟩ := hlayout.exists_readDraft hbefore after
  have hrest : skipSpace after = [] := List.dropWhile_eq_nil_iff.2 hafter.isSpace
  simp only [parse, htext, hdraft, hrest, List.isEmpty_nil, if_true, hsettings]

/-- Settings that are accepted are what is read from any text they are written in. Of settings that
are not, the reader says what is wrong with them themselves. -/
theorem ofJson_of_writtenAs {text : String} (h : settings.WrittenAs text) :
    (settings.validated = .ok settings → ofJson text = .ok settings) ∧
      ∀ failure, settings.validated = .error failure →
        ofJson text = .error failure ∧ ∃ tag wording, failure = .untypeable tag wording := by
  have hread : ofJson text = settings.validated := by
    rw [ofJson, parse_of_writtenAs h]
  rw [hread]
  refine ⟨id, fun failure hfailure => ⟨hfailure, ?_⟩⟩
  obtain ⟨tag, wording, rfl, -⟩ := validated_eq_error_iff.1 hfailure
  exact ⟨tag, wording, rfl⟩

/-- French settings whose wordings are left out, with a member between the others that is passed
over, and German ones that are not accepted. -/
theorem ofJson_french_and_german :
    ofJson " \x7b\"label_colors\":[\"red\"],\n\"note\": [-1.5e3, null] ,\"language\":\"fr\"\x7d" =
        .ok ⟨"fr", .empty, ["red"]⟩ ∧
      ofJson "[\"de\" ,\x7b\"operator-due\":\"in time\"\x7d]\n" =
        .error (.untypeable "operator-due" "in time") := by
  have hspace : Gap [' '] := by decide
  have hline : Gap ['\n'] := by decide
  have hfive : IsDigits ['5'] := ⟨by decide, List.forall_mem_singleton.2 rfl⟩
  have hthree : IsDigits ['3'] := ⟨by decide, List.forall_mem_singleton.2 rfl⟩
  have hone : IsWhole ['1'] := .digits rfl (by decide) (List.forall_mem_nil _)
  have hnumber : IsNumber ['-', '1', '.', '5', 'e', '3'] :=
    .mk (.inr rfl) hone (.some hfive) (.some (.inl rfl) (.inl rfl) hthree)
  have hitems : Bracketed .list Eq [['-', '1', '.', '5', 'e', '3'], ['n', 'u', 'l', 'l']] _ :=
    .some Gap.nil rfl (.comma Gap.nil hspace rfl (.close Gap.nil))
  have hvalue : IsValue _ := .list hitems
    (List.forall_mem_cons.2 ⟨.number hnumber, List.forall_mem_singleton.2 (.word (by decide))⟩)
  have hnote : Entry.Written ⟨"fr", .empty, ["red"]⟩ (.other "note") _ :=
    ⟨by rintro (_ | _ | _) <;> decide, .mk rfl Gap.nil hspace hvalue⟩
  have hfrench : Bracketed .object (Entry.Written ⟨"fr", .empty, ["red"]⟩)
      [.known .labelColors, .other "note", .known .language] _ :=
    .some Gap.nil (.mk rfl Gap.nil Gap.nil (.some Gap.nil rfl (.close Gap.nil)))
      (.comma Gap.nil hline hnote
        (.comma hspace Gap.nil (.mk rfl Gap.nil Gap.nil rfl) (.close Gap.nil)))
  have hgerman : Bracketed .list
      (Field.Written ⟨"de", .ofList [("operator-due", "in time")], Palette.boardColors⟩)
      [.language, .wordings] _ :=
    .some Gap.nil rfl (.comma hspace Gap.nil ⟨[("operator-due", "in time")], rfl,
      .some Gap.nil (.mk rfl Gap.nil Gap.nil rfl) (.close Gap.nil)⟩ (.close Gap.nil))
  constructor
  · refine (ofJson_of_writtenAs ⟨[' '], _, [], hspace, .object hfrench (by decide) ?_, Gap.nil,
      by decide +kernel⟩).1 (by decide +kernel)
    rintro (_ | _ | _) hfield
    · exact absurd (by decide) hfield
    · rfl
    · exact absurd (by decide) hfield
  · refine ((ofJson_of_writtenAs ⟨[], _, ['\n'], Gap.nil, .list hgerman (by decide) ?_, hline,
      by decide +kernel⟩).2 _ (by decide +kernel)).1
    rintro (_ | _ | _) hfield
    · exact absurd (by decide) hfield
    · exact absurd (by decide) hfield
    · rfl

/-! ## The compact text -/

theorem Entry.written_known {field : Field} {value : Value}
    (h : field.Written settings value.chars) :
    Entry.Written settings (.known field) (Value.memberChars (field.name, value)) :=
  member_memberChars rfl h

/-- The compact text of settings has all their fields. -/
theorem writtenAs_compact (settings : Settings) : settings.WrittenAs settings.toJson.compact := by
  have hlanguage : Field.language.Written settings (Value.text settings.language).chars := by
    rw [Value.chars]
    rfl
  have hwordings : Field.wordings.Written settings (Value.object
      (settings.wordings.entries.map fun entry => (entry.1, .text entry.2))).chars :=
    ⟨settings.wordings.entries, SortedMap.ofList_entries _, bracketed_object fun entry _ =>
      member_memberChars rfl (by rw [Value.chars])⟩
  have hcolors : Field.labelColors.Written settings
      (Value.list (settings.labelColors.map .text)).chars :=
    bracketed_list fun s _ => by rw [Value.chars]
  have hentries : Bracketed .object (Entry.Written settings) (Field.all.map .known)
      settings.toJson.chars := by
    rw [toJson, Value.chars, Value.membersChars, Value.membersChars, Value.membersChars]
    exact .some Gap.nil (Entry.written_known hlanguage)
      (.comma Gap.nil Gap.nil (Entry.written_known hwordings)
        (.comma Gap.nil Gap.nil (Entry.written_known hcolors) (.close Gap.nil)))
  refine ⟨[], _, [], Gap.nil, .object hentries (by decide) ?_, Gap.nil, ?_⟩
  · intro field hfield
    exact absurd (by cases field <;> decide) hfield
  · rw [Value.compact, String.toList_ofList, List.nil_append, List.append_nil]

theorem parse_compact (settings : Settings) : parse settings.toJson.compact = .ok settings :=
  parse_of_writtenAs (writtenAs_compact settings)

end Settings

end BoardQuery

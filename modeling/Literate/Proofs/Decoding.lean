/-
This file proves that each decoder is the exact inverse of the spelling it reads, on
every text and not only on those of tokens. A decoder accepts the texts of one shape; what
it returns is spelled as the text was; and every value that can be told from its spelling
is returned for it. So no two texts are read as the same value, and a text that is refused
comes back in the error as it was.

Three decoders ask for their markers only and have one complaint. The fourth also asks for
a key that it knows: it finds the key in front of the first `=` between the markers, and
complains about a key that it does not know in one way and about a text without one in
another.
-/

import Literate.Proofs.Spelling

namespace Literate

/-! ### What it is to undo a spelling -/

/-- A text that stands between two markers, which do not overlap. -/
def Text.Enclosed (opening closing text : Text) : Prop :=
  ∃ inner, text = opening ++ inner ++ closing

namespace Event

/-- A decoder undoes a spelling. It accepts the texts of a shape; it reads a text as a value
exactly if the text is the spelling of the value and the value can be told from its spelling; it
refuses a text exactly for its fault, and the error carries the text unchanged; and no two texts
are read as one value. -/
structure Undoes {α : Type} (decode : Text → Except DecodeError α) (spelling : α → Text)
    (told : α → Prop) (shape : Text → Prop) (fault : Text → DecodeError → Prop) : Prop where
  accepts : ∀ text, (∃ value, decode text = .ok value) ↔ shape text
  reads : ∀ text value, decode text = .ok value ↔ text = spelling value ∧ told value
  refuses : ∀ text error, decode text = .error error ↔ fault text error
  unchanged : ∀ text error, decode text = .error error → error.raw = text
  apart : ∀ first second value, decode first = .ok value → decode second = .ok value →
    first = second

/-- The only fault of a text for a decoder with one complaint: it is not of the shape. -/
def Misshapen (shape : Text → Prop) (complaint : Text → DecodeError) (text : Text)
    (error : DecodeError) : Prop := ¬shape text ∧ error = complaint text

variable {α : Type} {decode : Text → Except DecodeError α} {spelling : α → Text}
  {told : α → Prop} {shape : Text → Prop}

theorem undoes_of_refuses {fault : Text → DecodeError → Prop}
    (reads : ∀ text value, decode text = .ok value ↔ text = spelling value ∧ told value)
    (shaped : ∀ text, shape text ↔ ∃ value, text = spelling value ∧ told value)
    (refuses : ∀ text error, decode text = .error error ↔ fault text error)
    (unchanged : ∀ text error, decode text = .error error → error.raw = text) :
    Undoes decode spelling told shape fault where
  accepts text := by simp only [reads, shaped]
  reads := reads
  refuses := refuses
  unchanged := unchanged
  apart first second value readFirst readSecond := by
    rw [((reads first value).mp readFirst).1, ((reads second value).mp readSecond).1]

/-- Where there is one complaint, what a decoder accepts tells what it refuses. -/
theorem undoes_of_complains {complaint : Text → DecodeError}
    (reads : ∀ text value, decode text = .ok value ↔ text = spelling value ∧ told value)
    (shaped : ∀ text, shape text ↔ ∃ value, text = spelling value ∧ told value)
    (complains : ∀ text error, decode text = .error error → error = complaint text)
    (unchanged : ∀ text, (complaint text).raw = text) :
    Undoes decode spelling told shape (Misshapen shape complaint) := by
  refine undoes_of_refuses reads shaped (fun text error => ⟨fun refused => ?_, ?_⟩)
    fun text error refused => complains text error refused ▸ unchanged text
  · refine ⟨fun isShaped => ?_, complains text error refused⟩
    obtain ⟨value, spelled⟩ := (shaped text).mp isShaped
    cases refused.symm.trans ((reads text value).mpr spelled)
  · rintro ⟨misshapen, rfl⟩
    cases decoded : decode text with
    | ok value => exact absurd ((shaped text).mpr ⟨value, (reads text value).mp decoded⟩) misshapen
    | error error => rw [complains text error decoded]

/-! ### Decoders that ask for their markers only -/

theorem undoes_decodeMacroStart :
    Undoes decodeMacroStart (fun value => (Event.opening value.1 value.2).spelling)
      (fun value => value.1.Bears value.2) (Text.Enclosed ['<', '<'] ['>', '>', '='])
      (Misshapen (Text.Enclosed ['<', '<'] ['>', '>', '=']) .malformedMacroStart) := by
  refine undoes_of_complains (fun text value => decodeMacroStart_eq_ok_iff) (fun text => ?_)
    (fun text error refused => ?_) fun text => rfl
  · constructor
    · rintro ⟨inner, rfl⟩
      obtain ⟨kind, name, rfl, bears⟩ := exists_bears inner
      exact ⟨(kind, name), rfl, bears⟩
    · rintro ⟨⟨kind, name⟩, rfl, _⟩
      exact ⟨kind.marker ++ name, rfl⟩
  · rw [decodeMacroStart] at refused
    split at refused <;> cases refused
    rfl

theorem undoes_decodeMacroReference :
    Undoes decodeMacroReference referenceSpelling (fun _ => True)
      (Text.Enclosed ['<', '<'] ['>', '>'])
      (Misshapen (Text.Enclosed ['<', '<'] ['>', '>']) .malformedMacroReference) := by
  refine undoes_of_complains (fun text name => ?_) (fun text => ?_)
    (fun text error refused => ?_) fun text => rfl
  · rw [decodeMacroReference_eq_ok_iff, and_true]
  · simp only [and_true]
    rfl
  · rw [decodeMacroReference] at refused
    split at refused <;> cases refused
    rfl

theorem undoes_decodeSubstitution :
    Undoes decodeSubstitution (fun made => (Event.substitution made).spelling)
      (fun made => '=' ∉ made.key) (Text.Enclosed ['%', '['] [']', '%'])
      (Misshapen (Text.Enclosed ['%', '['] [']', '%']) .malformedSubstitution) := by
  refine undoes_of_complains (fun text made => decodeSubstitution_eq_ok_iff) (fun text => ?_)
    (fun text error refused => ?_) fun text => rfl
  · constructor
    · rintro ⟨inner, rfl⟩
      obtain ⟨made, rfl, absent⟩ := exists_inner inner
      exact ⟨made, rfl, absent⟩
    · rintro ⟨made, rfl, _⟩
      exact ⟨made.inner, rfl⟩
  · rw [decodeSubstitution] at refused
    split at refused
    · split at refused <;> cases refused
    · cases refused
      rfl

/-! ### The decoder that asks for a known key -/

/-- A directive with the given key, which is what stands in front of the first `=`. -/
def KeyedBy (key text : Text) : Prop :=
  '=' ∉ key ∧ ∃ value, text = '#' :: '[' :: key ++ '=' :: value ++ [']']

/-- The faults of a text as a directive: its key is not one of the two that are known, or it has
no key. -/
inductive DirectiveFault (text : Text) : DecodeError → Prop where
  | unknownKey {key : Text} : KeyedBy key text → key ≠ Text.ofString "include" →
      key ≠ Text.ofString "language" → DirectiveFault text (.unsupportedDirective text)
  | noKey : (∀ key, ¬KeyedBy key text) → DirectiveFault text (.malformedDirective text)

theorem decodeDirective_of_noKey {text : Text} (noKey : ∀ key, ¬KeyedBy key text) :
    decodeDirective text = .error (.malformedDirective text) := by
  rw [decodeDirective]
  split
  · rename_i key value found
    obtain ⟨inner, enclosed, cut⟩ := Option.bind_eq_some_iff.mp found
    obtain ⟨rfl, absent⟩ := Text.cutAt?_eq_some_iff.mp cut
    have same := Text.enclosed?_eq_some_iff.mp enclosed
    exact absurd ⟨absent, value, by simpa using same⟩ (noKey key)
  · rfl

theorem decodeDirective_eq_ok_iff {text : Text} {given : Directive} :
    decodeDirective text = .ok given ↔ text = (Event.directive given).spelling := by
  constructor
  · intro decoded
    by_cases keyed : ∃ key, KeyedBy key text
    · obtain ⟨key, absent, value, rfl⟩ := keyed
      rw [decodeDirective_of_key absent] at decoded
      split at decoded
      · rename_i isInclusion
        cases decoded
        rw [isInclusion]
        rfl
      split at decoded
      · rename_i isLanguage
        cases decoded
        rw [isLanguage]
        rfl
      · cases decoded
    · rw [decodeDirective_of_noKey (not_exists.mp keyed)] at decoded
      cases decoded
  · rintro rfl
    exact decodeDirective_spelling given

theorem decodeDirective_eq_error_iff {text : Text} {error : DecodeError} :
    decodeDirective text = .error error ↔ DirectiveFault text error := by
  constructor
  · intro refused
    by_cases keyed : ∃ key, KeyedBy key text
    · obtain ⟨key, absent, value, rfl⟩ := keyed
      have decoded := decodeDirective_of_key absent value
      rw [refused] at decoded
      split at decoded
      · cases decoded
      split at decoded
      · cases decoded
      · rename_i notInclusion notLanguage
        cases decoded
        exact .unknownKey ⟨absent, value, rfl⟩ notInclusion notLanguage
    · rw [decodeDirective_of_noKey (not_exists.mp keyed)] at refused
      cases refused
      exact .noKey (not_exists.mp keyed)
  · intro faulty
    cases faulty with
    | @unknownKey key keyed notInclusion notLanguage =>
      obtain ⟨absent, value, rfl⟩ := keyed
      rw [decodeDirective_of_key absent, if_neg notInclusion, if_neg notLanguage]
    | noKey none => exact decodeDirective_of_noKey none

theorem spelling_inclusion (path : Text) :
    (Event.directive (.inclusion path)).spelling =
      Text.ofString "#[include=" ++ path ++ [']'] := by
  have opening : Text.ofString "#[include=" = '#' :: '[' :: Text.ofString "include" ++ ['='] := by
    decide
  simp [opening, Event.spelling, Directive.key, Directive.value]

theorem spelling_language (name : Text) :
    (Event.directive (.language name)).spelling =
      Text.ofString "#[language=" ++ name ++ [']'] := by
  have opening : Text.ofString "#[language=" = '#' :: '[' :: Text.ofString "language" ++ ['='] := by
    decide
  simp [opening, Event.spelling, Directive.key, Directive.value]

theorem undoes_decodeDirective :
    Undoes decodeDirective (fun given => (Event.directive given).spelling) (fun _ => True)
      (fun text => Text.Enclosed (Text.ofString "#[include=") [']'] text ∨
        Text.Enclosed (Text.ofString "#[language=") [']'] text) DirectiveFault := by
  refine undoes_of_refuses (fun text given => ?_) (fun text => ?_)
    (fun text error => decodeDirective_eq_error_iff) (fun text error refused => ?_)
  · rw [decodeDirective_eq_ok_iff, and_true]
  · constructor
    · rintro (⟨path, rfl⟩ | ⟨name, rfl⟩)
      · exact ⟨.inclusion path, (spelling_inclusion path).symm, trivial⟩
      · exact ⟨.language name, (spelling_language name).symm, trivial⟩
    · rintro ⟨given, rfl, _⟩
      cases given with
      | inclusion path => exact .inl ⟨path, spelling_inclusion path⟩
      | language name => exact .inr ⟨name, spelling_language name⟩
  · cases decodeDirective_eq_error_iff.mp refused <;> rfl

/-! ### All decoders -/

/-- Each decoder is the exact inverse of its spelling, on every text. The start of a macro body
is read from what stands between `<<` and `>>=`, a reference from between `<<` and `>>`, and a
substitution from between `%[` and `]%`, and any other text is malformed. A directive is read if
its key is `include` or `language`; one with another key is unsupported, and a text without a
key is malformed. A spelling is read as what it was written from, except that an ordinary name
may not be the root's nor start like the name of a file or a section, and that a key may not
contain `=`; nothing else is ever read. -/
theorem decoders_undo_spelling :
    Undoes decodeMacroStart (fun value => (Event.opening value.1 value.2).spelling)
      (fun value => value.1.Bears value.2) (Text.Enclosed ['<', '<'] ['>', '>', '='])
      (Misshapen (Text.Enclosed ['<', '<'] ['>', '>', '=']) .malformedMacroStart) ∧
    Undoes decodeMacroReference referenceSpelling (fun _ => True)
      (Text.Enclosed ['<', '<'] ['>', '>'])
      (Misshapen (Text.Enclosed ['<', '<'] ['>', '>']) .malformedMacroReference) ∧
    Undoes decodeSubstitution (fun made => (Event.substitution made).spelling)
      (fun made => '=' ∉ made.key) (Text.Enclosed ['%', '['] [']', '%'])
      (Misshapen (Text.Enclosed ['%', '['] [']', '%']) .malformedSubstitution) ∧
    Undoes decodeDirective (fun given => (Event.directive given).spelling) (fun _ => True)
      (fun text => Text.Enclosed (Text.ofString "#[include=") [']'] text ∨
        Text.Enclosed (Text.ofString "#[language=") [']'] text) DirectiveFault :=
  ⟨undoes_decodeMacroStart, undoes_decodeMacroReference, undoes_decodeSubstitution,
    undoes_decodeDirective⟩

-- Markers do not overlap, what stands between them may be empty, and so may a key.
example : decodeMacroStart ['<', '<', '>', '='] =
      .error (.malformedMacroStart ['<', '<', '>', '=']) ∧
    decodeSubstitution ['%', '[', ']', '%'] = .ok (.placeholder []) ∧
    decodeDirective ['#', '[', '=', ']'] =
      .error (.unsupportedDirective ['#', '[', '=', ']']) := ⟨rfl, rfl, rfl⟩

end Event

end Literate

/-
This file proves that the decoders undo the spelling of events. A text is cut at a
character, or taken from between its markers, in exactly one way; so each decoder
accepts exactly the spellings of what it returns. The only values that a decoder
never returns are those whose spelling says something else: an ordinary name that
is the root's or starts like a file's or a section's, and a key with a `=`.
-/

import Literate.Event.Decode

namespace Literate

/-! ### Cuts of a text -/

namespace Text

theorem afterOpening?_eq_some_iff {opening text rest : Text} :
    afterOpening? opening text = some rest ↔ text = opening ++ rest := by
  fun_induction afterOpening? opening text with
  | case1 text => exact ⟨fun same => Option.some.inj same, fun same => congrArg some same⟩
  | case2 => simp
  | case3 mark marks rest inductionHypothesis => simp [inductionHypothesis]
  | case4 mark marks first rest different => simp [different]

theorem beforeClosing?_eq_some_iff {closing text inner : Text} :
    beforeClosing? closing text = some inner ↔ text = inner ++ closing := by
  simp only [beforeClosing?, Option.map_eq_some_iff, afterOpening?_eq_some_iff]
  constructor
  · rintro ⟨back, same, rfl⟩
    simpa using congrArg List.reverse same
  · rintro rfl
    exact ⟨inner.reverse, by simp, List.reverse_reverse inner⟩

theorem enclosed?_eq_some_iff {opening closing text inner : Text} :
    enclosed? opening closing text = some inner ↔ text = opening ++ inner ++ closing := by
  simp only [enclosed?, Option.bind_eq_some_iff, afterOpening?_eq_some_iff,
    beforeClosing?_eq_some_iff]
  constructor
  · rintro ⟨_, rfl, rfl⟩
    rw [List.append_assoc]
  · rintro rfl
    exact ⟨inner ++ closing, List.append_assoc _ _ _, rfl⟩

theorem cutAt?_eq_some_iff {mark : Char} {text before after : Text} :
    cutAt? mark text = some (before, after) ↔ text = before ++ mark :: after ∧ mark ∉ before := by
  induction text generalizing before with
  | nil => simp [cutAt?]
  | cons first rest inductionHypothesis =>
    rw [cutAt?]
    split
    · rename_i same
      subst same
      constructor
      · rintro ⟨⟩
        exact ⟨rfl, List.not_mem_nil⟩
      · rintro ⟨same, absent⟩
        cases before with
        | nil =>
          obtain ⟨_, rfl⟩ := List.cons_eq_cons.mp same
          rfl
        | cons head before =>
          obtain ⟨rfl, _⟩ := List.cons_eq_cons.mp same
          exact absurd List.mem_cons_self absent
    · rename_i different
      rw [Option.map_eq_some_iff]
      constructor
      · rintro ⟨⟨front, back⟩, found, same⟩
        cases same
        obtain ⟨rfl, absent⟩ := inductionHypothesis.mp found
        exact ⟨rfl, List.not_mem_cons_of_ne_of_not_mem (Ne.symm different) absent⟩
      · rintro ⟨same, absent⟩
        cases before with
        | nil =>
          obtain ⟨rfl, _⟩ := List.cons_eq_cons.mp same
          exact absurd rfl different
        | cons head before =>
          obtain ⟨rfl, rfl⟩ := List.cons_eq_cons.mp same
          exact ⟨(before, after),
            inductionHypothesis.mpr ⟨rfl, List.not_mem_of_not_mem_cons absent⟩, rfl⟩

theorem cutAt?_eq_none_iff {mark : Char} {text : Text} :
    cutAt? mark text = none ↔ mark ∉ text := by
  induction text with
  | nil => simp [cutAt?]
  | cons first rest inductionHypothesis =>
    rw [cutAt?]
    split
    · rename_i same
      simp [same]
    · rename_i different
      rw [Option.map_eq_none_iff, inductionHypothesis, List.mem_cons, not_or]
      exact ⟨fun absent => ⟨Ne.symm different, absent⟩, And.right⟩

end Text

/-! ### Names and their kinds -/

/-- The names that keep their kind when they are written and read: an ordinary name may not be
the root's, nor start like the name of a file or of a section. -/
def MacroKind.Bears : MacroKind → Text → Prop
  | .plain, name =>
    name ≠ rootName ∧ ¬ Text.ofString "FILE:" <+: name ∧ ¬ Text.ofString "SECTION:" <+: name
  | .file, _ => True
  | .sectional, _ => True
  | .root, name => name = rootName

instance : (kind : MacroKind) → (name : Text) → Decidable (kind.Bears name)
  | .plain, name =>
    inferInstanceAs (Decidable
      (name ≠ rootName ∧ ¬ Text.ofString "FILE:" <+: name ∧ ¬ Text.ofString "SECTION:" <+: name))
  | .file, _ => .isTrue trivial
  | .sectional, _ => .isTrue trivial
  | .root, name => inferInstanceAs (Decidable (name = rootName))

namespace Event

theorem cutAt?_file (name : Text) :
    Text.cutAt? ':' (Text.ofString "FILE:" ++ name) = some (Text.ofString "FILE", name) :=
  Text.cutAt?_eq_some_iff.mpr ⟨rfl, by decide⟩

theorem cutAt?_section (name : Text) :
    Text.cutAt? ':' (Text.ofString "SECTION:" ++ name) = some (Text.ofString "SECTION", name) :=
  Text.cutAt?_eq_some_iff.mpr ⟨rfl, by decide⟩

theorem classify_plain {name : Text} (bears : MacroKind.plain.Bears name) :
    classify name = (.plain, name) := by
  obtain ⟨notRoot, notFile, notSection⟩ := bears
  rw [classify, if_neg notRoot]
  split
  · rename_i front back found
    obtain ⟨same, _⟩ := Text.cutAt?_eq_some_iff.mp found
    rw [if_neg, if_neg]
    · rintro rfl
      exact notSection ⟨back, same.symm⟩
    · rintro rfl
      exact notFile ⟨back, same.symm⟩
  · rfl

/-- A name that keeps its kind is read as what it was written from. -/
theorem classify_marker_append {kind : MacroKind} {name : Text} (bears : kind.Bears name) :
    classify (kind.marker ++ name) = (kind, name) := by
  cases kind with
  | plain => exact classify_plain bears
  | file =>
    show classify (Text.ofString "FILE:" ++ name) = (.file, name)
    have notRoot : Text.ofString "FILE:" ++ name ≠ rootName :=
      fun same => absurd (List.cons_eq_cons.mp same).1 (by decide)
    simp only [classify, if_neg notRoot, cutAt?_file]
    rfl
  | sectional =>
    show classify (Text.ofString "SECTION:" ++ name) = (.sectional, name)
    have notRoot : Text.ofString "SECTION:" ++ name ≠ rootName :=
      fun same => absurd (List.cons_eq_cons.mp same).1 (by decide)
    simp only [classify, if_neg notRoot, cutAt?_section]
    rfl
  | root => exact if_pos bears

theorem exists_bears (inner : Text) :
    ∃ (kind : MacroKind) (name : Text), inner = kind.marker ++ name ∧ kind.Bears name := by
  by_cases isRoot : inner = rootName
  · exact ⟨.root, inner, rfl, isRoot⟩
  by_cases isFile : Text.ofString "FILE:" <+: inner
  · obtain ⟨name, same⟩ := isFile
    exact ⟨.file, name, same.symm, trivial⟩
  by_cases isSection : Text.ofString "SECTION:" <+: inner
  · obtain ⟨name, same⟩ := isSection
    exact ⟨.sectional, name, same.symm, trivial⟩
  · exact ⟨.plain, inner, rfl, isRoot, isFile, isSection⟩

/-! ### The decoders -/

theorem spelling_opening (kind : MacroKind) (name : Text) :
    (Event.opening kind name).spelling =
      ['<', '<'] ++ (kind.marker ++ name) ++ ['>', '>', '='] := rfl

theorem decodeMacroStart_spelling {kind : MacroKind} {name : Text} (bears : kind.Bears name) :
    decodeMacroStart (Event.opening kind name).spelling = .ok (kind, name) := by
  simp only [decodeMacroStart, Text.enclosed?_eq_some_iff.mpr (spelling_opening kind name),
    classify_marker_append bears]

theorem decodeMacroStart_eq_ok_iff {text name : Text} {kind : MacroKind} :
    decodeMacroStart text = .ok (kind, name) ↔
      text = (Event.opening kind name).spelling ∧ kind.Bears name := by
  constructor
  · intro found
    cases enclosed : Text.enclosed? ['<', '<'] ['>', '>', '='] text with
    | none =>
      rw [decodeMacroStart, enclosed] at found
      cases found
    | some inner =>
      obtain rfl := Text.enclosed?_eq_some_iff.mp enclosed
      obtain ⟨otherKind, other, rfl, bears⟩ := exists_bears inner
      rw [← spelling_opening, decodeMacroStart_spelling bears] at found
      cases found
      exact ⟨rfl, bears⟩
  · rintro ⟨rfl, bears⟩
    exact decodeMacroStart_spelling bears

theorem decodeMacroReference_eq_ok_iff {text name : Text} :
    decodeMacroReference text = .ok name ↔ text = referenceSpelling name := by
  have enclosing : Text.enclosed? ['<', '<'] ['>', '>'] text = some name ↔
      text = referenceSpelling name := Text.enclosed?_eq_some_iff
  rw [← enclosing, decodeMacroReference]
  cases Text.enclosed? ['<', '<'] ['>', '>'] text with
  | none => simp
  | some inner => simp

theorem spelling_substitution (made : Substitution) :
    (Event.substitution made).spelling = ['%', '['] ++ made.inner ++ [']', '%'] := rfl

theorem decodeSubstitution_spelling {made : Substitution} (absent : '=' ∉ made.key) :
    decodeSubstitution (Event.substitution made).spelling = .ok made := by
  simp only [decodeSubstitution, Text.enclosed?_eq_some_iff.mpr (spelling_substitution made)]
  cases made with
  | placeholder key =>
    have uncut : Text.cutAt? '=' key = none := Text.cutAt?_eq_none_iff.mpr absent
    simp only [Substitution.inner, uncut]
  | assignment key value =>
    have cut : Text.cutAt? '=' (key ++ '=' :: value) = some (key, value) :=
      Text.cutAt?_eq_some_iff.mpr ⟨rfl, absent⟩
    simp only [Substitution.inner, cut]

theorem exists_inner (inner : Text) :
    ∃ made : Substitution, inner = made.inner ∧ '=' ∉ made.key := by
  cases cut : Text.cutAt? '=' inner with
  | none => exact ⟨.placeholder inner, rfl, Text.cutAt?_eq_none_iff.mp cut⟩
  | some parts =>
    obtain ⟨same, absent⟩ := Text.cutAt?_eq_some_iff.mp cut
    exact ⟨.assignment parts.1 parts.2, same, absent⟩

theorem decodeSubstitution_eq_ok_iff {text : Text} {made : Substitution} :
    decodeSubstitution text = .ok made ↔
      text = (Event.substitution made).spelling ∧ '=' ∉ made.key := by
  constructor
  · intro found
    cases enclosed : Text.enclosed? ['%', '['] [']', '%'] text with
    | none =>
      rw [decodeSubstitution, enclosed] at found
      cases found
    | some inner =>
      obtain rfl := Text.enclosed?_eq_some_iff.mp enclosed
      obtain ⟨other, rfl, absent⟩ := exists_inner inner
      rw [← spelling_substitution, decodeSubstitution_spelling absent] at found
      cases found
      exact ⟨rfl, absent⟩
  · rintro ⟨rfl, absent⟩
    exact decodeSubstitution_spelling absent

/-- A directive is read by its key, which is what stands in front of the first `=`. -/
theorem decodeDirective_of_key {key : Text} (absent : '=' ∉ key) (value : Text) :
    decodeDirective ('#' :: '[' :: key ++ '=' :: value ++ [']']) =
      if key = Text.ofString "include" then .ok (.inclusion value)
      else if key = Text.ofString "language" then .ok (.language value)
      else .error (.unsupportedDirective ('#' :: '[' :: key ++ '=' :: value ++ [']'])) := by
  have enclosed : Text.enclosed? ['#', '['] [']'] ('#' :: '[' :: key ++ '=' :: value ++ [']']) =
      some (key ++ '=' :: value) := Text.enclosed?_eq_some_iff.mpr (by simp)
  simp only [decodeDirective, enclosed, Option.bind_some,
    Text.cutAt?_eq_some_iff.mpr ⟨rfl, absent⟩]

theorem decodeDirective_spelling (given : Directive) :
    decodeDirective (Event.directive given).spelling = .ok given := by
  cases given with
  | inclusion path =>
    have absent : '=' ∉ Text.ofString "include" := by decide
    exact (decodeDirective_of_key absent path).trans (if_pos rfl)
  | language name =>
    have absent : '=' ∉ Text.ofString "language" := by decide
    have different : Text.ofString "language" ≠ Text.ofString "include" := by decide
    exact (decodeDirective_of_key absent name).trans ((if_neg different).trans (if_pos rfl))

end Event

end Literate

/-
This file says once what a token can mean. Reading finds delimiters, pieces of
plain text and the end of the input; the meaning of what was found is the end, an
event whose spelling is the token's text, or a complaint about a token that may not
stand in its scope. A delimiter is never malformed: of all decoding errors only the
directive with an unknown key can come up.

The way from scope to scope is told by the events alone. A list of events that
leads from outside to outside is well bracketed.
-/

import Literate.Proofs.Reading
import Literate.Proofs.Spelling
import Literate.Scope

namespace Literate

/-! ### The tokens that reading finds -/

/-- The kinds and texts of the tokens that reading finds. -/
inductive Legible : TokenKind → Text → Prop where
  | ended : Legible .endOfInput []
  | passage {text : Text} : text ≠ [] → Legible .passthrough text
  | delimiter {kind : TokenKind} {text : Text} : Delimiter kind text → Legible kind text

theorem FirstLexeme.legible {text : Text} {lexeme : Lexeme} (isFirst : FirstLexeme text lexeme)
    (nonempty : text ≠ []) : Legible lexeme.kind lexeme.text := by
  have taken := isFirst.ne_nil nonempty
  cases isFirst with
  | delimiter isDelimiter => exact .delimiter isDelimiter
  | broken => exact .passage taken
  | unfinished => exact .passage taken

theorem Legible.kind_eq {kind other : TokenKind} {text : Text} (legible : Legible kind text)
    (isDelimiter : Delimiter other text) : kind = other ∨ kind = .passthrough := by
  cases legible with
  | ended => exact absurd rfl isDelimiter.ne_nil
  | passage => exact .inr rfl
  | delimiter isOther => exact .inl (isOther.kind_unique isDelimiter)

theorem FirstLexeme.kind_ne_endOfInput {text : Text} {lexeme : Lexeme}
    (isFirst : FirstLexeme text lexeme) : lexeme.kind ≠ .endOfInput := by
  cases isFirst with
  | delimiter isDelimiter => cases isDelimiter <;> exact nofun
  | broken => exact nofun
  | unfinished => exact nofun

theorem Input.legible_read (input : Input) : Legible input.read.1.kind input.read.1.text := by
  by_cases ended : input.unread = []
  · rw [read_of_unread_eq_nil ended]
    exact .ended
  · exact (firstLexeme_read ended).legible ended

/-- Every token in front of the end is legible, and it does not mark the end. -/
theorem Input.legible_of_mem_readAll {input : Input} {token : Token}
    (member : token ∈ input.readAll.1) :
    Legible token.kind token.text ∧ token.kind ≠ .endOfInput := by
  induction input using reading_induction with
  | ended input ended =>
    rw [readAll_of_next?_eq_none ended] at member
    exact absurd member List.not_mem_nil
  | more input more inductionHypothesis =>
    rw [readAll_of_next?_ne_none more] at member
    rcases List.mem_cons.mp member with rfl | later
    · have nonempty : input.unread ≠ [] := fun ended => more (next?_of_unread_eq_nil ended)
      exact ⟨input.legible_read, (firstLexeme_read nonempty).kind_ne_endOfInput⟩
    · exact inductionHypothesis later

/-! ### Brackets -/

/-- The scope that an event leads to, from one in which it may happen. -/
inductive Event.Leads : Scope → Event → Scope → Prop where
  | passage (scope : Scope) (text : Text) : Leads scope (.passage text) scope
  | opening (kind : MacroKind) (name : Text) : Leads .outside (.opening kind name) .inside
  | closing : Leads .inside .closing .outside
  | reference (name : Text) : Leads .inside (.reference name) .inside
  | substitution (scope : Scope) (made : Substitution) : Leads scope (.substitution made) scope
  | directive (scope : Scope) (given : Directive) : Leads scope (.directive given) scope

theorem Event.Leads.scope_of_directive {before after : Scope} {given : Directive}
    (leads : Leads before (.directive given) after) : after = before := by
  cases leads
  rfl

theorem Event.Leads.scope_of_passage {before after : Scope} {text : Text}
    (leads : Leads before (.passage text) after) : after = before := by
  cases leads
  rfl

/-- The lists of events that lead from one scope to another. Bodies open and close in turn, and
references happen in bodies only. -/
inductive Event.Bracketed : Scope → List Event → Scope → Prop where
  | done (scope : Scope) : Bracketed scope [] scope
  | step {before between after : Scope} {event : Event} {events : List Event} :
      Leads before event between → Bracketed between events after →
        Bracketed before (event :: events) after

/-! ### Complaints -/

/-- The text of the token that a complaint is about. -/
inductive Complaint.About : Complaint → Text → Prop where
  | nested {text : Text} : Delimiter .macroStart text → About .nestedMacro text
  | dangling {text : Text} : Delimiter .macroEnd text → About .danglingMacroEnd text
  | homeless {text : Text} : Delimiter .macroReference text → About .referenceOutsideMacro text
  | unterminated : About .unterminatedMacro []
  | unsupported {text : Text} : Delimiter .specialDirective text →
      About (.undecoded (.unsupportedDirective text)) text

/-! ### What a token means -/

/-- What a token with the given text can mean in a scope. -/
inductive Meaning.Fits (scope : Scope) (text : Text) : Meaning → Prop where
  | ended : scope = .outside → text = [] → Fits scope text .ended
  | event {event : Event} {after : Scope} : text ≠ [] → event.spelling = text →
      event.Leads scope after → Fits scope text (.event event after)
  | refused {complaint : Complaint} : complaint.About text → Fits scope text (.refused complaint)

theorem Scope.meaning_of_decodeMacroStart {text name : Text} {kind : MacroKind}
    (decoded : Event.decodeMacroStart text = .ok (kind, name)) :
    Scope.outside.meaning .macroStart text = .event (.opening kind name) .inside := by
  rw [Scope.meaning, decoded, Meaning.decoded]

theorem Scope.meaning_of_decodeMacroReference {text name : Text}
    (decoded : Event.decodeMacroReference text = .ok name) :
    Scope.inside.meaning .macroReference text = .event (.reference name) .inside := by
  rw [Scope.meaning, decoded, Meaning.decoded]

theorem Scope.meaning_of_decodeSubstitution {text : Text} {made : Substitution}
    (decoded : Event.decodeSubstitution text = .ok made) (scope : Scope) :
    scope.meaning .textSubstitution text = .event (.substitution made) scope := by
  cases scope <;> rw [Scope.meaning, decoded, Meaning.decoded]

theorem Scope.meaning_of_decodeDirective {text : Text} {given : Directive}
    (decoded : Event.decodeDirective text = .ok given) (scope : Scope) :
    scope.meaning .specialDirective text = .event (.directive given) scope := by
  cases scope <;> rw [Scope.meaning, decoded, Meaning.decoded]

theorem Scope.meaning_of_unsupportedDirective {text : Text} {error : DecodeError}
    (undecoded : Event.decodeDirective text = .error error) (scope : Scope) :
    scope.meaning .specialDirective text = .refused (.undecoded error) := by
  cases scope <;> rw [Scope.meaning, undecoded, Meaning.decoded]

/-! ### The event that a token is -/

theorem Meaning.exists_of_decoded {α : Type} {result : Except DecodeError α} {meaning : α → Meaning}
    {event : Event} {after : Scope} (meant : decoded result meaning = .event event after) :
    ∃ value, result = .ok value ∧ meaning value = .event event after := by
  cases result with
  | ok value => exact ⟨value, rfl, meant⟩
  | error error => cases meant

/-- The tokens that are events in a scope, with the scopes that they lead to. -/
inductive Scope.Tells : Scope → TokenKind → Text → Event → Scope → Prop where
  | passage {scope : Scope} {text : Text} : Tells scope .passthrough text (.passage text) scope
  | opening {text : Text} {kind : MacroKind} {name : Text} :
      Event.decodeMacroStart text = .ok (kind, name) →
      Tells .outside .macroStart text (.opening kind name) .inside
  | closing {text : Text} : Tells .inside .macroEnd text .closing .outside
  | reference {text name : Text} : Event.decodeMacroReference text = .ok name →
      Tells .inside .macroReference text (.reference name) .inside
  | substitution {scope : Scope} {text : Text} {made : Substitution} :
      Event.decodeSubstitution text = .ok made →
      Tells scope .textSubstitution text (.substitution made) scope
  | directive {scope : Scope} {text : Text} {given : Directive} :
      Event.decodeDirective text = .ok given →
      Tells scope .specialDirective text (.directive given) scope

/-- A token that means an event is of the event's kind and reads as the event. -/
theorem Scope.tells_of_meaning {scope after : Scope} {kind : TokenKind} {text : Text}
    {event : Event} (meant : scope.meaning kind text = .event event after) :
    scope.Tells kind text event after := by
  cases kind with
  | endOfInput => cases scope <;> cases meant
  | macroStart =>
    cases scope with
    | outside =>
      obtain ⟨_, decoded, same⟩ := Meaning.exists_of_decoded meant
      cases same
      exact .opening decoded
    | inside => cases meant
  | macroEnd =>
    cases scope with
    | outside => cases meant
    | inside =>
      cases meant
      exact .closing
  | macroReference =>
    cases scope with
    | outside => cases meant
    | inside =>
      obtain ⟨_, decoded, same⟩ := Meaning.exists_of_decoded meant
      cases same
      exact .reference decoded
  | passthrough => cases scope <;> cases meant <;> exact .passage
  | textSubstitution =>
    have made : Meaning.decoded (Event.decodeSubstitution text)
        (fun made => .event (.substitution made) scope) = .event event after := by
      cases scope <;> exact meant
    obtain ⟨_, decoded, same⟩ := Meaning.exists_of_decoded made
    cases same
    exact .substitution decoded
  | specialDirective =>
    have given : Meaning.decoded (Event.decodeDirective text)
        (fun given => .event (.directive given) scope) = .event event after := by
      cases scope <;> exact meant
    obtain ⟨_, decoded, same⟩ := Meaning.exists_of_decoded given
    cases same
    exact .directive decoded

/-! ### What a delimiter decodes to -/

theorem Delimiter.decodeMacroStart {text : Text} (isStart : Delimiter .macroStart text) :
    ∃ (kind : MacroKind) (name : Text), Event.decodeMacroStart text = .ok (kind, name) ∧
      text = (Event.opening kind name).spelling := by
  obtain @⟨written, _, _, _⟩ := isStart
  obtain ⟨kind, name, rfl, bears⟩ := Event.exists_bears written
  have decoded := Event.decodeMacroStart_spelling bears
  exact ⟨kind, name, decoded, rfl⟩

theorem Delimiter.decodeMacroReference {text : Text}
    (isReference : Delimiter .macroReference text) :
    ∃ name : Text, Event.decodeMacroReference text = .ok name ∧ text = referenceSpelling name ∧
      name ≠ [] ∧ '>' ∉ name ∧ '\n' ∉ name := by
  obtain _ | @⟨name, nonempty, noMark, noBreak⟩ := isReference
  exact ⟨name, Event.decodeMacroReference_eq_ok_iff.mpr rfl, rfl, nonempty, noMark, noBreak⟩

theorem Delimiter.decodeSubstitution {text : Text}
    (isSubstitution : Delimiter .textSubstitution text) :
    ∃ made : Substitution, Event.decodeSubstitution text = .ok made ∧
      text = (Event.substitution made).spelling := by
  obtain _ | _ | _ | @⟨inner, _, _⟩ := isSubstitution
  obtain ⟨made, rfl, absent⟩ := Event.exists_inner inner
  have decoded := Event.decodeSubstitution_spelling absent
  exact ⟨made, decoded, rfl⟩

theorem Delimiter.decodeDirective {text : Text} (isDirective : Delimiter .specialDirective text) :
    (∃ given : Directive, text = (Event.directive given).spelling) ∨
      Event.decodeDirective text = .error (.unsupportedDirective text) := by
  obtain _ | _ | _ | _ | @⟨key, value, _, absent, _, _⟩ := isDirective
  have decoded := Event.decodeDirective_of_key absent value
  by_cases isInclusion : key = Text.ofString "include"
  · subst isInclusion
    exact .inl ⟨.inclusion value, rfl⟩
  by_cases isLanguage : key = Text.ofString "language"
  · subst isLanguage
    exact .inl ⟨.language value, rfl⟩
  · rw [if_neg isInclusion, if_neg isLanguage] at decoded
    exact .inr decoded

/-- A delimiter means an event that it is the spelling of, or it may not stand where it does. -/
theorem Delimiter.fits_meaning {kind : TokenKind} {text : Text} (isDelimiter : Delimiter kind text)
    (scope : Scope) : (scope.meaning kind text).Fits scope text := by
  have nonempty := isDelimiter.ne_nil
  cases kind with
  | endOfInput | passthrough => cases isDelimiter
  | macroStart =>
    cases scope with
    | outside =>
      obtain ⟨kind, name, decoded, spelled⟩ := isDelimiter.decodeMacroStart
      exact Scope.meaning_of_decodeMacroStart decoded ▸
        .event nonempty spelled.symm (.opening kind name)
    | inside => exact .refused (.nested isDelimiter)
  | macroReference =>
    cases scope with
    | outside => exact .refused (.homeless isDelimiter)
    | inside =>
      obtain ⟨name, decoded, spelled, _⟩ := isDelimiter.decodeMacroReference
      exact Scope.meaning_of_decodeMacroReference decoded ▸
        .event nonempty spelled.symm (.reference name)
  | macroEnd =>
    cases scope with
    | outside => exact .refused (.dangling isDelimiter)
    | inside =>
      cases isDelimiter
      exact .event nonempty rfl .closing
  | textSubstitution =>
    obtain ⟨made, decoded, spelled⟩ := isDelimiter.decodeSubstitution
    exact Scope.meaning_of_decodeSubstitution decoded scope ▸
      .event nonempty spelled.symm (.substitution scope made)
  | specialDirective =>
    rcases isDelimiter.decodeDirective with ⟨said, same⟩ | undecoded
    · have decoded := Event.decodeDirective_spelling said
      rw [← same] at decoded
      exact Scope.meaning_of_decodeDirective decoded scope ▸
        .event nonempty same.symm (.directive scope said)
    · exact Scope.meaning_of_unsupportedDirective undecoded scope ▸
        .refused (.unsupported isDelimiter)

/-- What reading finds fits its scope, or is complained about. -/
theorem Legible.fits_meaning {kind : TokenKind} {text : Text} (legible : Legible kind text)
    (scope : Scope) : (scope.meaning kind text).Fits scope text := by
  cases legible with
  | ended =>
    cases scope with
    | outside => exact .ended rfl rfl
    | inside => exact .refused .unterminated
  | passage nonempty => cases scope <;> exact .event nonempty rfl (.passage _ text)
  | delimiter isDelimiter => exact isDelimiter.fits_meaning scope

end Literate

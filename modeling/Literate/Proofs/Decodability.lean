/-
This file proves that no document is malformed. A decoder accepts any text and refuses
one that lacks the markers of its delimiter; but the only texts it is ever given are those
of tokens, and reading gives a token its kind only if the text is a delimiter of that kind.
The two sides are written apart: reading goes character by character and stops at the
first one that breaks a shape, a decoder looks for markers at both ends and for the first
separator between them. Here they are shown to agree on every delimiter.

So whatever was read and exchanged before, a token decodes, except that the key of a
directive may be unknown; and of all complaints that a run can end with, the only one that
comes from a decoder is the one about such a directive.
-/

import Literate.Proofs.Lexing
import Literate.Proofs.Steps
import Literate.Switchboard

namespace Literate

/-! ### Tokens that decode -/

/-- Each decoder accepts a token of its kind; of a directive the key may be unknown. -/
structure Token.Decodes (token : Token) : Prop where
  macroStart : token.kind = .macroStart →
    ∃ kind name, Event.decodeMacroStart token.text = .ok (kind, name)
  macroReference : token.kind = .macroReference →
    ∃ name, Event.decodeMacroReference token.text = .ok name ∧
      name ≠ [] ∧ '>' ∉ name ∧ '\n' ∉ name
  textSubstitution : token.kind = .textSubstitution →
    ∃ made, Event.decodeSubstitution token.text = .ok made
  specialDirective : token.kind = .specialDirective →
    (∃ given, Event.decodeDirective token.text = .ok given) ∨
      Event.decodeDirective token.text = .error (.unsupportedDirective token.text)

theorem Legible.delimiter_of_kind {kind : TokenKind} {text : Text} (legible : Legible kind text)
    (noEnd : kind ≠ .endOfInput) (noText : kind ≠ .passthrough) : Delimiter kind text := by
  cases legible with
  | ended => exact absurd rfl noEnd
  | passage => exact absurd rfl noText
  | delimiter isDelimiter => exact isDelimiter

/-- A legible token decodes. -/
theorem Token.decodes_of_legible {token : Token} (legible : Legible token.kind token.text) :
    token.Decodes where
  macroStart isStart := by
    rw [isStart] at legible
    obtain ⟨kind, name, decoded, _⟩ := (legible.delimiter_of_kind nofun nofun).decodeMacroStart
    exact ⟨kind, name, decoded⟩
  macroReference isReference := by
    rw [isReference] at legible
    obtain ⟨name, decoded, _, free⟩ := (legible.delimiter_of_kind nofun nofun).decodeMacroReference
    exact ⟨name, decoded, free⟩
  textSubstitution isSubstitution := by
    rw [isSubstitution] at legible
    obtain ⟨made, decoded, _⟩ := (legible.delimiter_of_kind nofun nofun).decodeSubstitution
    exact ⟨made, decoded⟩
  specialDirective isDirective := by
    rw [isDirective] at legible
    rcases (legible.delimiter_of_kind nofun nofun).decodeDirective with ⟨given, same⟩ | undecoded
    · exact .inl ⟨given, same ▸ Event.decodeDirective_spelling given⟩
    · exact .inr undecoded

/-! ### Complaints about what was decoded -/

/-- A complaint that comes from a decoder is about a directive whose key is not known. -/
def Verdict.OnlyUnsupported (verdict : Verdict) : Prop :=
  ∀ position error, verdict = .failed ⟨position, .undecoded error⟩ →
    ∃ raw, error = .unsupportedDirective raw ∧ Delimiter .specialDirective raw

namespace Run

variable {σ : Type}

theorem onlyUnsupported_of_ended {sink : Sink σ} {run : Run σ} {outcome : Outcome σ}
    (made : run.step sink = .ended outcome) : outcome.verdict.OnlyUnsupported := by
  intro position error failed
  have taken := taken_step sink run
  rw [made] at taken
  cases taken with
  | rejected => cases failed
  | completed => cases failed
  | refused about =>
    cases failed
    obtain _ | _ | _ | _ | isDirective := about
    exact ⟨_, rfl, isDirective⟩

theorem onlyUnsupported_go (sink : Sink σ) (bound : Nat) (run : Run σ) :
    (run.go sink bound).verdict.OnlyUnsupported :=
  go_of_invariant (fun _ => True) (fun outcome => outcome.verdict.OnlyUnsupported)
    (fun _ _ => trivial) (fun _ made => onlyUnsupported_of_ended made) (fun _ => nofun) bound
    trivial

end Run

/-! ### Nothing is malformed -/

/-- No document is malformed. Whatever was read and exchanged before, the token read next decodes:
a macro start, a reference to a name without `>` and newline, and a substitution always, and a
directive unless its key is unknown, which is then reported with the whole text. So whatever a run
reads, and whatever its sink opens, the only complaint from a decoder that it can end with is
about a directive with an unknown key. -/
theorem undecoded_unsupportedDirective (source : Source) (commands : List Switchboard.Command) :
    let board := (Switchboard.ofSource source).performAll commands
    (∃ token after, board.perform .read = (.token token, after) ∧ token.Decodes) ∧
      ∀ (σ : Type) (processor : Processor σ) (sink : Sink σ) (bound : Nat) (state : σ)
        (position : Position) (error : DecodeError),
        (processor.runWith sink bound state).1.verdict = .failed ⟨position, .undecoded error⟩ →
          ∃ raw, error = .unsupportedDirective raw ∧ Delimiter .specialDirective raw := by
  intro board
  have decodes : board.lexer.read.1.Decodes := by
    rw [board.lexer.token_read]
    exact Token.decodes_of_legible board.installed.legible_read
  refine ⟨⟨_, _, rfl, decodes⟩, ?_⟩
  intro σ processor sink bound state
  exact Run.onlyUnsupported_go sink bound ⟨processor.inputs, .outside, state⟩

/-- Behind a substitution with a newline, a bracket and two separators stands a directive with an
unknown key and one separator more than it needs. -/
theorem undecoded_unsupportedDirective_many_separators :
    let raw : Text := ['#', '[', 'i', '=', '=', ']']
    let source : Source := ⟨['d'], ['%', '[', 'k', '[', '\n', '=', 'v', '=', ']', '%'] ++ raw⟩
    let board := (Switchboard.ofSource source).performAll [.read]
    (∃ token after, board.perform .read = (.token token, after) ∧ token.text = raw ∧
      token.Decodes) ∧ Delimiter .specialDirective raw := by
  intro raw source board
  obtain ⟨⟨token, after, performed, decodes⟩, onlyUnsupported⟩ :=
    undecoded_unsupportedDirective source [.read]
  have failed : (Processor.runWith { inputs := .ofSource source } .recording 17 []).1.verdict =
      .failed ⟨⟨['d'], 2, 6, 2, 11⟩, .undecoded (.unsupportedDirective raw)⟩ := by decide
  obtain ⟨_, same, isDirective⟩ := onlyUnsupported _ _ _ _ _ _ _ failed
  cases same
  refine ⟨⟨token, after, performed, ?_, decodes⟩, isDirective⟩
  cases performed
  decide

end Literate

/-
This file proves that tangling is textual substitution over the tokens of a document.
Nothing is said here of scopes, events or chains. The names of the table are those of the
tokens that start a body; the tokens that count for a name are the text and the
references between such a token and the end of the body; and the evaluation of the name
is written together from what these tokens stand for: text stands for itself, a reference
to a defined macro for the evaluation of that macro, and any other reference for the way
it is written.

The run over the document has walked over its tokens. A walk that comes to the end of the
document has told every token, so that the fragments among the events are read off the
tokens that count.
-/

import Literate.Proofs.Bodies
import Literate.Proofs.Lockstep
import Literate.Proofs.Substitution

namespace Literate

/-! ### Bodies among tokens -/

namespace Token

/-- The name of the body that a token starts. -/
def openedName? (token : Token) : Option Text :=
  match token.kind, Event.decodeMacroStart token.text with
  | .macroStart, .ok (_, name) => some name
  | _, _ => none

/-- The text and the references up to the end of a body. -/
def enclosed (tokens : List Token) : List Token :=
  (tokens.takeWhile fun token => token.kind ≠ .macroEnd).filter fun token =>
    token.kind = .passthrough ∨ token.kind = .macroReference

/-- The text and the references in all bodies of a name, in the order of the document. -/
def bodies (name : Text) : List Token → List Token
  | [] => []
  | token :: tokens =>
    (if token.openedName? = some name then enclosed tokens else []) ++ bodies name tokens

/-- The text that a token in a body stands for in a table. -/
inductive StandsFor (table : MacroTable) (token : Token) : Text → Prop where
  | passage : token.kind = .passthrough → StandsFor table token token.text
  | expanded {name text : Text} : token.kind = .macroReference →
      Event.decodeMacroReference token.text = .ok name → table.evaluate name = .ok text →
      StandsFor table token text
  | unresolved {name : Text} : token.kind = .macroReference →
      Event.decodeMacroReference token.text = .ok name → name ∉ table.names →
      token.text = referenceSpelling name → StandsFor table token token.text

/-! ### Tokens and fragments -/

/-- A token in a body reads as a fragment. -/
inductive ReadsAs : Token → Fragment → Prop where
  | passage {text : Text} {position : Position} :
      ReadsAs ⟨.passthrough, text, position⟩ (.literal text)
  | reference {text name : Text} {position : Position} :
      Event.decodeMacroReference text = .ok name →
      ReadsAs ⟨.macroReference, text, position⟩ (.reference name)

theorem ReadsAs.standsFor_iff {table : MacroTable} {token : Token} {fragment : Fragment}
    (reads : token.ReadsAs fragment) (text : Text) :
    token.StandsFor table text ↔ fragment.StandsFor table text := by
  cases reads with
  | passage =>
    constructor
    · rintro (_ | ⟨⟨⟩, _⟩ | ⟨⟨⟩, _⟩)
      exact .literal _
    · rintro ⟨⟩
      exact .passage rfl
  | @reference raw name position decoded =>
    have spelled : raw = referenceSpelling name :=
      Event.decodeMacroReference_eq_ok_iff.mp decoded
    constructor
    · intro stands
      cases stands with
      | passage isText => cases isText
      | expanded _ decodedToo succeeds =>
        cases decoded.symm.trans decodedToo
        exact .expanded succeeds
      | unresolved _ decodedToo absent =>
        cases decoded.symm.trans decodedToo
        exact spelled ▸ .unresolved absent
    · intro stands
      cases stands with
      | expanded succeeds => exact .expanded rfl decoded succeeds
      | unresolved absent => exact spelled ▸ .unresolved rfl decoded absent spelled

/-- A token that reads as a fragment counts in an open body. -/
theorem ReadsAs.enclosed_cons {token : Token} {fragment : Fragment}
    (reads : token.ReadsAs fragment) (tokens : List Token) :
    enclosed (token :: tokens) = token :: enclosed tokens := by
  cases reads <;> simp [enclosed]

theorem standsFor_iff_of_reads {table : MacroTable} {tokens : List Token}
    {fragments : List Fragment} (reads : List.Forall₂ ReadsAs tokens fragments)
    (pieces : List Text) :
    List.Forall₂ (StandsFor table) tokens pieces ↔
      List.Forall₂ (Fragment.StandsFor table) fragments pieces := by
  induction reads generalizing pieces with
  | nil => rw [List.forall₂_nil_left_iff, List.forall₂_nil_left_iff]
  | cons first _ inductionHypothesis =>
    rw [List.forall₂_cons_left_iff, List.forall₂_cons_left_iff]
    simp only [first.standsFor_iff, inductionHypothesis]

end Token

/-! ### Walks and bodies -/

namespace Token

variable {scope after : Scope} {token : Token} {event : Event}

theorem openedName?_of_meaning
    (meant : scope.meaning token.kind token.text = .event event after) :
    token.openedName? = event.openedName? := by
  obtain ⟨kind, text, position⟩ := token
  cases Scope.tells_of_meaning meant with
  | opening decoded => simp [openedName?, decoded, Event.openedName?]
  | passage | closing | reference | substitution | directive => rfl

/-- A body is open after a token exactly if the token has led to the inside of one. -/
theorem isOpen_of_meaning (meant : scope.meaning token.kind token.text = .event event after)
    {current : Option Text} (isOpen : scope = .inside ↔ current.isSome) :
    after = .inside ↔ (Event.openAfter current event).isSome := by
  obtain ⟨kind, text, position⟩ := token
  cases Scope.tells_of_meaning meant with
  | opening | closing => simp [Event.openAfter]
  | passage | reference | substitution | directive => exact isOpen

/-- A token that is an event adds to what counts for a name what the event adds to the fragments
of that name. -/
theorem reads_of_meaning (meant : scope.meaning token.kind token.text = .event event after)
    {current : Option Text} (isOpen : scope = .inside ↔ current.isSome) (name : Text)
    (tokens : List Token) :
    ∃ read, List.Forall₂ ReadsAs read
        (if current = some name then event.fragment?.toList else []) ∧
      (if current = some name then enclosed (token :: tokens) else []) ++
          bodies name (token :: tokens) =
        read ++ ((if Event.openAfter current event = some name then enclosed tokens else []) ++
          bodies name tokens) := by
  rw [bodies, openedName?_of_meaning meant]
  obtain ⟨kind, text, position⟩ := token
  have counted {token : Token} {fragment : Fragment} (reads : token.ReadsAs fragment) :
      ∃ read, List.Forall₂ ReadsAs read (if current = some name then [fragment] else []) ∧
        (if current = some name then enclosed (token :: tokens) else []) ++ bodies name tokens =
          read ++ ((if current = some name then enclosed tokens else []) ++ bodies name tokens) := by
    by_cases same : current = some name
    · exact ⟨[token], by simpa [same] using reads, by simp [same, reads.enclosed_cons]⟩
    · exact ⟨[], by simp [same], by simp [same]⟩
  cases Scope.tells_of_meaning meant with
  | passage => exact counted .passage
  | reference decoded => exact counted (.reference decoded)
  | opening decoded =>
    have closed : current = none := by simpa using isOpen
    exact ⟨[], by simp [closed], by simp [closed, Event.openedName?, Event.openAfter]⟩
  | closing | substitution | directive =>
    exact ⟨[], by simp [Event.fragment?], by simp [enclosed, Event.openedName?, Event.openAfter]⟩

end Token

namespace Walk

variable {names : List Text} {ending : Position} {scope : Scope} {tokens : List Token}
  {events : List Event} {result : Option RunError}

theorem openedName?_eq (walk : Walk .nothing names ending scope [] tokens events result)
    (completes : result = none) :
    tokens.filterMap Token.openedName? = events.filterMap Event.openedName? := by
  induction walk using Walk.nothing_induction with
  | ended => rfl
  | unterminated => cases completes
  | refused => cases completes
  | event meant _ inductionHypothesis =>
    rw [List.filterMap_cons, List.filterMap_cons, Token.openedName?_of_meaning meant,
      inductionHypothesis completes]

/-- Where a body is open, what counts for a name is the rest of that body, if it has the name, and
then all later bodies of the name. It reads as the fragments that the walk tells. -/
theorem reads (walk : Walk .nothing names ending scope [] tokens events result)
    (completes : result = none) {current : Option Text}
    (isOpen : scope = .inside ↔ current.isSome) (name : Text) :
    List.Forall₂ Token.ReadsAs
      ((if current = some name then Token.enclosed tokens else []) ++ Token.bodies name tokens)
      (Event.fragmentsOf name current events) := by
  induction walk using Walk.nothing_induction generalizing current with
  | ended => simp [Token.enclosed, Token.bodies, Event.fragmentsOf]
  | unterminated => cases completes
  | refused => cases completes
  | @event scope after token tokens event events result meant _ inductionHypothesis =>
    obtain ⟨read, reads, split⟩ := Token.reads_of_meaning meant isOpen name tokens
    rw [split, Event.fragmentsOf]
    have readsOn := inductionHypothesis completes (Token.isOpen_of_meaning meant isOpen)
    exact List.rel_append reads readsOn

end Walk

/-- What counts for a name among the tokens of a source reads as the fragments of the name. -/
theorem Source.Walks.reads {source : Source} {events : List Event}
    (walks : source.Walks .nothing events none) (name : Text) :
    List.Forall₂ Token.ReadsAs (Token.bodies name source.tokens)
      (Event.fragmentsOf name none events) := by
  have outside : Scope.outside = .inside ↔ (none : Option Text).isSome := by simp
  simpa using Walk.reads walks rfl outside name

/-! ### Tangling -/

/-- Tangling is textual substitution over the tokens of a document. After a run over a source
that completes, the table has the names of the tokens that start a body, each once, in order of
first occurrence. Such a name evaluates to a text exactly if the text is what the tokens in the
bodies of the name stand for, one after the other. What stands outside of bodies, substitutions
and directives have no part in it. -/
theorem runWith_substitutes (source : Source) (bound : Nat) :
    let ran := (Processor.runWith { inputs := .ofSource source }
      (.observing MacroTable.Builder.observe) bound .start).1
    let table := ran.state.table
    ran.verdict = .completed →
      table.names = (source.tokens.filterMap Token.openedName?).eraseDups ∧
      ∀ name ∈ table.names, ∀ text, table.evaluate name = .ok text ↔
        ∃ pieces, List.Forall₂ (Token.StandsFor table) (Token.bodies name source.tokens) pieces ∧
          text = pieces.flatten := by
  intro ran table completes
  have ends : ran.verdict ≠ .exhausted := by simp [completes]
  obtain ⟨events, result, walks, verdict, observed⟩ := Source.exists_walks
    (Sink.observing_matches MacroTable.Builder.observe .start) rfl ends
  obtain rfl : result = none := Verdict.ofResult_injective (verdict.symm.trans completes)
  have built : table = .ofEvents events := congrArg MacroTable.Builder.table observed
  obtain ⟨names, fragments⟩ := MacroTable.get?_ofEvents events
  rw [built]
  refine ⟨names.trans (walks.openedName?_eq rfl ▸ rfl), fun name isDefined text => ?_⟩
  obtain ⟨body, found⟩ := MacroTable.exists_get?_iff.mpr isDefined
  have sameBody : body = Event.fragmentsOf name none events := by
    rw [← fragments name, found, Option.getD_some]
  have reads := sameBody ▸ walks.reads name
  rw [MacroTable.evaluate_eq_ok_iff found]
  simp only [Token.standsFor_iff_of_reads reads]

/-- The bodies of one name are split around another one and marked differently, a reference
points forward, one is unresolved, and a substitution leaves no trace. -/
theorem runWith_substitutes_split_bodies :
    let source : Source := ⟨['d'], Event.document
      [.passage ['x'], .opening .file ['a'], .passage ['1'], .reference ['b'], .closing,
        .opening .plain ['b'], .passage ['2'], .substitution (.placeholder ['k']), .closing,
        .opening .plain ['a'], .reference ['u'], .passage ['3'], .closing]⟩
    let table : MacroTable := ⟨[
      (['a'], #[.literal ['1'], .reference ['b'], .reference ['u'], .literal ['3']]),
      (['b'], #[.literal ['2']])]⟩
    (Processor.runWith { inputs := .ofSource source } (.observing MacroTable.Builder.observe) 20
      .start).1.verdict = .completed ∧
      (source.tokens.filterMap Token.openedName?).eraseDups = [['a'], ['b']] ∧
      ∃ pieces, List.Forall₂ (Token.StandsFor table) (Token.bodies ['a'] source.tokens) pieces ∧
        ['1', '2', '<', '<', 'u', '>', '>', '3'] = pieces.flatten := by
  intro source table
  have completes : (Processor.runWith { inputs := .ofSource source }
      (.observing MacroTable.Builder.observe) 20 .start).1.verdict = .completed := by decide
  have built : (Processor.runWith { inputs := .ofSource source }
      (.observing MacroTable.Builder.observe) 20 .start).1.state.table = table := by decide
  have evaluated : table.evaluate ['a'] = .ok ['1', '2', '<', '<', 'u', '>', '>', '3'] := by cbv
  obtain ⟨names, evaluates⟩ := runWith_substitutes source 20 completes
  rw [built] at names evaluates
  exact ⟨completes, names.symm, (evaluates ['a'] (by decide) _).mp evaluated⟩

end Literate

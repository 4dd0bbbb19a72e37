/-
This file proves that reading undoes writing. A list of events is written as the
document of its spellings. Where every event can be written, the list is well
bracketed, and no reference runs into a text that starts with `=`, running over the
document completes and tells the same events again. Only text comes back in smaller
pieces, since plain text is read character by character; joined again it is the
text that was written.

The proof goes event by event. Each spelling in front of the rest of the document is
read as one token, whatever the rest is, and the token means the event; a text is
read as one token for each of its characters.
-/

import Literate.Proofs.Lossless
import Mathlib.Data.List.Chain

namespace Literate

namespace Event

/-! ### Events that can be written -/

/-- The events whose spelling says what they are. -/
def Writable : Event → Prop
  | .passage text => text ≠ [] ∧ ∀ character ∈ text, character ∉ ['<', '>', '%', '#']
  | .opening kind name =>
    kind.Bears name ∧ (kind = .plain → name ≠ []) ∧ '>' ∉ name ∧ '\n' ∉ name
  | .closing => True
  | .reference name => name ≠ [] ∧ '>' ∉ name ∧ '\n' ∉ name
  | .substitution (.placeholder key) => key ≠ [] ∧ '=' ∉ key ∧ ']' ∉ key
  | .substitution (.assignment key value) => '=' ∉ key ∧ ']' ∉ key ∧ ']' ∉ value
  | .directive given => given.value ≠ [] ∧ ']' ∉ given.value

instance : DecidablePred Writable
  | .passage text => @instDecidableAnd _ _ inferInstance (List.decidableBAll _ text)
  | .opening kind name =>
    inferInstanceAs
      (Decidable (kind.Bears name ∧ (kind = .plain → name ≠ []) ∧ '>' ∉ name ∧ '\n' ∉ name))
  | .closing => .isTrue trivial
  | .reference name => inferInstanceAs (Decidable (name ≠ [] ∧ '>' ∉ name ∧ '\n' ∉ name))
  | .substitution (.placeholder key) =>
    inferInstanceAs (Decidable (key ≠ [] ∧ '=' ∉ key ∧ ']' ∉ key))
  | .substitution (.assignment key value) =>
    inferInstanceAs (Decidable ('=' ∉ key ∧ ']' ∉ key ∧ ']' ∉ value))
  | .directive given => inferInstanceAs (Decidable (given.value ≠ [] ∧ ']' ∉ given.value))

/-- The events that may directly follow an event: a text that starts with `=` may not follow a
reference, for the two together would be read as the start of a macro. -/
def MayPrecede : Event → Event → Prop
  | .reference _, .passage text => text.head? ≠ some '='
  | _, _ => True

/-! ### Texts in pieces -/

/-- An event as it is told by a run: text is told character by character. -/
def pieces : Event → List Event
  | .passage text => text.map fun character => .passage [character]
  | event => [event]

/-- Puts an event in front of others; two texts that meet become one. -/
def joined : Event → List Event → List Event
  | .passage text, .passage more :: events => .passage (text ++ more) :: events
  | event, events => event :: events

/-- Events with neighbouring texts joined. -/
def merged (events : List Event) : List Event := events.foldr joined []

theorem pieces_of_ne_passage {event : Event} (noText : ∀ text, event ≠ .passage text) :
    event.pieces = [event] := by
  cases event with
  | passage text => exact absurd rfl (noText text)
  | opening | closing | reference | substitution | directive => rfl

theorem document_cons (event : Event) (events : List Event) :
    document (event :: events) = event.spelling ++ document events := List.flatMap_cons

theorem joined_passage_append (text more : Text) (events : List Event) :
    joined (.passage (text ++ more)) events =
      joined (.passage text) (joined (.passage more) events) := by
  cases events with
  | nil => rfl
  | cons event events =>
    cases event with
    | passage => rw [joined, joined, joined, List.append_assoc]
    | opening | closing | reference | substitution | directive => rfl

theorem foldr_joined_pieces {event : Event} (nonempty : event ≠ .passage [])
    (events : List Event) : event.pieces.foldr joined events = joined event events := by
  cases event with
  | passage text =>
    obtain ⟨first, rest, rfl⟩ := List.exists_cons_of_ne_nil fun empty => nonempty (empty ▸ rfl)
    clear nonempty
    induction rest generalizing first with
    | nil => rfl
    | cons second rest inductionHypothesis =>
      rw [show first :: second :: rest = [first] ++ second :: rest from rfl, joined_passage_append,
        ← inductionHypothesis]
      rfl
  | opening | closing | reference | substitution | directive => rfl

/-- Joined again, the pieces of events are the events with their texts joined. -/
theorem merged_flatMap_pieces {events : List Event} (nonempty : .passage [] ∉ events) :
    merged (events.flatMap pieces) = merged events := by
  induction events with
  | nil => rfl
  | cons event events inductionHypothesis =>
    have notFirst : event ≠ .passage [] := fun same => nonempty (same ▸ List.mem_cons_self)
    rw [merged, List.flatMap_cons, List.foldr_append, foldr_joined_pieces notFirst]
    exact congrArg (joined event)
      (inductionHypothesis fun behind => nonempty (List.mem_cons_of_mem event behind))

theorem length_pieces_le {event : Event} : event.pieces.length ≤ event.spelling.length := by
  cases event with
  | passage text => exact Nat.le_of_eq (List.length_map _)
  | opening | closing | reference | substitution | directive =>
    exact Nat.le_add_left 1 _

theorem length_flatMap_pieces_le (events : List Event) :
    (events.flatMap pieces).length ≤ (document events).length := by
  induction events with
  | nil => exact Nat.le_refl 0
  | cons event events inductionHypothesis =>
    rw [document_cons, List.flatMap_cons, List.length_append, List.length_append]
    exact Nat.add_le_add length_pieces_le inductionHypothesis

/-! ### Spellings as delimiters -/

theorem marker_free (kind : MacroKind) : '>' ∉ kind.marker ∧ '\n' ∉ kind.marker := by
  cases kind <;> decide

theorem key_free (given : Directive) :
    Text.ofString given.key ≠ [] ∧ '=' ∉ Text.ofString given.key := by
  cases given with
  | inclusion path =>
    show Text.ofString "include" ≠ [] ∧ '=' ∉ Text.ofString "include"
    decide
  | language name =>
    show Text.ofString "language" ≠ [] ∧ '=' ∉ Text.ofString "language"
    decide

theorem writable_inner {made : Substitution} (writable : (Event.substitution made).Writable) :
    '=' ∉ made.key ∧ made.inner ≠ [] ∧ ']' ∉ made.inner := by
  cases made with
  | placeholder key =>
    obtain ⟨nonempty, keyFree, noMark⟩ := writable
    exact ⟨keyFree, nonempty, noMark⟩
  | assignment key value =>
    obtain ⟨keyFree, keyMark, valueMark⟩ := writable
    refine ⟨keyFree, List.append_ne_nil_of_right_ne_nil key (List.cons_ne_nil _ _), ?_⟩
    intro member
    rcases List.mem_append.mp member with inKey | behind
    · exact keyMark inKey
    · exact valueMark ((List.mem_cons.mp behind).resolve_left (by decide))

/-- The spelling of an event that is no text is a delimiter, and means the event. -/
theorem Writable.delimiter {event : Event} (writable : event.Writable)
    (noText : ∀ text, event ≠ .passage text) :
    ∃ kind, Delimiter kind event.spelling ∧
      (kind = .macroReference → ∃ name, event = .reference name) ∧
      ∀ {scope after : Scope}, event.Leads scope after →
        scope.meaning kind event.spelling = .event event after := by
  cases event with
  | passage text => exact absurd rfl (noText text)
  | opening kind name =>
    obtain ⟨bears, nonempty, noMark, noBreak⟩ := writable
    obtain ⟨markerMark, markerBreak⟩ := marker_free kind
    have someName : kind.marker ++ name ≠ [] := by
      cases kind with
      | plain => exact nonempty rfl
      | file => exact List.cons_ne_nil _ _
      | sectional => exact List.cons_ne_nil _ _
      | root => exact bears ▸ List.cons_ne_nil _ _
    refine ⟨.macroStart, .macroStart someName ?_ ?_, nofun, ?_⟩
    · exact fun member => (List.mem_append.mp member).elim markerMark noMark
    · exact fun member => (List.mem_append.mp member).elim markerBreak noBreak
    · rintro _ _ ⟨⟩
      exact Scope.meaning_of_decodeMacroStart (decodeMacroStart_spelling bears)
  | closing =>
    refine ⟨.macroEnd, .macroEnd, nofun, ?_⟩
    rintro _ _ ⟨⟩
    rfl
  | reference name =>
    obtain ⟨nonempty, noMark, noBreak⟩ := writable
    refine ⟨.macroReference, .macroReference nonempty noMark noBreak, fun _ => ⟨name, rfl⟩, ?_⟩
    rintro _ _ ⟨⟩
    exact Scope.meaning_of_decodeMacroReference (decodeMacroReference_eq_ok_iff.mpr rfl)
  | substitution made =>
    obtain ⟨keyFree, nonempty, noMark⟩ := writable_inner writable
    refine ⟨.textSubstitution, .textSubstitution nonempty noMark, nofun, ?_⟩
    rintro scope _ ⟨⟩
    exact Scope.meaning_of_decodeSubstitution (decodeSubstitution_spelling keyFree) scope
  | directive given =>
    obtain ⟨nonempty, noMark⟩ := writable
    obtain ⟨someKey, keyFree⟩ := key_free given
    refine ⟨.specialDirective, .specialDirective someKey keyFree nonempty noMark, nofun, ?_⟩
    rintro scope _ ⟨⟩
    exact Scope.meaning_of_decodeDirective (decodeDirective_spelling given) scope

/-- A document starts with `=` only if its first event is a text that does. -/
theorem passage_of_document {events : List Event} (writable : ∀ event ∈ events, event.Writable)
    {later : Text} (starts : document events = '=' :: later) :
    ∃ text behind, events = .passage ('=' :: text) :: behind := by
  cases events with
  | nil => cases starts
  | cons event events =>
    have writableFirst := writable event List.mem_cons_self
    rw [document_cons] at starts
    cases event with
    | passage text =>
      obtain ⟨first, text, rfl⟩ := List.exists_cons_of_ne_nil writableFirst.1
      obtain ⟨rfl, _⟩ := List.cons_eq_cons.mp starts
      exact ⟨text, events, rfl⟩
    | opening | closing | reference | substitution | directive =>
      exact absurd (List.cons_eq_cons.mp starts).1 (by decide)

end Event

/-! ### Reading a spelling -/

namespace Input

theorem read_of_scan {input : Input} (underway : input.Underway) {kind : TokenKind} {first : Char}
    {word rest : Text} (more : input.unread = first :: (word ++ rest))
    (scanned : Lexeme.scan first (word ++ rest) = ⟨kind, first :: word⟩) :
    input.read.1.kind = kind ∧ input.read.1.text = first :: word ∧
      input.read.2.unread = rest := by
  obtain ⟨after, found, behind⟩ := next?_of_unread more
  have lexeme := lexeme_read found
  rw [behind, scanned] at lexeme
  obtain ⟨sameKind, sameText⟩ := Lexeme.mk.injEq .. ▸ lexeme
  have split := underway.unread_read
  rw [more, sameText, ← List.cons_append] at split
  exact ⟨sameKind, sameText, (List.append_cancel_left split).symm⟩

end Input

namespace Run

variable {σ : Type} {observe : σ → Event → σ}

/-! ### Runs over a document -/

/-- A run has come to another one after so many steps. -/
def Comes (sink : Sink σ) (run next : Run σ) (count : Nat) : Prop :=
  ∀ bound, run.go sink (count + bound) = next.go sink bound

theorem comes_refl (sink : Sink σ) (run : Run σ) : Comes sink run run 0 := by
  intro bound
  rw [Nat.zero_add]

theorem Comes.trans {sink : Sink σ} {first second third : Run σ} {count more : Nat}
    (earlier : Comes sink first second count) (later : Comes sink second third more) :
    Comes sink first third (count + more) := by
  intro bound
  rw [Nat.add_assoc, earlier, later]

theorem comes_of_step {sink : Sink σ} {run next : Run σ} (made : run.step sink = .running next) :
    Comes sink run next 1 := by
  intro bound
  rw [Nat.add_comm, go, made]

theorem step_of_meaning {run : Run σ} {event : Event} {after : Scope}
    (meant : run.scope.meaning run.inputs.read.1.kind run.inputs.read.1.text =
      .event event after) :
    run.step (.observing observe) =
      .running ⟨run.inputs.read.2, after, observe run.state event⟩ := by
  simp only [step, meant]
  cases event <;> rfl

/-- A run reads its only input and has this text in front of it. -/
structure Faces (run : Run σ) (text : Text) : Prop where
  underway : run.inputs.All Input.Underway
  alone : run.inputs.suspended = []
  unread : run.inputs.current.unread = text

variable (observe)

/-- A token that means an event is told to the observer, and the run faces what is behind it. -/
theorem Faces.told {run : Run σ} {kind : TokenKind} {first : Char} {word rest : Text}
    {event : Event} {after : Scope} (faces : run.Faces (first :: (word ++ rest)))
    (scanned : Lexeme.scan first (word ++ rest) = ⟨kind, first :: word⟩)
    (meant : run.scope.meaning kind (first :: word) = .event event after) :
    ∃ next : Run σ, Comes (.observing observe) run next 1 ∧ next.Faces rest ∧
      next.scope = after ∧ next.state = observe run.state event := by
  obtain ⟨sameKind, sameText, behind⟩ :=
    Input.read_of_scan faces.underway.1 faces.unread scanned
  have made : run.step (.observing observe) =
      .running ⟨run.inputs.read.2, after, observe run.state event⟩ := by
    refine step_of_meaning ?_
    rw [show run.inputs.read.1.kind = kind from sameKind,
      show run.inputs.read.1.text = first :: word from sameText, meant]
  exact ⟨_, comes_of_step made,
    ⟨Inputs.read_of_all (fun _ underway => underway.read) faces.underway, faces.alone, behind⟩,
    rfl, rfl⟩

/-- A text is told character by character. -/
theorem Faces.told_text {run : Run σ} {text rest : Text} (faces : run.Faces (text ++ rest))
    (plain : ∀ character ∈ text, character ∉ ['<', '>', '%', '#']) :
    ∃ next : Run σ, Comes (.observing observe) run next text.length ∧ next.Faces rest ∧
      next.scope = run.scope ∧
      next.state = (Event.passage text).pieces.foldl observe run.state := by
  induction text generalizing run with
  | nil => exact ⟨run, comes_refl _ run, faces, rfl, rfl⟩
  | cons first text inductionHypothesis =>
    obtain ⟨plainFirst, plainRest⟩ := List.forall_mem_cons.mp plain
    have meant : run.scope.meaning .passthrough [first] = .event (.passage [first]) run.scope := by
      cases run.scope <;> rfl
    have facesFirst : run.Faces (first :: ([] ++ (text ++ rest))) := faces
    obtain ⟨between, came, facing, sameScope, sameState⟩ :=
      facesFirst.told observe (scan_plain plainFirst _) meant
    obtain ⟨next, cameOn, facingRest, nextScope, nextState⟩ := inductionHypothesis facing plainRest
    refine ⟨next, ?_, facingRest, nextScope.trans sameScope, ?_⟩
    · rw [List.length_cons, Nat.add_comm]
      exact came.trans cameOn
    · rw [nextState, sameState]
      rfl

/-- A written event is told as its pieces, whatever is written behind it. -/
theorem Faces.told_event {run : Run σ} {event : Event} {rest : Text} {after : Scope}
    (faces : run.Faces (event.spelling ++ rest)) (writable : event.Writable)
    (apart : ∀ name, event = .reference name → ∀ later, rest ≠ '=' :: later)
    (leads : event.Leads run.scope after) :
    ∃ next : Run σ, Comes (.observing observe) run next event.pieces.length ∧ next.Faces rest ∧
      next.scope = after ∧ next.state = event.pieces.foldl observe run.state := by
  by_cases isText : ∃ text, event = .passage text
  · obtain ⟨text, rfl⟩ := isText
    obtain ⟨next, came, facing, sameScope, sameState⟩ := faces.told_text observe writable.2
    refine ⟨next, ?_, facing, sameScope.trans leads.scope_of_passage.symm, sameState⟩
    rw [Event.pieces, List.length_map]
    exact came
  · have noText : ∀ text, event ≠ .passage text := fun text same => isText ⟨text, same⟩
    obtain ⟨kind, isDelimiter, isReference, meant⟩ := writable.delimiter noText
    obtain ⟨first, word, spelled⟩ := List.exists_cons_of_ne_nil isDelimiter.ne_nil
    rw [spelled] at faces isDelimiter meant
    have scanned := scan_delimiter isDelimiter fun same => by
      obtain ⟨name, sameEvent⟩ := isReference same
      exact apart name sameEvent
    rw [Event.pieces_of_ne_passage noText]
    exact faces.told observe scanned (meant leads)

/-- A written list of events is told as the pieces of its events. -/
theorem Faces.told_document {run : Run σ} {events : List Event} {after : Scope}
    (bracketed : Event.Bracketed run.scope events after)
    (faces : run.Faces (Event.document events)) (writable : ∀ event ∈ events, event.Writable)
    (apart : events.IsChain Event.MayPrecede) :
    ∃ next : Run σ, Comes (.observing observe) run next (events.flatMap Event.pieces).length ∧
      next.Faces [] ∧ next.scope = after ∧
      next.state = (events.flatMap Event.pieces).foldl observe run.state := by
  induction events generalizing run with
  | nil =>
    cases bracketed
    exact ⟨run, comes_refl _ run, faces, rfl, rfl⟩
  | cons event events inductionHypothesis =>
    cases bracketed with
    | @step _ between _ _ _ leads bracketed =>
      obtain ⟨writableFirst, writableRest⟩ := List.forall_mem_cons.mp writable
      have apartFirst : ∀ name, event = .reference name →
          ∀ later, Event.document events ≠ '=' :: later := by
        rintro name rfl later starts
        obtain ⟨text, behind, rfl⟩ := Event.passage_of_document writableRest starts
        exact (List.isChain_cons_cons.mp apart).1 rfl
      rw [Event.document_cons] at faces
      obtain ⟨middle, came, facing, rfl, middleState⟩ :=
        faces.told_event observe writableFirst apartFirst leads
      obtain ⟨next, cameOn, facingRest, nextScope, nextState⟩ :=
        inductionHypothesis bracketed facing writableRest apart.tail
      refine ⟨next, ?_, facingRest, nextScope, ?_⟩
      · rw [List.flatMap_cons, List.length_append]
        exact came.trans cameOn
      · rw [nextState, middleState, List.flatMap_cons, List.foldl_append]

/-- With nothing in front of it and no body open, a run is complete. -/
theorem Faces.completed {run : Run σ} (faces : run.Faces []) (outside : run.scope = .outside) :
    run.step (.observing observe) = .ended ⟨.completed, run.inputs, run.state⟩ ∧
      run.inputs.depth = 0 ∧ run.inputs.unread = [] := by
  have read : run.inputs.read = (run.inputs.current.endToken, run.inputs) := by
    rw [Inputs.read, Input.read_of_unread_eq_nil faces.unread]
  have last : run.inputs.resume? = none := by
    rw [Inputs.resume?, faces.alone]
  obtain ⟨nothing, bottom⟩ := Inputs.unread_of_resume?_eq_none faces.unread last
  refine ⟨?_, bottom, nothing⟩
  have meant : Scope.outside.meaning run.inputs.current.endToken.kind
      run.inputs.current.endToken.text = .ended := rfl
  simp only [step, read, outside, meant, resume, last]

/-- A run with enough steps over a written list of events completes. -/
theorem go_document {run : Run σ} {events : List Event}
    (bracketed : Event.Bracketed run.scope events .outside)
    (faces : run.Faces (Event.document events)) (writable : ∀ event ∈ events, event.Writable)
    (apart : events.IsChain Event.MayPrecede) {bound : Nat}
    (enough : (Event.document events).length < bound) :
    ∃ inputs : Inputs, run.go (.observing observe) bound =
        ⟨.completed, inputs, (events.flatMap Event.pieces).foldl observe run.state⟩ ∧
      inputs.depth = 0 ∧ inputs.unread = [] := by
  obtain ⟨next, came, facing, nextScope, nextState⟩ :=
    faces.told_document observe bracketed writable apart
  obtain ⟨ended, bottom, nothing⟩ := facing.completed observe nextScope
  refine ⟨next.inputs, ?_, bottom, nothing⟩
  obtain ⟨spare, rfl⟩ : ∃ spare, bound = (events.flatMap Event.pieces).length + (spare + 1) :=
    Nat.exists_eq_add_of_lt (Nat.lt_of_le_of_lt (Event.length_flatMap_pieces_le events) enough)
  rw [came, go, ended, nextState]

end Run

theorem Inputs.budget_ofSource (source : Source) :
    (ofSource source).budget = source.text.length + 1 := by
  rw [budget, show (ofSource source).unread = source.text ++ [] from rfl, List.append_nil]
  rfl

/-! ### Reading undoes writing -/

/-- A well bracketed list of writable events is told again by a run over its document, if no
reference is directly followed by a text that starts with `=`. The run completes with nothing
left. It tells text character by character, and all other events as they were written, so with
neighbouring texts joined the events are the same. -/
theorem run_document (name : Text) (events : List Event)
    (bracketed : Event.Bracketed .outside events .outside)
    (writable : ∀ event ∈ events, event.Writable) (apart : events.IsChain Event.MayPrecede)
    (bound : Nat)
    (enough : (Inputs.ofSource ⟨name, Event.document events⟩).budget ≤ bound) :
    let processor : Processor (List Event) :=
      { inputs := .ofSource ⟨name, Event.document events⟩ }
    let outcome := (processor.runWith .recording bound []).1
    let left := (processor.runWith .recording bound []).2.inputs
    outcome.verdict = .completed ∧ outcome.state = events.flatMap Event.pieces ∧
      Event.merged outcome.state = Event.merged events ∧ left.depth = 0 ∧ left.unread = [] := by
  intro processor outcome left
  rw [Inputs.budget_ofSource] at enough
  have facesAll : (⟨processor.inputs, .outside, []⟩ : Run (List Event)).Faces
      (Event.document events) := ⟨⟨Input.underway_ofSource _, nofun⟩, rfl, rfl⟩
  obtain ⟨inputs, finished, bottom, nothing⟩ :=
    Run.go_document (fun events event => events ++ [event]) bracketed facesAll writable apart enough
  rw [Run.foldl_recorded] at finished
  have sameOutcome : outcome = ⟨.completed, inputs, events.flatMap Event.pieces⟩ := finished
  have sameLeft : left = inputs := congrArg Outcome.inputs finished
  have noEmptyText : .passage [] ∉ events := fun member => (writable _ member).1 rfl
  rw [sameOutcome, sameLeft]
  exact ⟨rfl, rfl, Event.merged_flatMap_pieces noEmptyText, bottom, nothing⟩

/-- A body with a reference right before its end: the character looked ahead at is the first of
the end. Around it stand the other events, one next to the other. -/
theorem run_document_reference_before_closing :
    let events : List Event :=
      [.opening .file ['m', '.', 'c'], .passage ['=', 'x'], .reference ['a'], .closing,
        .passage ['b'], .substitution (.assignment [] ['v', '=']), .directive (.language ['c'])]
    let processor : Processor (List Event) := { inputs := .ofSource ⟨[], Event.document events⟩ }
    (processor.runWith .recording 50 []).1.state =
      [.opening .file ['m', '.', 'c'], .passage ['='], .passage ['x'], .reference ['a'], .closing,
        .passage ['b'], .substitution (.assignment [] ['v', '=']),
        .directive (.language ['c'])] := by
  intro events processor
  have bracketed : Event.Bracketed .outside events .outside :=
    .step (.opening ..) (.step (.passage ..) (.step (.reference ..) (.step .closing
      (.step (.passage ..) (.step (.substitution ..) (.step (.directive ..) (.done _)))))))
  have apart : events.IsChain Event.MayPrecede :=
    .cons_cons trivial (.cons_cons trivial (.cons_cons trivial (.cons_cons trivial
      (.cons_cons trivial (.cons_cons trivial (.singleton _))))))
  exact (run_document [] events bracketed (by decide) apart 50 (by decide)).2.1

end Literate

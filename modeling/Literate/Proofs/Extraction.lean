/-
This file proves what an extract holds and when it can be read back. A run over a document
collects, for one section, exactly the assignments that stand between a token that starts a
body of the section and the next end of a body. The proof follows what an extract has and
what it will still take from the tokens ahead: together they are the same before and after
every token.

The output has a line for each assignment only in the sense that it ends each with a newline.
A key has no `=`, so a line is cut where it was put together. But an assignment may span
lines in the document, and it then spans lines in the output. So a reader who cuts the output
at newlines gets the assignments back exactly if none of them holds a newline; otherwise
there are more lines than assignments.
-/

import Literate.Proofs.Lockstep
import Literate.Report.Extract
import Mathlib.Algebra.GroupWithZero.Nat

namespace Literate

/-! ### Reading an output back -/

namespace Report.Extract

/-- What a reader makes of an output who cuts it at newlines and every line at its first `=`.
A line without one says nothing. -/
def readBack (output : Text) : List (Option (Text × Text)) :=
  (Text.lines output).dropLast.map (Text.cutAt? '=')

/-- An assignment that stands on one line. -/
def OneLine (assignment : Text × Text) : Prop := '\n' ∉ assignment.1 ∧ '\n' ∉ assignment.2

instance (assignment : Text × Text) : Decidable (OneLine assignment) :=
  inferInstanceAs (Decidable (_ ∧ _))

theorem readBack_line_append {assignment : Text × Text} (oneLine : OneLine assignment)
    (cuts : '=' ∉ assignment.1) (output : Text) :
    readBack (line assignment ++ output) = some assignment :: readBack output := by
  have absent : '\n' ∉ assignment.1 ++ '=' :: assignment.2 := by
    simp [oneLine.1, oneLine.2]
  have nonempty : Text.lines output ≠ [] := Text.splitAt_ne_nil '\n' output
  rw [readBack, line, List.append_assoc, List.singleton_append, Text.lines,
    Text.splitAt_append_cons absent, List.dropLast_cons_of_ne_nil nonempty, List.map_cons,
    Text.cutAt?_eq_some_iff.mpr ⟨rfl, cuts⟩]
  rfl

theorem oneLine_iff_count {assignment : Text × Text} :
    OneLine assignment ↔ assignment.1.count '\n' + assignment.2.count '\n' = 0 := by
  rw [Nat.add_eq_zero_iff, List.count_eq_zero, List.count_eq_zero]
  rfl

theorem length_readBack (output : Text) : (readBack output).length = output.count '\n' := by
  rw [readBack, List.length_map, List.length_dropLast, Text.length_splitAt, Nat.add_sub_cancel]

/-- There is a newline behind each assignment, beside those that it holds. -/
theorem count_flatMap_line (assignments : List (Text × Text)) :
    (assignments.flatMap line).count '\n' = assignments.length +
      (assignments.map fun assignment =>
        assignment.1.count '\n' + assignment.2.count '\n').sum := by
  induction assignments with
  | nil => rfl
  | cons assignment assignments inductionHypothesis =>
    have first : (line assignment).count '\n' =
        assignment.1.count '\n' + assignment.2.count '\n' + 1 := by simp [line, Nat.add_assoc]
    rw [List.flatMap_cons, List.count_append, first, inductionHypothesis, List.map_cons,
      List.sum_cons, List.length_cons]
    omega

/-- Assignments whose keys have no `=` are read back from their lines exactly if each of them
stands on one line. -/
theorem readBack_flatMap_iff {assignments : List (Text × Text)}
    (cuts : ∀ assignment ∈ assignments, '=' ∉ assignment.1) :
    readBack (assignments.flatMap line) = assignments.map some ↔
      ∀ assignment ∈ assignments, OneLine assignment := by
  constructor
  · -- As many lines as assignments leave no newline for an assignment to hold.
    intro same assignment member
    have counted := congrArg List.length same
    rw [length_readBack, List.length_map, count_flatMap_line] at counted
    have none := List.sum_eq_zero_iff_forall_eq_nat.mp (Nat.add_eq_left.mp counted)
    exact oneLine_iff_count.mpr (none _ (List.mem_map_of_mem member))
  · intro oneLine
    induction assignments with
    | nil => rfl
    | cons assignment assignments inductionHypothesis =>
      obtain ⟨cutsFirst, cutsRest⟩ := List.forall_mem_cons.mp cuts
      obtain ⟨first, rest⟩ := List.forall_mem_cons.mp oneLine
      rw [List.flatMap_cons, readBack_line_append first cutsFirst,
        inductionHypothesis cutsRest rest, List.map_cons]

end Report.Extract

/-! ### Assignments among tokens -/

namespace Token

/-- The key and the value that a token assigns. -/
def assignment? (token : Token) : Option (Text × Text) :=
  match token.kind, Event.decodeSubstitution token.text with
  | .textSubstitution, .ok (.assignment key value) => some (key, value)
  | _, _ => none

/-- The token `<<SECTION:title>>=`, which starts a body of the section. -/
def StartsSection (title : Text) (token : Token) : Prop :=
  token.kind = .macroStart ∧ token.text = (Event.opening .sectional title).spelling

instance (title : Text) (token : Token) : Decidable (token.StartsSection title) :=
  inferInstanceAs (Decidable (_ ∧ _))

/-- The assignments up to the end of a body. -/
def assigned (tokens : List Token) : List (Text × Text) :=
  (tokens.takeWhile fun token => token.kind ≠ .macroEnd).filterMap assignment?

/-- The assignments in all bodies of a section, in the order of the document. -/
def assignments (title : Text) : List Token → List (Text × Text)
  | [] => []
  | token :: tokens =>
    (if token.StartsSection title then assigned tokens else []) ++ assignments title tokens

/-- An assignment is written `%[key=value]%`, and its key has no `=`. -/
theorem assignment?_eq_some_iff {token : Token} {key value : Text} :
    token.assignment? = some (key, value) ↔ token.kind = .textSubstitution ∧
      token.text = ['%', '['] ++ (key ++ '=' :: value) ++ [']', '%'] ∧ '=' ∉ key := by
  have decoded : Event.decodeSubstitution token.text = .ok (.assignment key value) ↔
      token.text = ['%', '['] ++ (key ++ '=' :: value) ++ [']', '%'] ∧ '=' ∉ key :=
    Event.decodeSubstitution_eq_ok_iff
  rw [← decoded, assignment?]
  split
  · rename_i isSubstitution same
    simp [isSubstitution, same]
  · rename_i other
    exact ⟨nofun, fun ⟨isSubstitution, same⟩ => absurd same (other _ _ isSubstitution)⟩

/-- The token that starts a body starts a body of the section that it names. -/
theorem startsSection_iff {text name title : Text} {kind : MacroKind} {position : Position}
    (decoded : Event.decodeMacroStart text = .ok (kind, name)) :
    StartsSection title ⟨.macroStart, text, position⟩ ↔ kind = .sectional ∧ name = title := by
  constructor
  · rintro ⟨_, rfl⟩
    cases decoded.symm.trans (Event.decodeMacroStart_spelling trivial)
    exact ⟨rfl, rfl⟩
  · rintro ⟨rfl, rfl⟩
    exact ⟨rfl, (Event.decodeMacroStart_eq_ok_iff.mp decoded).1⟩

theorem not_mem_key_of_mem_assignments {title : Text} {tokens : List Token}
    {assignment : Text × Text} (member : assignment ∈ assignments title tokens) :
    '=' ∉ assignment.1 := by
  induction tokens with
  | nil => exact absurd member List.not_mem_nil
  | cons token tokens inductionHypothesis =>
    rw [assignments] at member
    obtain inBody | later := List.mem_append.mp member
    · split at inBody
      · obtain ⟨_, _, assigns⟩ := List.mem_filterMap.mp inBody
        exact (assignment?_eq_some_iff.mp assigns).2.2
      · exact absurd inBody List.not_mem_nil
    · exact inductionHypothesis later

end Token

/-! ### Walks and extracts -/

namespace Report.Extract

/-- The assignments that an extract has, and those that it will take from the tokens ahead. -/
def outlook (extract : Extract) (tokens : List Token) : List (Text × Text) :=
  extract.assignments ++ ((if extract.inside then Token.assigned tokens else []) ++
    Token.assignments extract.title tokens)

variable {scope after : Scope} {token : Token} {event : Event}

/-- An extract takes from a body only while one is open. -/
theorem inside_of_meaning (meant : scope.meaning token.kind token.text = .event event after)
    {extract : Extract} (within : extract.inside → scope = .inside) :
    (extract.observe event).inside → after = .inside := by
  obtain ⟨kind, text, position⟩ := token
  cases Scope.tells_of_meaning meant with
  | opening => exact fun _ => rfl
  | closing => exact nofun
  | @substitution _ _ made =>
    cases made with
    | placeholder => exact within
    | assignment =>
      rw [observe]
      split <;> exact within
  | passage | reference | directive => exact within

/-- A token that neither starts nor ends a body, nor assigns, is passed over. -/
theorem outlook_cons_of_passed (extract : Extract) {kind : TokenKind} {text : Text}
    {position : Position} (passed : kind ∉ [.macroStart, .macroEnd])
    (assignsNothing : Token.assignment? ⟨kind, text, position⟩ = none) (tokens : List Token) :
    extract.outlook (⟨kind, text, position⟩ :: tokens) = extract.outlook tokens := by
  simp only [List.mem_cons, List.not_mem_nil, or_false, not_or] at passed
  simp [outlook, Token.assignments, Token.assigned, Token.StartsSection, passed, assignsNothing]

/-- A token that is an event takes from what is ahead of an extract what it adds to it. -/
theorem outlook_of_meaning (meant : scope.meaning token.kind token.text = .event event after)
    {extract : Extract} (within : extract.inside → scope = .inside) (tokens : List Token) :
    extract.outlook (token :: tokens) = (extract.observe event).outlook tokens := by
  obtain ⟨kind, text, position⟩ := token
  cases Scope.tells_of_meaning meant with
  | opening decoded =>
    have closed : extract.inside = false := by simpa using within
    simp [outlook, observe, Token.assignments, closed, Token.startsSection_iff decoded]
  | closing => simp [outlook, observe, Token.assignments, Token.assigned, Token.StartsSection]
  | @substitution _ _ made decoded =>
    cases made with
    | placeholder key =>
      have assignsNothing : Token.assignment? ⟨.textSubstitution, text, position⟩ = none := by
        simp [Token.assignment?, decoded]
      exact outlook_cons_of_passed extract (by decide) assignsNothing tokens
    | assignment key value =>
      have assigns : Token.assignment? ⟨.textSubstitution, text, position⟩ = some (key, value) := by
        simp [Token.assignment?, decoded]
      rw [observe]
      split
      · rename_i isInside
        simp [outlook, Token.assignments, Token.assigned, Token.StartsSection, isInside, assigns]
      · rename_i isOutside
        simp [outlook, Token.assignments, Token.StartsSection, isOutside]
  | passage | reference | directive => exact outlook_cons_of_passed extract (by decide) rfl tokens

end Report.Extract

/-- What an extract has at the end of a walk is what it had and what was ahead of it. -/
theorem Walk.assignments_eq {names : List Text} {ending : Position} {scope : Scope}
    {tokens : List Token} {events : List Event} {result : Option RunError}
    (walk : Walk .nothing names ending scope [] tokens events result) (completes : result = none)
    {extract : Report.Extract} (within : extract.inside → scope = .inside) :
    (events.foldl Report.Extract.observe extract).assignments = extract.outlook tokens := by
  induction walk using Walk.nothing_induction generalizing extract with
  | ended => simp [Report.Extract.outlook, Token.assigned, Token.assignments]
  | unterminated => cases completes
  | refused => cases completes
  | event meant _ inductionHypothesis =>
    rw [List.foldl_cons, Report.Extract.outlook_of_meaning meant within]
    exact inductionHypothesis completes (Report.Extract.inside_of_meaning meant within)

/-! ### Extracts of a document -/

/-- A run over a source that completes has extracted the assignments that stand in the bodies of
the section, in order. Cutting the output at newlines, and each line at its first `=`, gives these
assignments back exactly if none of them holds a newline. -/
theorem runWith_extracts (source : Source) (title : Text) (bound : Nat) :
    let ran := (Processor.runWith { inputs := .ofSource source }
      (.observing Report.Extract.observe) bound (.start title)).1
    let made := Token.assignments title source.tokens
    ran.verdict = .completed →
      ran.state.assignments = made ∧
      (Report.Extract.readBack ran.state.render = made.map some ↔
        ∀ assignment ∈ made, Report.Extract.OneLine assignment) := by
  intro ran made completes
  have ends : ran.verdict ≠ .exhausted := by simp [completes]
  obtain ⟨events, result, walks, verdict, observed⟩ := Source.exists_walks
    (Sink.observing_matches Report.Extract.observe (.start title)) rfl ends
  obtain rfl : result = none := Verdict.ofResult_injective (verdict.symm.trans completes)
  have extracted : ran.state.assignments = made :=
    (congrArg Report.Extract.assignments observed).trans (Walk.assignments_eq walks rfl nofun)
  refine ⟨extracted, ?_⟩
  rw [Report.Extract.render, extracted]
  exact Report.Extract.readBack_flatMap_iff fun _ => Token.not_mem_key_of_mem_assignments

/-- A section is opened twice, around another one and with assignments outside of both. A value
has an `=` of its own, another one is empty. -/
theorem runWith_extracts_reopened_section :
    let source : Source := ⟨['d'], Event.document
      [.substitution (.assignment ['o'] ['1']),
        .opening .sectional ['S'], .substitution (.assignment ['k'] ['a', '=', 'b']),
        .substitution (.placeholder ['p']), .closing,
        .opening .sectional ['T'], .substitution (.assignment ['k'] ['c']), .closing,
        .opening .sectional ['S'], .substitution (.assignment ['m'] []), .closing]⟩
    let ran := (Processor.runWith { inputs := .ofSource source }
      (.observing Report.Extract.observe) 20 (.start ['S'])).1
    let made := Token.assignments ['S'] source.tokens
    ran.verdict = .completed ∧ made = [(['k'], ['a', '=', 'b']), (['m'], [])] ∧
      Report.Extract.readBack ran.state.render = made.map some := by
  intro source ran made
  have completes : ran.verdict = .completed := by decide
  have assigned : made = [(['k'], ['a', '=', 'b']), (['m'], [])] := by decide +kernel
  have oneLine : ∀ assignment ∈ made, Report.Extract.OneLine assignment := by
    rw [assigned]
    decide
  obtain ⟨_, readsBack⟩ := runWith_extracts source ['S'] 20 completes
  exact ⟨completes, assigned, readsBack.mpr oneLine⟩

/-- An assignment that spans two lines is read back as two assignments. -/
theorem runWith_extract_not_read_back :
    let source : Source := ⟨['d'], Text.ofString "<<SECTION:S>>=%[k=1\nm=2]%>>@<<"⟩
    let ran := (Processor.runWith { inputs := .ofSource source }
      (.observing Report.Extract.observe) 4 (.start ['S'])).1
    ran.verdict = .completed ∧
      Token.assignments ['S'] source.tokens = [(['k'], ['1', '\n', 'm', '=', '2'])] ∧
      Report.Extract.readBack ran.state.render = [some (['k'], ['1']), some (['m'], ['2'])] := by
  decide +kernel

end Literate

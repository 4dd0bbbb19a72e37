/-
This file proves that a character is put back only behind a reference. Reading looks
one character ahead there, to see whether a `=` makes the reference a macro start;
so what is put back is a single character other than `=`. Behind every other token
nothing is put back, also when the token began with a character that was.

What an input has put back thus depends on the token that was read from it last,
however often it was put away and installed again in the meantime. A directive is no
reference, so that an input which is suspended by one has nothing put back, even if
the directive began with a character that was.
-/

import Literate.Proofs.Interleaving
import Literate.Proofs.Lossless
import Mathlib.Logic.Relation

namespace Literate

/-! ### Behind one token -/

/-- A reference in front of `=` is no first token, for the macro start is longer. -/
theorem FirstLexeme.not_reference {word rest : Text} :
    ¬FirstLexeme (word ++ '=' :: rest) ⟨.macroReference, word⟩ := by
  intro isFirst
  cases isFirst with
  | delimiter isReference _ longest =>
    have noLonger := longest _ _ isReference.start_of_reference ⟨rest, by simp⟩
    rw [List.length_append] at noLonger
    exact Nat.not_succ_le_self _ noLonger

namespace Input

/-- Nothing is put back behind a token that is no reference. -/
theorem Stands.pending_read {input : Input} {source : Source} {seen : Text}
    (stands : input.Stands source seen) (other : input.read.1.kind ≠ .macroReference) :
    input.read.2.pending = [] := by
  cases found : input.next? with
  | none =>
    rw [read_of_next?_eq_none found]
    exact (List.append_eq_nil_iff.mp (unread_of_next?_eq_none found)).1
  | some step =>
    obtain ⟨first, after⟩ := step
    obtain ⟨afterStands, afterNothing⟩ := stands.next found
    simp only [Input.read, found] at other ⊢
    rw [if_neg other]
    exact (afterStands.skip afterNothing _).2

/-- A `=` is never put back. -/
theorem Stands.equals_not_mem_pending_read {input : Input} {source : Source} {seen : Text}
    (stands : input.Stands source seen) : '=' ∉ input.read.2.pending := by
  intro member
  have reference : input.read.1.kind = .macroReference := by
    by_contra other
    rw [stands.pending_read other] at member
    exact List.not_mem_nil member
  have single : input.read.2.pending = ['='] := by
    obtain ⟨character, same⟩ := List.length_eq_one_iff.mp
      (Nat.le_antisymm stands.read.tidy (List.length_pos_of_mem member))
    rw [same, List.mem_singleton] at member
    rw [same, member]
  have split : input.unread = input.read.1.text ++ '=' :: input.read.2.rest := by
    rw [stands.unread_read, unread, single, List.singleton_append]
  have isFirst : FirstLexeme input.unread ⟨input.read.1.kind, input.read.1.text⟩ :=
    firstLexeme_read (split ▸ List.append_ne_nil_of_right_ne_nil _ (List.cons_ne_nil _ _))
  rw [split, reference] at isFirst
  exact isFirst.not_reference

/-! ### Behind all tokens -/

/-- An input from which the given tokens of a source were read. Beyond where it stands: a
character is put back only if the last of the tokens is a reference, and it is not `=`. -/
structure HasRead (input : Input) (source : Source) (tokens : List Token) : Prop
    extends input.Stands source (Token.documentOf tokens) where
  behindReference : input.pending ≠ [] →
    ∃ earlier reference, tokens = earlier ++ [reference] ∧ reference.kind = .macroReference
  noEquals : '=' ∉ input.pending

theorem hasRead_ofSource (source : Source) : (ofSource source).HasRead source [] :=
  ⟨stands_ofSource source, fun some => absurd rfl some, List.not_mem_nil⟩

theorem HasRead.read {input : Input} {source : Source} {tokens : List Token}
    (hasRead : input.HasRead source tokens) :
    input.read.2.HasRead source (tokens ++ [input.read.1]) := by
  have stands := hasRead.toStands
  have document : Token.documentOf (tokens ++ [input.read.1]) =
      Token.documentOf tokens ++ input.read.1.text := by
    rw [Token.documentOf, List.flatMap_append, List.flatMap_singleton, Token.documentOf]
  refine ⟨document ▸ stands.read, fun some => ⟨tokens, input.read.1, rfl, ?_⟩,
    stands.equals_not_mem_pending_read⟩
  by_contra other
  exact some (stands.pending_read other)

end Input

/-- What was read from an input tells what it may have put back. -/
abbrev Bond.putBack : Bond where
  holds source tokens input := input.HasRead source tokens
  fresh := Input.hasRead_ofSource
  read := Input.HasRead.read

namespace Switchboard

/-- An input is accounted for under a number of the books: it has come to where the tokens taken
under this number bring the source that was made under it. -/
def Ledger.Accounts (ledger : Ledger) (number : Nat) (input : Input) : Prop :=
  ∃ source, ledger.sources[number]? = some source ∧ input.HasRead source (ledger.taken number)

theorem Agrees.accounts {board : Switchboard} {ledger : Ledger} {standing : Nat → Input}
    (agrees : board.Agrees .putBack ledger standing) {number : Nat}
    (made : number < ledger.sources.length) : ledger.Accounts number (standing number) :=
  ⟨_, List.getElem?_eq_getElem made, agrees.whole (List.getElem?_eq_getElem made)⟩

/-- The books account for the installed input and for all those put away. -/
theorem accounts_performAll (source : Source) (commands : List Command) :
    let board := (ofSource source).performAll commands
    let ledger := (Ledger.ofSource source).recordAll (ofSource source) commands
    ledger.Accounts ledger.current board.installed ∧
      ∀ label input, board.shelved? label = some input →
        ∃ number, ledger.shelved label = some number ∧ ledger.Accounts number input := by
  intro board ledger
  have start := Ledger.consistent_ofSource source
  have consistent := start.recordAll (ofSource source) commands
  obtain ⟨standing, agrees⟩ := (agrees_start .putBack source).recordAll start commands
  refine ⟨agrees.installed ▸ agrees.accounts consistent.current, fun label input found => ?_⟩
  rw [agrees.shelved] at found
  obtain ⟨number, located, rfl⟩ := Option.map_eq_some_iff.mp found
  exact ⟨number, located, agrees.accounts (consistent.shelved located).1⟩

end Switchboard

/-! ### Inputs that a run suspends -/

/-- Opening sources suspends the current input and all of the sources but the last one. -/
theorem Inputs.suspended_pushAll (property : Input → Prop)
    (fresh : ∀ source, property (.ofSource source)) {inputs : Inputs}
    (current : property inputs.current) (sources : List Source) :
    ∃ added, (inputs.pushAll sources).suspended = added ++ inputs.suspended ∧
      ∀ input ∈ added, property input := by
  induction sources generalizing inputs with
  | nil => exact ⟨[], rfl, fun _ member => absurd member List.not_mem_nil⟩
  | cons source sources inductionHypothesis =>
    have pushed : property (inputs.push source).current := fresh source
    obtain ⟨added, grown, holds⟩ := inductionHypothesis pushed
    refine ⟨added ++ [inputs.current], ?_, List.forall_mem_append.mpr ⟨holds, ?_⟩⟩
    · rw [List.append_assoc]
      exact grown
    · exact List.forall_mem_singleton.mpr current

namespace Run

variable {σ : Type} {sink : Sink σ} {run : Run σ}

/-- The inputs that the next step of a run suspends, the innermost first: those by which the stack
grows. -/
def suspends (sink : Sink σ) (run : Run σ) : List Input :=
  (run.step sink).inputs.suspended.take ((run.step sink).inputs.depth - run.inputs.depth)

theorem suspends_of_grown {added : List Input}
    (grown : (run.step sink).inputs.suspended = added ++ run.inputs.suspended) :
    run.suspends sink = added := by
  simp [suspends, Inputs.depth, grown]

/-- Behind a directive nothing is put back. -/
theorem pending_read_of_directive {given : Directive} (underway : run.inputs.current.Underway)
    (spelled : (Event.directive given).spelling = run.inputs.read.1.text) :
    run.inputs.read.2.current.pending = [] := by
  obtain ⟨source, seen, stands⟩ := underway
  refine stands.pending_read fun reference => ?_
  have legible := run.inputs.current.legible_read
  rw [reference, show run.inputs.current.read.1.text = '#' :: _ from spelled.symm] at legible
  obtain _ | _ | isReference := legible
  simpa using isReference.of_first

theorem pending_of_mem_suspends (underway : run.inputs.All Input.Underway) {input : Input}
    (member : input ∈ run.suspends sink) : input.pending = [] := by
  have opened {given : Directive}
      (spelled : (Event.directive given).spelling = run.inputs.read.1.text)
      (sources : List Source)
      (after : (run.step sink).inputs = run.inputs.read.2.pushAll sources) :
      input.pending = [] := by
    obtain ⟨added, grown, nothing⟩ := Inputs.suspended_pushAll (·.pending = []) (fun _ => rfl)
      (pending_read_of_directive underway.1 spelled) sources
    rw [suspends_of_grown ((congrArg Inputs.suspended after).trans grown)] at member
    exact nothing input member
  have unopened (lower : (run.step sink).inputs.depth ≤ run.inputs.depth) :
      input.pending = [] := by
    rw [suspends, Nat.sub_eq_zero_of_le lower, List.take_zero] at member
    exact absurd member List.not_mem_nil
  generalize made : run.step sink = progress at opened unopened
  have taken := taken_step sink run
  rw [made] at taken
  cases taken with
  | told => exact unopened le_rfl
  | answered _ spelled => exact opened spelled _ rfl
  | rejected spelled =>
    -- A failed answer has opened its sources as well.
    exact opened spelled _ rfl
  | resumed _ empty found =>
    obtain ⟨same, ended⟩ := Inputs.read_of_text_eq_nil empty
    rw [same] at found
    exact unopened (Nat.le_of_succ_le (Inputs.unread_resume ended found).2.le)
  | completed => exact unopened le_rfl
  | refused => exact unopened le_rfl

/-- A run goes on with a step. -/
def Goes (sink : Sink σ) (run next : Run σ) : Prop := run.step sink = .running next

theorem underway_of_goes {next : Run σ} (underway : run.inputs.All Input.Underway)
    (goes : Relation.ReflTransGen (Goes sink) run next) : next.inputs.All Input.Underway := by
  induction goes with
  | refl => exact underway
  | @tail between next _ made inductionHypothesis =>
    have kept := step_of_all Input.underway_ofSource (fun _ underway => underway.read) sink
      inductionHypothesis
    rwa [made] at kept

end Run

/-! ### Put back behind references only -/

/-- A character is put back only behind a reference. After any commands, the installed input and
all those put away hold at most one character that was put back; there is one only if the last
token read from that input is a reference, and it is not `=`; and the counters are those of the
text of the tokens read from that input with the character put back behind it. Therefore, in
every state of every run, all inputs that the next step suspends, because sources are opened in
answer to a directive, hold none. -/
theorem pending_behind_reference :
    (∀ (source : Source) (commands : List Switchboard.Command),
      let board := (Switchboard.ofSource source).performAll commands
      let ledger := (Switchboard.Ledger.ofSource source).recordAll (.ofSource source) commands
      ledger.Accounts ledger.current board.installed ∧
        ∀ label input, board.shelved? label = some input →
          ∃ number, ledger.shelved label = some number ∧ ledger.Accounts number input) ∧
    ∀ {σ : Type} {sink : Sink σ} {inputs : Inputs} {state : σ} {run : Run σ},
      inputs.Reachable → Relation.ReflTransGen (Run.Goes sink) ⟨inputs, .outside, state⟩ run →
      ∀ input ∈ run.suspends sink, input.pending = [] := by
  refine ⟨Switchboard.accounts_performAll, ?_⟩
  intro σ sink inputs state run reachable goes input member
  exact Run.pending_of_mem_suspends (Run.underway_of_goes reachable.underway goes) member

/-- The directive behind a reference begins with the character that was put back. An input that
is put away in front of it keeps that character, with the column counted up to it. An input that
was left there by a run, and is suspended by the directive in the next run, keeps none. -/
theorem pending_behind_reference_directive :
    let document : Text := ['<', '<', 'a', '>', '>', '#', '[', 'l', 'a', 'n', 'g', 'u', 'a', 'g',
      'e', '=', 'c', ']']
    let outer : Source := ⟨['o'], document⟩
    let inner : Source := ⟨['i'], []⟩
    let sink : Sink Unit := ⟨fun _ _ => (), fun _ _ _ => { opened := [inner], state := () }⟩
    let waiting : Input := ⟨['o'], ['#'], document.drop 6, 1, 6⟩
    let suspended : Input := ⟨['o'], [], [], 1, 18⟩
    ((Switchboard.ofSource outer).performAll [.read, .swap ['k'] inner]).shelved? ['k'] =
        some waiting ∧
      '=' ∉ waiting.pending ∧ waiting.column = Text.columnAfter (document.take 6) ∧
      Run.suspends sink ⟨⟨waiting, []⟩, .outside, ()⟩ = [suspended] ∧ suspended.pending = [] := by
  intro document outer inner sink waiting suspended
  have putAway : ((Switchboard.ofSource outer).performAll
      [.read, .swap ['k'] inner]).shelved? ['k'] = some waiting := by decide
  obtain ⟨number, located, source, _, hasRead⟩ :=
    (pending_behind_reference.1 outer [.read, .swap ['k'] inner]).2 ['k'] waiting putAway
  obtain rfl : 0 = number := Option.some.inj located
  have taken : ((Switchboard.Ledger.ofSource outer).recordAll (.ofSource outer)
      [.read, .swap ['k'] inner]).taken 0 =
        [⟨.macroReference, document.take 5, ['o'], 1, 1, 1, 5⟩] := by decide
  rw [taken] at hasRead
  have left : ((Inputs.ofSource outer).run .recording 1 []).inputs = ⟨waiting, []⟩ := by decide
  have reachable : Inputs.Reachable ⟨waiting, []⟩ := left ▸ .run .recording 1 [] (.fresh outer)
  have suspends : Run.suspends sink ⟨⟨waiting, []⟩, .outside, ()⟩ = [suspended] := by decide
  have nothing : ∀ input ∈ Run.suspends sink ⟨⟨waiting, []⟩, .outside, ()⟩, input.pending = [] :=
    pending_behind_reference.2 reachable .refl
  rw [suspends] at nothing
  exact ⟨putAway, hasRead.noEquals, hasRead.column, suspends,
    nothing suspended (List.mem_singleton_self suspended)⟩

end Literate

/-
This file proves that switching inputs disturbs none of them. However reading is mixed
with putting inputs away and installing others, the tokens read from one input are a
beginning of what can be read from its source alone: its tokens, and behind them the
end of the input again and again.

A switchboard does not know which of its inputs is which. A ledger beside it does: it
numbers the inputs in the order in which they are made, and follows from the commands
which of them is installed and which is under which label; what a command brings to
light is entered under the installed one. No number is ever in two places, so that
reading one input changes the standing of no other. The lexer is the same for all of
them, but what it reads depends on the installed input only. What was taken from an input
and what can still be read from it, where it stands, always make up the whole.
-/

import Literate.Proofs.Switching
import Literate.Proofs.Walking
import Mathlib.Data.Stream.Init
import Mathlib.Logic.Function.Basic

namespace Literate

/-! ### Endless readings -/

/-- All that can be read from a source: its tokens, and then the end, again and again. -/
def Source.reading (source : Source) : Stream' Token :=
  source.tokens ++ₛ Stream'.const ⟨.endOfInput, [], source.ending⟩

namespace Input

/-- All that can still be read from an input. -/
def reading (input : Input) : Stream' Token :=
  input.readAll.1 ++ₛ Stream'.const input.readAll.2.endToken

theorem reading_ofSource (source : Source) : (ofSource source).reading = source.reading := by
  have ending : (ofSource source).readAll.2.endToken = ⟨.endOfInput, [], source.ending⟩ := by
    rw [← endToken_finish]
    rfl
  rw [reading, ending]
  rfl

theorem reading_of_next?_eq_none {input : Input} (ended : input.next? = none) :
    input.reading = Stream'.const input.endToken := by
  rw [reading, readAll_of_next?_eq_none ended, Stream'.nil_append_stream]

/-- A token that is read is the first of all that can be read. -/
theorem reading_read (input : Input) : input.reading = [input.read.1] ++ₛ input.read.2.reading := by
  by_cases ended : input.next? = none
  · rw [read_of_next?_eq_none ended, reading_of_next?_eq_none ended]
    exact Stream'.const_eq _
  · rw [reading, readAll_of_next?_ne_none ended]
    rfl

end Input

/-! ### What reading keeps -/

/-- A relation between a source, the tokens that were read from it, and the input as it stands. It
holds before the first token, and reading a token keeps it. -/
structure Bond where
  holds : Source → List Token → Input → Prop
  fresh : ∀ source, holds source [] (.ofSource source)
  read : ∀ {source : Source} {tokens : List Token} {input : Input}, holds source tokens input →
    holds source (tokens ++ [input.read.1]) input.read.2

namespace Bond

theorem readAll (bond : Bond) {source : Source} {tokens : List Token} {input : Input}
    (bound : bond.holds source tokens input) :
    bond.holds source (tokens ++ input.readAll.1) input.readAll.2 := by
  induction input using Input.reading_induction generalizing tokens with
  | ended input ended =>
    rw [Input.readAll_of_next?_eq_none ended, List.append_nil]
    exact bound
  | more input more inductionHypothesis =>
    rw [Input.readAll_of_next?_ne_none more, List.append_cons]
    exact inductionHypothesis (bond.read bound)

theorem lexer_read (bond : Bond) {source : Source} {tokens : List Token} {lexer : Lexer}
    (bound : bond.holds source tokens lexer.input) :
    bond.holds source (tokens ++ [lexer.read.1]) lexer.read.2.input := by
  rw [lexer.token_read, lexer.input_read]
  exact bond.read bound

theorem lexer_readAll (bond : Bond) {source : Source} {tokens : List Token} {lexer : Lexer}
    (bound : bond.holds source tokens lexer.input) :
    bond.holds source (tokens ++ lexer.readAll.1) lexer.readAll.2.input := by
  rw [lexer.readAll_eq.1, lexer.readAll_eq.2]
  exact bond.readAll bound

/-- What was read from an input and what can still be read make up the reading of its source. -/
abbrev reading : Bond where
  holds source tokens input := source.reading = tokens ++ₛ input.reading
  fresh source := (Input.reading_ofSource source).symm
  read {source tokens input} bound := by
    rw [bound, Input.reading_read input, Stream'.append_append_stream]

end Bond

namespace Switchboard

/-! ### Ledgers -/

/-- The tokens that an answer brought to light. -/
def Answer.brought : Answer → List Token
  | .token found => [found]
  | .tokens found => found
  | .saved _ | .installed | .missing => []

/-- Books on the inputs of a switchboard, which are numbered in the order in which they were
made. -/
structure Ledger where
  /-- The sources of all inputs that were made. -/
  sources : List Source
  /-- The number of the installed input. -/
  current : Nat
  /-- The number of the input under a label. -/
  shelved : Text → Option Nat
  /-- The tokens that were read from an input while it was installed. -/
  taken : Nat → List Token

namespace Ledger

/-- The books on a single input. -/
def ofSource (source : Source) : Ledger := ⟨[source], 0, fun _ => none, fun _ => []⟩

/-- Enters tokens under the installed input. -/
def enter (ledger : Ledger) (tokens : List Token) : Ledger :=
  { ledger with
    taken := Function.update ledger.taken ledger.current
      (ledger.taken ledger.current ++ tokens) }

/-- Installs an input, and leaves another one or none under a label. -/
def move (ledger : Ledger) (label : Text) (left : Option Nat) (next : Nat) : Ledger :=
  { ledger with current := next, shelved := Function.update ledger.shelved label left }

/-- The books after a command that was answered. -/
def record (ledger : Ledger) (answer : Answer) : Command → Ledger
  | .read | .readAll => ledger.enter answer.brought
  | .swap label source =>
    { ledger with sources := ledger.sources ++ [source] }.move label (some ledger.current)
      ledger.sources.length
  | .exchange label =>
    match ledger.shelved label with
    | some other => ledger.move label (some ledger.current) other
    | none => ledger
  | .install label =>
    match ledger.shelved label with
    | some other => ledger.move label none other
    | none => ledger

/-- The books after all commands have been carried out on a switchboard. -/
def recordAll (ledger : Ledger) (board : Switchboard) : List Command → Ledger
  | [] => ledger
  | command :: commands =>
    (ledger.record (board.perform command).1 command).recordAll (board.perform command).2 commands

theorem taken_enter (ledger : Ledger) (tokens : List Token) (number : Nat) :
    (ledger.enter tokens).taken number =
      ledger.taken number ++ if number = ledger.current then tokens else [] := by
  by_cases same : number = ledger.current
  · subst same
    simp [enter]
  · simp [enter, same]

theorem shelved_move (ledger : Ledger) (label : Text) (left : Option Nat) (next : Nat)
    (other : Text) :
    (ledger.move label left next).shelved other =
      if other = label then left else ledger.shelved other :=
  Function.update_apply _ _ _ _

/-! ### One place for every input -/

/-- Every input is in one place at most, and nothing was taken from inputs not yet made. -/
structure Consistent (ledger : Ledger) : Prop where
  current : ledger.current < ledger.sources.length
  shelved : ∀ {label : Text} {number : Nat}, ledger.shelved label = some number →
    number < ledger.sources.length ∧ number ≠ ledger.current
  once : ∀ {label other : Text} {number : Nat}, ledger.shelved label = some number →
    ledger.shelved other = some number → label = other
  untouched : ∀ {number : Nat}, ledger.sources.length ≤ number → ledger.taken number = []

theorem consistent_ofSource (source : Source) : (ofSource source).Consistent :=
  ⟨Nat.one_pos, nofun, nofun, fun _ => rfl⟩

theorem Consistent.enter {ledger : Ledger} (consistent : ledger.Consistent)
    (tokens : List Token) : (ledger.enter tokens).Consistent := by
  refine ⟨consistent.current, consistent.shelved, consistent.once, fun {number} beyond => ?_⟩
  have other : number ≠ ledger.current := (consistent.current.trans_le beyond).ne'
  rw [taken_enter, if_neg other, List.append_nil]
  exact consistent.untouched beyond

/-- Installing an input that is not under another label, and leaving the installed one or none
in its stead, puts no input in two places. -/
theorem Consistent.move {ledger : Ledger} (consistent : ledger.Consistent) {label : Text}
    {left : Option Nat} {next : Nat} (isCurrent : ∀ number ∈ left, number = ledger.current)
    (made : next < ledger.sources.length) (different : next ≠ ledger.current)
    (free : ∀ other, ledger.shelved other = some next → other = label) :
    (ledger.move label left next).Consistent := by
  have shelvedAfter : ∀ {other : Text} {number : Nat},
      (ledger.move label left next).shelved other = some number →
        other = label ∧ number = ledger.current ∨
          other ≠ label ∧ ledger.shelved other = some number := by
    intro other number found
    rw [shelved_move] at found
    by_cases same : other = label
    · rw [if_pos same] at found
      exact .inl ⟨same, isCurrent number found⟩
    · rw [if_neg same] at found
      exact .inr ⟨same, found⟩
  refine ⟨made, fun {other number} found => ?_, fun {first second number} isFirst isSecond => ?_,
    consistent.untouched⟩
  · rcases shelvedAfter found with ⟨_, rfl⟩ | ⟨away, foundBefore⟩
    · exact ⟨consistent.current, different.symm⟩
    · -- The input that is installed now was under the label, or under none.
      refine ⟨(consistent.shelved foundBefore).1, fun same => ?_⟩
      exact away (free other (foundBefore.trans (congrArg some same)))
  · rcases shelvedAfter isFirst with ⟨rfl, rfl⟩ | ⟨_, firstBefore⟩ <;>
      rcases shelvedAfter isSecond with ⟨rfl, same⟩ | ⟨_, secondBefore⟩
    · rfl
    · exact absurd rfl (consistent.shelved secondBefore).2
    · exact absurd same (consistent.shelved firstBefore).2
    · exact consistent.once firstBefore secondBefore

theorem Consistent.grow {ledger : Ledger} (consistent : ledger.Consistent) (source : Source) :
    { ledger with sources := ledger.sources ++ [source] }.Consistent := by
  have longer : ledger.sources.length < (ledger.sources ++ [source]).length := by simp
  exact ⟨consistent.current.trans longer,
    fun found => ⟨(consistent.shelved found).1.trans longer, (consistent.shelved found).2⟩,
    consistent.once, fun beyond => consistent.untouched (longer.le.trans beyond)⟩

/-- Every command leaves every input in one place at most. -/
theorem Consistent.record {ledger : Ledger} (consistent : ledger.Consistent) (answer : Answer)
    (command : Command) : (ledger.record answer command).Consistent := by
  cases command with
  | read | readAll => exact consistent.enter _
  | swap label source =>
    refine (consistent.grow source).move ?_ ?_ ?_ ?_
    · simp
    · simp
    · exact consistent.current.ne'
    · intro other found
      exact absurd (consistent.shelved found).1 (Nat.lt_irrefl _)
  | exchange label =>
    rw [Ledger.record]
    split
    · rename_i other found
      exact consistent.move (by simp) (consistent.shelved found).1 (consistent.shelved found).2
        fun _ foundAlso => consistent.once foundAlso found
    · exact consistent
  | install label =>
    rw [Ledger.record]
    split
    · rename_i other found
      exact consistent.move nofun (consistent.shelved found).1 (consistent.shelved found).2
        fun _ foundAlso => consistent.once foundAlso found
    · exact consistent

theorem Consistent.recordAll {ledger : Ledger} (consistent : ledger.Consistent)
    (board : Switchboard) (commands : List Command) :
    (ledger.recordAll board commands).Consistent := by
  induction commands generalizing board ledger with
  | nil => exact consistent
  | cons command commands inductionHypothesis =>
    exact inductionHypothesis (consistent.record _ command) _

end Ledger

/-! ### Labels -/

theorem lookup_discard (shelves : List (Text × Input)) (freed label : Text) :
    (store.discard shelves freed).lookup label =
      if label = freed then none else shelves.lookup label := by
  induction shelves with
  | nil => simp [store.discard]
  | cons shelf shelves inductionHypothesis =>
    obtain ⟨other, input⟩ := shelf
    rw [store.discard] at inductionHypothesis ⊢
    by_cases dropped : other = freed
    · rw [List.filter_cons_of_neg (by simpa using dropped), inductionHypothesis]
      by_cases same : label = freed
      · rw [if_pos same, if_pos same]
      · rw [if_neg same, if_neg same, List.lookup_cons, beq_false_of_ne (dropped ▸ same)]
    · rw [List.filter_cons_of_pos (by simpa using dropped), List.lookup_cons, List.lookup_cons,
        inductionHypothesis]
      by_cases same : label = other
      · subst same
        simp [dropped]
      · simp [beq_false_of_ne same]

theorem lookup_store (shelves : List (Text × Input)) (used : Text) (input : Input) (label : Text) :
    (store shelves used input).lookup label =
      if label = used then some input else shelves.lookup label := by
  rw [store, List.lookup_cons]
  by_cases same : label = used
  · simp [same]
  · rw [beq_false_of_ne same, if_neg same, lookup_discard, if_neg same]

/-! ### The board and its books -/

/-- A board agrees with its books: each input stands where the board has it, bound to its source
and to what was taken from it. -/
structure Agrees (bond : Bond) (board : Switchboard) (ledger : Ledger) (standing : Nat → Input) :
    Prop where
  installed : board.installed = standing ledger.current
  shelved : ∀ label, board.shelved? label = (ledger.shelved label).map standing
  whole : ∀ {number : Nat} {source : Source}, ledger.sources[number]? = some source →
    bond.holds source (ledger.taken number) (standing number)

variable {bond : Bond} {board : Switchboard} {ledger : Ledger} {standing : Nat → Input}

theorem agrees_start (bond : Bond) (source : Source) :
    (ofSource source).Agrees bond (.ofSource source) fun _ => .ofSource source := by
  refine ⟨rfl, fun _ => rfl, fun {number other} found => ?_⟩
  obtain ⟨_, rfl⟩ := List.getElem?_eq_some_iff.mp found
  simpa [Ledger.ofSource] using bond.fresh source

theorem agrees_ofSource (source : Source) :
    (ofSource source).Agrees .reading (.ofSource source) fun _ => .ofSource source :=
  agrees_start .reading source

/-- Reading moves the installed input on, and leaves all others where they stand. -/
theorem Agrees.enter (agrees : board.Agrees bond ledger standing) (consistent : ledger.Consistent)
    {tokens : List Token} {after : Lexer}
    (reads : ∀ {source : Source} {taken : List Token}, bond.holds source taken board.installed →
      bond.holds source (taken ++ tokens) after.input) :
    { board with lexer := after }.Agrees bond (ledger.enter tokens)
      (Function.update standing ledger.current after.input) := by
  refine ⟨?_, fun label => ?_, fun {number source} found => ?_⟩
  · exact (Function.update_self ledger.current after.input standing).symm
  · refine (agrees.shelved label).trans (Option.map_congr fun number shelvedIs => ?_)
    exact (Function.update_of_ne (consistent.shelved shelvedIs).2 _ _).symm
  · have bound := agrees.whole found
    rw [Ledger.taken_enter]
    by_cases same : number = ledger.current
    · subst same
      rw [if_pos rfl, Function.update_self]
      exact reads (agrees.installed ▸ bound)
    · rw [if_neg same, Function.update_of_ne same, List.append_nil]
      exact bound

/-- A new input stands at the beginning of its source. -/
theorem Agrees.grow (agrees : board.Agrees bond ledger standing) (consistent : ledger.Consistent)
    (source : Source) :
    board.Agrees bond { ledger with sources := ledger.sources ++ [source] }
      (Function.update standing ledger.sources.length (.ofSource source)) := by
  refine ⟨?_, fun label => ?_, fun {number other} found => ?_⟩
  · exact agrees.installed.trans (Function.update_of_ne consistent.current.ne _ _).symm
  · refine (agrees.shelved label).trans (Option.map_congr fun number shelvedIs => ?_)
    exact (Function.update_of_ne (consistent.shelved shelvedIs).1.ne _ _).symm
  · by_cases same : number = ledger.sources.length
    · subst same
      obtain rfl : source = other := by simpa using found
      rw [Function.update_self, consistent.untouched le_rfl]
      exact bond.fresh source
    · have earlier : number < ledger.sources.length := by
        obtain ⟨bound, _⟩ := List.getElem?_eq_some_iff.mp found
        simp only [List.length_append, List.length_singleton] at bound
        omega
      rw [List.getElem?_append_left earlier] at found
      rw [Function.update_of_ne same]
      exact agrees.whole found

/-- Installing an input and leaving another one or none in its stead moves no input on. -/
theorem Agrees.move (agrees : board.Agrees bond ledger standing) {label : Text} {left : Option Nat}
    {next : Nat} {lexer : Lexer} {shelves : List (Text × Input)}
    (isNext : lexer.input = standing next)
    (stored : ∀ other, shelves.lookup other =
      if other = label then left.map standing else board.shelved? other) :
    Agrees bond ⟨lexer, shelves⟩ (ledger.move label left next) standing := by
  refine ⟨isNext, fun other => ?_, agrees.whole⟩
  rw [Ledger.shelved_move]
  refine (stored other).trans ?_
  by_cases same : other = label
  · rw [if_pos same, if_pos same]
  · rw [if_neg same, if_neg same, agrees.shelved]

theorem Agrees.lookup_store (agrees : board.Agrees bond ledger standing) (label other : Text) :
    (store board.shelves label board.installed).lookup other =
      if other = label then (some ledger.current).map standing else board.shelved? other := by
  rw [Switchboard.lookup_store, agrees.installed]
  rfl

theorem Agrees.shelved_cases (agrees : board.Agrees bond ledger standing) (label : Text) :
    (ledger.shelved label = none ∧ board.shelved? label = none) ∨
      ∃ other, ledger.shelved label = some other ∧
        board.shelved? label = some (standing other) := by
  rw [agrees.shelved]
  cases ledger.shelved label with
  | none => exact .inl ⟨rfl, rfl⟩
  | some other => exact .inr ⟨other, rfl, rfl⟩

/-- Every command keeps the board in agreement with its books. -/
theorem Agrees.record (agrees : board.Agrees bond ledger standing) (consistent : ledger.Consistent)
    (command : Command) :
    ∃ standing, (board.perform command).2.Agrees bond
      (ledger.record (board.perform command).1 command) standing := by
  cases command with
  | read => exact ⟨_, agrees.enter consistent bond.lexer_read⟩
  | readAll => exact ⟨_, agrees.enter consistent bond.lexer_readAll⟩
  | swap label source =>
    have grown := agrees.grow consistent source
    exact ⟨_, grown.move (Function.update_self _ _ standing).symm (grown.lookup_store label)⟩
  | exchange label =>
    rcases agrees.shelved_cases label with ⟨free, missing⟩ | ⟨other, located, found⟩
    · simp only [perform, missing, Ledger.record, free]
      exact ⟨standing, agrees⟩
    · simp only [perform, found, Ledger.record, located]
      exact ⟨standing, agrees.move rfl (agrees.lookup_store label)⟩
  | install label =>
    rcases agrees.shelved_cases label with ⟨free, missing⟩ | ⟨other, located, found⟩
    · simp only [perform, missing, Ledger.record, free]
      exact ⟨standing, agrees⟩
    · simp only [perform, found, Ledger.record, located]
      exact ⟨standing, agrees.move rfl (lookup_discard board.shelves label)⟩

/-- The board and its books agree after any commands. -/
theorem Agrees.recordAll (agrees : board.Agrees bond ledger standing)
    (consistent : ledger.Consistent) (commands : List Command) :
    ∃ standing, (board.performAll commands).Agrees bond (ledger.recordAll board commands)
      standing := by
  induction commands generalizing board ledger standing with
  | nil => exact ⟨standing, agrees⟩
  | cons command commands inductionHypothesis =>
    obtain ⟨_, agreesAfter⟩ := agrees.record consistent command
    exact inductionHypothesis agreesAfter (consistent.record _ command)

/-! ### No input is disturbed -/

/-- The token that is read next is the next one of the reading of the installed source. -/
theorem Agrees.token_read (agrees : board.Agrees .reading ledger standing) {origin : Source}
    (made : ledger.sources[ledger.current]? = some origin) :
    board.lexer.read.1 = origin.reading.get (ledger.taken ledger.current).length := by
  have whole : origin.reading = ledger.taken ledger.current ++ₛ board.installed.reading := by
    rw [agrees.installed]
    exact agrees.whole made
  rw [whole, Stream'.get_append_length, board.installed.reading_read, board.token_read]
  rfl

/-- Switching inputs disturbs none of them. After any commands, the tokens that were read from an
input while it was installed, in their order, are the beginning of what can be read from its
source: the tokens of the source, and behind them endlessly often the end of the input at the
place where the source ends. Reading once more brings exactly the next of these for the installed
input, and nothing for any other; what other inputs have left in the lexer is not part of it. -/
theorem taken_eq_take_reading (source : Source) (commands : List Command) :
    let board := (ofSource source).performAll commands
    let ledger := (Ledger.ofSource source).recordAll (ofSource source) commands
    (∀ number origin, ledger.sources[number]? = some origin →
      ledger.taken number = origin.reading.take (ledger.taken number).length) ∧
    (∃ origin token, ledger.sources[ledger.current]? = some origin ∧
      token = origin.reading.get (ledger.taken ledger.current).length ∧
      (board.perform .read).1 = .token token ∧
      ∀ number, (ledger.record (board.perform .read).1 .read).taken number =
        ledger.taken number ++ if number = ledger.current then [token] else []) ∧
    ∀ lexer : Lexer, lexer.input = board.installed → lexer.read = board.lexer.read := by
  intro board ledger
  have start := Ledger.consistent_ofSource source
  obtain ⟨standing, agrees⟩ := (agrees_ofSource source).recordAll start commands
  refine ⟨fun number origin made => ?_, ?_, fun lexer same => Lexer.read_of_input_eq same⟩
  · rw [agrees.whole made, Stream'.take_append_of_le_length _ _ _ le_rfl, List.take_length]
  · have made := List.getElem?_eq_getElem (start.recordAll (ofSource source) commands).current
    exact ⟨_, board.lexer.read.1, made, agrees.token_read made, rfl,
      fun number => ledger.taken_enter _ number⟩

/-- An input is put away while the character behind a reference is put back, and comes again
after another one has been read. -/
theorem taken_eq_take_reading_put_back :
    let outer : Source := ⟨['t'], ['<', '<', 'a', '>', '>', 'z']⟩
    let inner : Source := ⟨['i'], ['q']⟩
    let commands : List Command :=
      [.read, .swap ['k'] inner, .read, .exchange ['k'], .read, .install ['k'], .read]
    let ledger := (Ledger.ofSource outer).recordAll (ofSource outer) commands
    (ledger.sources[0]? = some outer ∧ ledger.sources[1]? = some inner) ∧
      (ledger.taken 0 =
        [⟨.macroReference, ['<', '<', 'a', '>', '>'], ⟨['t'], 1, 1, 1, 5⟩⟩,
          ⟨.passthrough, ['z'], ⟨['t'], 1, 6, 1, 6⟩⟩] ∧
        ledger.taken 0 = outer.reading.take 2) ∧
      ledger.taken 1 =
        [⟨.passthrough, ['q'], ⟨['i'], 1, 1, 1, 1⟩⟩, ⟨.endOfInput, [], ⟨['i'], 1, 1, 1, 1⟩⟩] ∧
      ledger.taken 1 = inner.reading.take 2 := by
  intro outer inner commands ledger
  have made : ledger.sources[0]? = some outer ∧ ledger.sources[1]? = some inner := by decide
  have fromOuter : ((Ledger.ofSource outer).recordAll (ofSource outer) commands).taken 0 =
      [⟨.macroReference, ['<', '<', 'a', '>', '>'], ⟨['t'], 1, 1, 1, 5⟩⟩,
        ⟨.passthrough, ['z'], ⟨['t'], 1, 6, 1, 6⟩⟩] := by decide
  have fromInner : ((Ledger.ofSource outer).recordAll (ofSource outer) commands).taken 1 =
      [⟨.passthrough, ['q'], ⟨['i'], 1, 1, 1, 1⟩⟩,
        ⟨.endOfInput, [], ⟨['i'], 1, 1, 1, 1⟩⟩] := by decide
  obtain ⟨isTaken, _⟩ := taken_eq_take_reading outer commands
  have outerReading := isTaken 0 outer made.1
  have innerReading := isTaken 1 inner made.2
  rw [show ledger.taken 0 = _ from fromOuter] at outerReading ⊢
  rw [show ledger.taken 1 = _ from fromInner] at innerReading ⊢
  exact ⟨made, ⟨rfl, outerReading⟩, rfl, innerReading⟩

end Switchboard

end Literate

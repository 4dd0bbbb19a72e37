/-
This file proves that a run accepts exactly the grammar of documents. The grammar is a
regular expression over the kinds of tokens: text, substitutions and directives stand
anywhere, macro bodies follow one another, and references stand in bodies. A run knows
no expression, only whether a body is open.

The two are compared through inequalities between languages. The documents, together with
what may follow once a body is open, are a solution of five inequalities, one for each
way a token can lead on; so are the lists of kinds that lead from either scope to the
outside. Both are the least solution, hence they are the same.

A list of tokens that leaves the grammar does so at its first token after which no
continuation is a document, or at its end. There a run fails, and what it complains
about is told by the kind of that token.
-/

import Literate.Proofs.Lockstep
import Mathlib.Computability.Language
import Mathlib.Order.CompletePartialOrder

namespace Literate

open scoped Computability

namespace TokenKind

/-! ### The grammar -/

/-- The tokens that may stand in bodies and outside of them. -/
def anywhere : Language TokenKind := {[.passthrough], [.textSubstitution], [.specialDirective]}

/-- The kinds of the tokens of a document. -/
def documents : Language TokenKind :=
  (anywhere∗ * {[.macroStart]} * (anywhere + {[.macroReference]})∗ * {[.macroEnd]})∗ * anywhere∗

/-- What may follow in a document while a body is open. -/
def remainders : Language TokenKind :=
  (anywhere + {[.macroReference]})∗ * ({[.macroEnd]} * documents)

/-! ### Languages that lead on -/

/-- Two languages, of what may come outside of bodies and in an open one, that contain every way
on. -/
structure Solves (outer inner : Language TokenKind) : Prop where
  done : 1 ≤ outer
  outside : anywhere * outer ≤ outer
  opening : {[.macroStart]} * inner ≤ outer
  inside : (anywhere + {[.macroReference]}) * inner ≤ inner
  closing : {[.macroEnd]} * outer ≤ inner

theorem documents_eq :
    documents = anywhere∗ + anywhere∗ * ({[.macroStart]} * remainders) := by
  calc documents
      = (1 + anywhere∗ * {[.macroStart]} * (anywhere + {[.macroReference]})∗ * {[.macroEnd]} *
          (anywhere∗ * {[.macroStart]} * (anywhere + {[.macroReference]})∗ * {[.macroEnd]})∗) *
            anywhere∗ := by
        rw [one_add_mul_kstar]
        rfl
    _ = anywhere∗ + anywhere∗ * ({[.macroStart]} * remainders) := by
        rw [add_mul, one_mul, remainders, documents]
        simp only [mul_assoc]

theorem solves_documents : Solves documents remainders where
  done := by
    rw [documents_eq]
    exact one_le_kstar.trans le_self_add
  outside := by
    rw [documents_eq, mul_add, ← mul_assoc anywhere]
    exact add_le_add mul_kstar_le_kstar (mul_le_mul_left mul_kstar_le_kstar _)
  opening := by
    rw [documents_eq]
    exact (le_mul_of_one_le_left' one_le_kstar).trans le_add_self
  inside := by
    rw [remainders, ← mul_assoc]
    exact mul_le_mul_left mul_kstar_le_kstar _
  closing := le_mul_of_one_le_left' one_le_kstar

/-- The documents are contained in every solution. -/
theorem documents_le {outer inner : Language TokenKind} (solves : Solves outer inner) :
    documents ≤ outer := by
  have free : anywhere∗ ≤ outer := kstar_le_of_mul_le_right solves.done solves.outside
  refine kstar_mul_le free ?_
  calc anywhere∗ * {[.macroStart]} * (anywhere + {[.macroReference]})∗ * {[.macroEnd]} * outer
      = anywhere∗ * ({[.macroStart]} *
          ((anywhere + {[.macroReference]})∗ * ({[.macroEnd]} * outer))) := by
        simp only [mul_assoc]
    _ ≤ anywhere∗ * ({[.macroStart]} * ((anywhere + {[.macroReference]})∗ * inner)) := by
        gcongr
        exact solves.closing
    _ ≤ anywhere∗ * ({[.macroStart]} * inner) := by
        gcongr
        exact kstar_mul_le_self solves.inside
    _ ≤ anywhere∗ * outer := by
        gcongr
        exact solves.opening
    _ ≤ outer := kstar_mul_le_self solves.outside

end TokenKind

/-! ### The scope that tokens lead to -/

namespace Scope

/-- The scope behind a token of a kind that may stand here. -/
def next? : Scope → TokenKind → Option Scope
  | .outside, .macroStart => some .inside
  | .inside, .macroReference => some .inside
  | .inside, .macroEnd => some .outside
  | scope, .passthrough => some scope
  | scope, .textSubstitution => some scope
  | scope, .specialDirective => some scope
  | _, _ => none

/-- The scope behind tokens each of which may stand where it does. -/
def reached? (scope : Scope) (kinds : List TokenKind) : Option Scope := kinds.foldlM next? scope

theorem reached?_cons {scope next : Scope} {kind : TokenKind} (leads : scope.next? kind = some next)
    (kinds : List TokenKind) : scope.reached? (kind :: kinds) = next.reached? kinds := by
  rw [reached?, List.foldlM_cons, leads]
  rfl

theorem reached?_append (scope : Scope) (kinds more : List TokenKind) :
    scope.reached? (kinds ++ more) = (scope.reached? kinds).bind (·.reached? more) :=
  List.foldlM_append

theorem reached?_singleton (scope : Scope) (kind : TokenKind) :
    scope.reached? [kind] = scope.next? kind := by
  cases leads : scope.next? kind with
  | none =>
    rw [reached?, List.foldlM_cons, leads]
    rfl
  | some next => exact reached?_cons leads []

theorem next?_of_anywhere {kind : TokenKind} (free : [kind] ∈ TokenKind.anywhere) (scope : Scope) :
    scope.next? kind = some scope := by
  rcases free with same | same | same <;> cases same <;> cases scope <;> rfl

/-- The kinds of tokens that lead from a scope to the outside. -/
def leading (scope : Scope) : Language TokenKind := {kinds | scope.reached? kinds = some .outside}

theorem cons_mem_leading {scope next : Scope} {kind : TokenKind}
    (leads : scope.next? kind = some next) {kinds : List TokenKind}
    (member : kinds ∈ next.leading) : kind :: kinds ∈ scope.leading :=
  (reached?_cons leads kinds).trans member

theorem anywhere_mul_leading_le (scope : Scope) :
    TokenKind.anywhere * scope.leading ≤ scope.leading := by
  rintro _ ⟨first, free, rest, member, rfl⟩
  obtain ⟨kind, rfl⟩ : ∃ kind, first = [kind] := by
    rcases free with same | same | same <;> exact ⟨_, same⟩
  exact cons_mem_leading (next?_of_anywhere free scope) member

theorem singleton_mul_leading_le {scope next : Scope} {kind : TokenKind}
    (leads : scope.next? kind = some next) :
    ({[kind]} : Language TokenKind) * next.leading ≤ scope.leading := by
  rintro _ ⟨_, rfl, rest, member, rfl⟩
  exact cons_mem_leading leads member

theorem solves_leading : TokenKind.Solves outside.leading inside.leading where
  done := by
    rintro _ rfl
    exact Eq.refl (some outside)
  outside := anywhere_mul_leading_le outside
  opening := singleton_mul_leading_le rfl
  inside := by
    rw [add_mul]
    exact add_le (anywhere_mul_leading_le inside) (singleton_mul_leading_le rfl)
  closing := singleton_mul_leading_le rfl

end Scope

namespace TokenKind

theorem cons_mem_of_mul_le {symbols language wider : Language TokenKind} {kind : TokenKind}
    (included : symbols * language ≤ wider) (symbol : [kind] ∈ symbols) {kinds : List TokenKind}
    (member : kinds ∈ language) : kind :: kinds ∈ wider :=
  included ⟨[kind], symbol, kinds, member, rfl⟩

/-- What leads to the outside is contained in every solution. -/
theorem mem_of_leading {outer inner : Language TokenKind} (solves : Solves outer inner)
    (kinds : List TokenKind) :
    (kinds ∈ Scope.outside.leading → kinds ∈ outer) ∧
      (kinds ∈ Scope.inside.leading → kinds ∈ inner) := by
  induction kinds with
  | nil => exact ⟨fun _ => solves.done rfl, nofun⟩
  | cons kind kinds inductionHypothesis =>
    obtain ⟨fromOutside, fromInside⟩ := inductionHypothesis
    have free (standsAnywhere : [kind] ∈ anywhere) :
        (kind :: kinds ∈ Scope.outside.leading → kind :: kinds ∈ outer) ∧
          (kind :: kinds ∈ Scope.inside.leading → kind :: kinds ∈ inner) := by
      have kept (scope : Scope) : scope.reached? (kind :: kinds) = scope.reached? kinds :=
        Scope.reached?_cons (Scope.next?_of_anywhere standsAnywhere scope) kinds
      exact ⟨fun member => cons_mem_of_mul_le solves.outside standsAnywhere
          (fromOutside ((kept .outside).symm.trans member)),
        fun member => cons_mem_of_mul_le solves.inside (.inl standsAnywhere)
          (fromInside ((kept .inside).symm.trans member))⟩
    cases kind with
    | passthrough => exact free (.inl rfl)
    | textSubstitution => exact free (.inr (.inl rfl))
    | specialDirective => exact free (.inr (.inr rfl))
    | macroStart =>
      exact ⟨fun member => cons_mem_of_mul_le solves.opening rfl (fromInside member), nofun⟩
    | macroReference =>
      exact ⟨nofun, fun member => cons_mem_of_mul_le solves.inside (.inr rfl) (fromInside member)⟩
    | macroEnd =>
      exact ⟨nofun, fun member => cons_mem_of_mul_le solves.closing rfl (fromOutside member)⟩
    | endOfInput => exact ⟨nofun, nofun⟩

/-- A list of kinds is that of a document exactly if it leads from the outside to the outside. -/
theorem mem_documents_iff (kinds : List TokenKind) :
    kinds ∈ documents ↔ Scope.outside.reached? kinds = some .outside :=
  ⟨fun member => documents_le Scope.solves_leading member,
    fun leads => (mem_of_leading solves_documents kinds).1 leads⟩

end TokenKind

/-! ### Tokens that form a document -/

/-- The text of a directive whose key, which is what stands in front of the first `=`, is known. -/
def KnownKey (text : Text) : Prop :=
  ∃ key rest, text = '#' :: '[' :: key ++ '=' :: rest ∧ '=' ∉ key ∧
    (key = Text.ofString "include" ∨ key = Text.ofString "language")

theorem Event.knownKey_spelling (given : Directive) :
    KnownKey (Event.directive given).spelling := by
  have spelled : (Event.directive given).spelling =
      '#' :: '[' :: Text.ofString given.key ++ '=' :: (given.value ++ [']']) := by simp [spelling]
  refine ⟨Text.ofString given.key, given.value ++ [']'], spelled, (key_free given).2, ?_⟩
  cases given with
  | inclusion => exact .inl rfl
  | language => exact .inr rfl

/-- A directive is read exactly if its key is known. -/
theorem Delimiter.knownKey_iff {text : Text} (isDirective : Delimiter .specialDirective text) :
    KnownKey text ↔ ∃ given, Event.decodeDirective text = .ok given := by
  constructor
  · rintro ⟨key, rest, same, absent, known⟩
    obtain _ | _ | _ | _ | @⟨other, value, _, otherAbsent, _, _⟩ := isDirective
    have sameCut : Text.cutAt? '=' (other ++ '=' :: (value ++ [']'])) = some (key, rest) :=
      Text.cutAt?_eq_some_iff.mpr ⟨by simpa using same, absent⟩
    cases (Text.cutAt?_eq_some_iff.mpr ⟨rfl, otherAbsent⟩).symm.trans sameCut
    rw [Event.decodeDirective_of_key absent]
    rcases known with rfl | rfl
    · exact ⟨_, if_pos rfl⟩
    · exact ⟨_, (if_neg (by decide)).trans (if_pos rfl)⟩
  · rintro ⟨given, decoded⟩
    rcases isDirective.decodeDirective with ⟨said, rfl⟩ | undecoded
    · exact Event.knownKey_spelling said
    · rw [undecoded] at decoded
      cases decoded

namespace Token

/-- Tokens that form a document: their kinds do, and the keys of all directives are known. -/
structure Grammatical (tokens : List Token) : Prop where
  kinds : tokens.map Token.kind ∈ TokenKind.documents
  keys : ∀ token ∈ tokens, token.kind = .specialDirective → KnownKey token.text

/-- Tokens with which some document begins. -/
def Begins (tokens : List Token) : Prop := ∃ more, Grammatical (tokens ++ more)

/-- What is complained about where a token leaves the grammar. -/
def complaint? (token : Token) : Option Complaint :=
  match token.kind with
  | .macroStart => some .nestedMacro
  | .macroEnd => some .danglingMacroEnd
  | .macroReference => some .referenceOutsideMacro
  | .specialDirective => some (.undecoded (.unsupportedDirective token.text))
  | .endOfInput | .passthrough | .textSubstitution => none

end Token

/-! ### What a token admits -/

/-- A token that is an event leads to the scope behind the event. -/
theorem Scope.next?_of_event {scope after : Scope} {kind : TokenKind} {text : Text} {event : Event}
    (meant : scope.meaning kind text = .event event after) : scope.next? kind = some after := by
  cases tells_of_meaning meant with
  | opening | closing | reference => rfl
  | passage | substitution | directive => cases scope <;> rfl

namespace Token

/-- A token may stand in a scope and leads to the scope after it. -/
structure Admitted (scope : Scope) (token : Token) (after : Scope) : Prop where
  leads : scope.next? token.kind = some after
  key : token.kind = .specialDirective → KnownKey token.text

theorem admitted_of_event {scope after : Scope} {token : Token} {event : Event}
    (legible : Legible token.kind token.text)
    (meant : scope.meaning token.kind token.text = .event event after) :
    token.Admitted scope after := by
  refine ⟨Scope.next?_of_event meant, fun isDirective => ?_⟩
  rw [isDirective] at legible meant
  obtain _ | _ | isDelimiter := legible
  rw [isDelimiter.knownKey_iff]
  obtain _ | _ | _ | _ | _ | @⟨_, _, given, decoded⟩ := Scope.tells_of_meaning meant
  exact ⟨given, decoded⟩

/-- A token that is refused may not stand in its scope, and its kind tells the complaint. -/
theorem not_admitted_of_refused {scope : Scope} {token : Token} {complaint : Complaint}
    (legible : Legible token.kind token.text) (more : token.kind ≠ .endOfInput)
    (meant : scope.meaning token.kind token.text = .refused complaint) :
    (∀ after, ¬ token.Admitted scope after) ∧ token.complaint? = some complaint := by
  obtain ⟨kind, text, position⟩ := token
  have fits := legible.fits_meaning scope
  rw [meant] at fits
  obtain _ | _ | about := fits
  have kindIs {other : TokenKind} (isDelimiter : Delimiter other text) : kind = other := by
    rcases legible.kind_eq isDelimiter with same | isText
    · exact same
    · cases isText
      cases scope <;> cases meant
  cases about with
  | nested isStart =>
    cases kindIs isStart
    refine ⟨fun after admitted => ?_, rfl⟩
    cases scope with
    | outside =>
      simp only [Scope.meaning] at meant
      cases decoded : Event.decodeMacroStart text <;> simp [decoded, Meaning.decoded] at meant
    | inside => cases admitted.leads
  | dangling isEnd =>
    cases kindIs isEnd
    refine ⟨fun after admitted => ?_, rfl⟩
    cases scope with
    | outside => cases admitted.leads
    | inside => cases meant
  | homeless isReference =>
    cases kindIs isReference
    refine ⟨fun after admitted => ?_, rfl⟩
    cases scope with
    | outside => cases admitted.leads
    | inside =>
      simp only [Scope.meaning] at meant
      cases decoded : Event.decodeMacroReference text <;> simp [decoded, Meaning.decoded] at meant
  | unterminated =>
    cases legible with
    | ended => exact absurd rfl more
    | passage nonempty => exact absurd rfl nonempty
    | delimiter isDelimiter => exact absurd rfl isDelimiter.ne_nil
  | unsupported isDirective =>
    cases kindIs isDirective
    refine ⟨fun after admitted => ?_, rfl⟩
    obtain ⟨given, decoded⟩ := isDirective.knownKey_iff.mp (admitted.key rfl)
    rw [Scope.meaning_of_decodeDirective decoded] at meant
    cases meant

/-! ### Lists of tokens -/

/-- Each of the tokens may stand where it does, and they lead from one scope to another. -/
structure Admits (scope : Scope) (tokens : List Token) (after : Scope) : Prop where
  leads : scope.reached? (tokens.map Token.kind) = some after
  keys : ∀ token ∈ tokens, token.kind = .specialDirective → KnownKey token.text

theorem Admits.unique {scope first second : Scope} {tokens : List Token}
    (toFirst : Admits scope tokens first) (toSecond : Admits scope tokens second) :
    first = second :=
  Option.some.inj (toFirst.leads.symm.trans toSecond.leads)

theorem admits_concat_iff {scope after : Scope} {tokens : List Token} {token : Token} :
    Admits scope (tokens ++ [token]) after ↔
      ∃ between, Admits scope tokens between ∧ token.Admitted between after := by
  constructor
  · rintro ⟨leads, keys⟩
    rw [List.map_append, Scope.reached?_append] at leads
    obtain ⟨between, reached, leadsOn⟩ := Option.bind_eq_some_iff.mp leads
    obtain ⟨keysBefore, keyLast⟩ := List.forall_mem_append.mp keys
    exact ⟨between, ⟨reached, keysBefore⟩, (Scope.reached?_singleton _ _).symm.trans leadsOn,
      keyLast token List.mem_cons_self⟩
  · rintro ⟨between, ⟨reached, keysBefore⟩, leads, keyLast⟩
    refine ⟨?_, List.forall_mem_append.mpr ⟨keysBefore, ?_⟩⟩
    · rw [List.map_append, Scope.reached?_append, reached]
      exact (Scope.reached?_singleton _ _).trans leads
    · exact List.forall_mem_singleton.mpr keyLast

/-- Tokens form a document exactly if they lead from the outside to the outside. -/
theorem grammatical_iff {tokens : List Token} :
    Grammatical tokens ↔ Admits .outside tokens .outside :=
  ⟨fun ⟨kinds, keys⟩ => ⟨(TokenKind.mem_documents_iff _).mp kinds, keys⟩,
    fun ⟨leads, keys⟩ => ⟨(TokenKind.mem_documents_iff _).mpr leads, keys⟩⟩

theorem Begins.of_append {tokens more : List Token} (begins : Begins (tokens ++ more)) :
    Begins tokens := by
  obtain ⟨rest, grammatical⟩ := begins
  exact ⟨more ++ rest, by rwa [← List.append_assoc]⟩

theorem Grammatical.begins {tokens : List Token} (grammatical : Grammatical tokens) :
    Begins tokens := ⟨[], by rwa [List.append_nil]⟩

/-- Some document begins with tokens exactly if they lead anywhere. -/
theorem begins_iff {tokens : List Token} :
    Begins tokens ↔ ∃ after, Admits .outside tokens after := by
  constructor
  · rintro ⟨more, grammatical⟩
    obtain ⟨leads, keys⟩ := grammatical_iff.mp grammatical
    rw [List.map_append, Scope.reached?_append] at leads
    obtain ⟨after, reached, _⟩ := Option.bind_eq_some_iff.mp leads
    exact ⟨after, reached, fun token member => keys token (List.mem_append_left more member)⟩
  · rintro ⟨after, admits⟩
    cases after with
    | outside => exact (grammatical_iff.mpr admits).begins
    | inside =>
      -- The end of the body that is still open makes a document of the tokens.
      refine ⟨[⟨.macroEnd, [], ⟨[], 0, 0, 0, 0⟩⟩], grammatical_iff.mpr (admits_concat_iff.mpr ?_)⟩
      exact ⟨.inside, admits, rfl, nofun⟩

end Token

/-! ### The first fault -/

/-- The error at the first place where a source leaves the grammar: at a token behind which no
document goes on, or at the end of a source that more tokens would make a document. -/
inductive Source.FirstFault (source : Source) : RunError → Prop where
  | token {before behind : List Token} {token : Token} {complaint : Complaint} :
      source.tokens = before ++ token :: behind → Token.Begins before →
      ¬ Token.Begins (before ++ [token]) → token.complaint? = some complaint →
      FirstFault source ⟨token.position, complaint⟩
  | ending : Token.Begins source.tokens → ¬ Token.Grammatical source.tokens →
      FirstFault source ⟨source.ending, .unterminatedMacro⟩

namespace Source

/-- The grammar's judgement on a source. -/
def Judged (source : Source) : Option RunError → Prop
  | none => Token.Grammatical source.tokens
  | some error => source.FirstFault error

/-- What a walk on which nothing is opened comes to, behind tokens that led to its scope, is the
judgement of the grammar. -/
theorem judged_of_walk {source : Source} {names : List Text} {scope : Scope}
    {earlier tokens : List Token} {events : List Event} {result : Option RunError}
    (walk : Walk .nothing names source.ending scope [] tokens events result)
    (split : source.tokens = earlier ++ tokens) (admits : Token.Admits .outside earlier scope) :
    source.Judged result := by
  induction walk using Walk.nothing_induction generalizing earlier with
  | ended =>
    rw [List.append_nil] at split
    exact Token.grammatical_iff.mpr (split ▸ admits)
  | unterminated =>
    rw [List.append_nil] at split
    rw [← split] at admits
    refine .ending (Token.begins_iff.mpr ⟨_, admits⟩) fun grammatical => ?_
    cases admits.unique (Token.grammatical_iff.mp grammatical)
  | @refused scope token tokens complaint meant =>
    have member : token ∈ source.tokens := split ▸ List.mem_append_right earlier List.mem_cons_self
    obtain ⟨legible, more⟩ := Input.legible_of_mem_readAll member
    obtain ⟨never, blamed⟩ := Token.not_admitted_of_refused legible more meant
    refine .token split (Token.begins_iff.mpr ⟨scope, admits⟩) (fun begins => ?_) blamed
    obtain ⟨after, admitsAll⟩ := Token.begins_iff.mp begins
    obtain ⟨between, admitsEarlier, admitted⟩ := Token.admits_concat_iff.mp admitsAll
    exact never after (admits.unique admitsEarlier ▸ admitted)
  | @event scope after token tokens event events result meant _ inductionHypothesis =>
    have member : token ∈ source.tokens := split ▸ List.mem_append_right earlier List.mem_cons_self
    obtain ⟨legible, _⟩ := Input.legible_of_mem_readAll member
    have admitted := Token.admitted_of_event legible meant
    have splitBehind : source.tokens = earlier ++ [token] ++ tokens := by
      rw [split, List.append_assoc, List.singleton_append]
    exact inductionHypothesis splitBehind (Token.admits_concat_iff.mpr ⟨scope, admits, admitted⟩)

theorem not_begins_of_leaves {tokens before behind : List Token} {token : Token}
    (split : tokens = before ++ token :: behind) (leaves : ¬ Token.Begins (before ++ [token])) :
    ¬ Token.Begins tokens := by
  intro begins
  rw [split, ← List.singleton_append, ← List.append_assoc] at begins
  exact leaves begins.of_append

theorem FirstFault.not_grammatical {source : Source} {error : RunError}
    (fault : source.FirstFault error) : ¬ Token.Grammatical source.tokens := by
  cases fault with
  | token split _ leaves _ =>
    exact fun grammatical => not_begins_of_leaves split leaves grammatical.begins
  | ending _ incomplete => exact incomplete

/-- Where one token leaves the grammar, no later one can be the first to leave it. -/
theorem eq_of_leaves {before more behind rest : List Token} {first second : Token}
    (same : first :: behind = more ++ second :: rest)
    (leaves : ¬ Token.Begins (before ++ [first])) (begins : Token.Begins (before ++ more)) :
    first = second := by
  cases more with
  | nil => exact (List.cons_eq_cons.mp same).1
  | cons head more =>
    obtain ⟨rfl, _⟩ := List.cons_eq_cons.mp same
    exact absurd begins (not_begins_of_leaves rfl leaves)

theorem FirstFault.unique {source : Source} {first second : RunError}
    (isFirst : source.FirstFault first) (isSecond : source.FirstFault second) : first = second := by
  cases isFirst with
  | @token before behind token complaint split begins leaves blamed =>
    cases isSecond with
    | @token other rest otherToken _ otherSplit otherBegins otherLeaves otherBlamed =>
      have sameToken : token = otherToken := by
        rcases List.append_eq_append_iff.mp (split.symm.trans otherSplit) with
          ⟨more, rfl, same⟩ | ⟨more, rfl, same⟩
        · exact eq_of_leaves same leaves otherBegins
        · exact (eq_of_leaves same otherLeaves begins).symm
      subst sameToken
      cases blamed.symm.trans otherBlamed
      rfl
    | ending wholeBegins => exact absurd wholeBegins (not_begins_of_leaves split leaves)
  | ending wholeBegins =>
    cases isSecond with
    | token split _ leaves => exact absurd wholeBegins (not_begins_of_leaves split leaves)
    | ending => rfl

/-- A source leaves the grammar at one place at most. -/
theorem Judged.unique {source : Source} {first second : Option RunError}
    (isFirst : source.Judged first) (isSecond : source.Judged second) : first = second := by
  cases first with
  | none =>
    cases second with
    | none => rfl
    | some error => exact absurd isFirst isSecond.not_grammatical
  | some error =>
    cases second with
    | none => exact absurd isSecond isFirst.not_grammatical
    | some other => exact congrArg some (FirstFault.unique isFirst isSecond)

end Source

/-! ### Brackets -/

namespace Event

theorem Bracketed.concat {before between after : Scope} {events : List Event} {event : Event}
    (bracketed : Bracketed before events between) (leads : event.Leads between after) :
    Bracketed before (events ++ [event]) after := by
  induction bracketed with
  | done => exact .step leads (.done after)
  | step first _ inductionHypothesis => exact .step first (inductionHypothesis leads)

/-- Whatever scope well bracketed events have led to, they can be continued to the outside. -/
theorem Bracketed.exists_continuation {before after : Scope} {events : List Event}
    (bracketed : Bracketed before events after) :
    ∃ more, Bracketed before (events ++ more) .outside := by
  cases after with
  | outside => exact ⟨[], by rwa [List.append_nil]⟩
  | inside => exact ⟨[.closing], bracketed.concat .closing⟩

end Event

namespace Run

variable {σ : Type}

/-- The events that a sink has been told are bracketed, and a run that completes has closed all
bodies. -/
theorem go_bracketed (sink : Sink σ) (bound : Nat) (run : Run (List Event × σ))
    (bracketed : Event.Bracketed .outside run.state.1 run.scope) :
    let outcome := run.go sink.logged bound
    ∃ after, Event.Bracketed .outside outcome.state.1 after ∧
      (outcome.verdict = .completed → after = .outside) := by
  refine go_of_invariant
    (fun run : Run (List Event × σ) => Event.Bracketed .outside run.state.1 run.scope)
    (fun outcome => ∃ after, Event.Bracketed .outside outcome.state.1 after ∧
      (outcome.verdict = .completed → after = .outside)) ?_ ?_ ?_ bound bracketed
  · intro run next during made
    have taken := taken_step sink.logged run
    rw [made] at taken
    cases taken with
    | told _ _ _ leads => exact during.concat leads
    | @answered given => exact during.concat (.directive run.scope given)
    | resumed => exact during
  · intro run outcome during made
    have taken := taken_step sink.logged run
    rw [made] at taken
    cases taken with
    | @rejected given => exact ⟨run.scope, during.concat (.directive run.scope given), nofun⟩
    | completed outside => exact ⟨run.scope, during, fun _ => outside⟩
    | refused => exact ⟨run.scope, during, nofun⟩
  · intro run during
    exact ⟨run.scope, during, nofun⟩

end Run

/-! ### Runs and the grammar -/

/-- A run accepts exactly the grammar of documents, and what it tells is well bracketed. With a
sink that opens nothing and never fails, and with enough steps, it completes exactly if the tokens
of the source form a document, and otherwise fails at the first place where they leave the grammar,
with the complaint that belongs there. With any sink whatever, and after any number of steps, the
events told so far are the beginning of well bracketed ones; a log of them that is kept beside
the sink changes nothing else. When a run has completed, all bodies are closed. -/
theorem runWith_grammatical {σ : Type} (source : Source) (sink : Sink σ) (bound : Nat) (state : σ) :
    let ran := (Processor.runWith { inputs := .ofSource source } sink bound state).1
    let logged :=
      (Processor.runWith { inputs := .ofSource source } sink.logged bound ([], state)).1
    (sink.Quiet → (Inputs.ofSource source).budget ≤ bound →
      ran.verdict ≠ .exhausted ∧
      (ran.verdict = .completed ↔ Token.Grammatical source.tokens) ∧
      ∀ error, ran.verdict = .failed error ↔ source.FirstFault error) ∧
    (logged.verdict = ran.verdict ∧ logged.inputs = ran.inputs ∧ logged.state.2 = ran.state) ∧
    (∃ more, Event.Bracketed .outside (logged.state.1 ++ more) .outside) ∧
    (ran.verdict = .completed → Event.Bracketed .outside logged.state.1 .outside) := by
  intro ran logged
  have sameRun : logged.verdict = ran.verdict ∧ logged.inputs = ran.inputs ∧
      logged.state.2 = ran.state :=
    Run.go_matches sink.logged_matches bound rfl (.ofSource source) .outside
  obtain ⟨after, bracketed, closed⟩ :=
    Run.go_bracketed sink bound ⟨.ofSource source, .outside, ([], state)⟩ (.done .outside)
  refine ⟨fun quiet enough => ?_, sameRun, bracketed.exists_continuation, fun completed => ?_⟩
  · have ends := quiet.ends state enough
    obtain ⟨events, result, walks, verdict, _⟩ :=
      Source.exists_walks (quiet.matches Sink.quiet_opening_nothing) trivial ends
    have nothing : Token.Admits .outside [] .outside := ⟨rfl, fun _ member => nomatch member⟩
    have judged : source.Judged result := Source.judged_of_walk walks rfl nothing
    have verdictIff (other : Option RunError) :
        ran.verdict = .ofResult other ↔ source.Judged other := by
      rw [show ran.verdict = .ofResult result from verdict]
      constructor
      · intro same
        exact Verdict.ofResult_injective same ▸ judged
      · intro otherJudged
        rw [judged.unique otherJudged]
    exact ⟨ends, verdictIff none, fun error => verdictIff (some error)⟩
  · rw [closed (sameRun.1.trans completed)] at bracketed
    exact bracketed

/-- In an open body a directive with an unknown key comes before a nested macro, and the body is
never closed. The first of the three faults is the one that is told. -/
theorem runWith_grammatical_unknown_key :
    let source : Source := ⟨['d'], Event.document [.opening .plain ['a']] ++
      ['#', '[', 'k', '=', 'v', ']'] ++ Event.document [.opening .plain ['b']]⟩
    ¬ Token.Grammatical source.tokens ∧
      source.FirstFault ⟨⟨['d'], 1, 7, 1, 12⟩,
        .undecoded (.unsupportedDirective ['#', '[', 'k', '=', 'v', ']'])⟩ := by
  intro source
  have failed : (Processor.runWith { inputs := .ofSource source } .recording 20 []).1.verdict =
      .failed ⟨⟨['d'], 1, 7, 1, 12⟩,
        .undecoded (.unsupportedDirective ['#', '[', 'k', '=', 'v', ']'])⟩ := by decide
  obtain ⟨_, completes, fails⟩ :=
    (runWith_grammatical source .recording 20 []).1 (Sink.quiet_observing _) (by decide)
  refine ⟨fun grammatical => ?_, (fails _).mp failed⟩
  cases failed.symm.trans (completes.mpr grammatical)

end Literate
